import Bulletin.Preset.Registry
import Bulletin.Proofs.Document.Addressing
import Mathlib.Data.List.Forall2
import Mathlib.Data.List.Nodup
import Mathlib.Data.List.Perm.Subperm
/-!
# The ids of documents

A document holds the ids of its sections, of their widgets and of everything nested in them. New
ids come from a supply. Where the supply avoids the ids in use, and never gives an id twice, an
operation that renews ids keeps them distinct.
-/

namespace Bulletin

/-! ## Ids -/

def WidgetBody.nestedIds : WidgetBody → List String
  | .buttonGroup body => body.buttons.map LinkButton.id
  | .meeting body => body.buttons.map LinkButton.id ++ body.details.map DetailRow.id
  | .list body => body.items.map ListEntry.id
  | _ => []

def WidgetBody.unlabelled : WidgetBody → WidgetBody
  | .buttonGroup body =>
      .buttonGroup { body with buttons := body.buttons.map fun button => { button with id := "" } }
  | .meeting body =>
      .meeting
        { body with
          details := body.details.map fun row => { row with id := "" }
          buttons := body.buttons.map fun button => { button with id := "" } }
  | .list body => .list { body with items := body.items.map fun entry => { entry with id := "" } }
  | body => body

def Widget.ids (widget : Widget) : List String :=
  widget.id :: widget.body.nestedIds

def Section.ids (part : Section) : List String :=
  part.id :: part.widgets.flatMap Widget.ids

def Document.ids (document : Document) : List String :=
  document.sections.flatMap Section.ids

def WidgetPreset.ids (preset : WidgetPreset) : List String :=
  preset.id :: preset.body.nestedIds

def Registry.widgetIds (registry : Registry) : List String :=
  registry.widgets.flatMap WidgetPreset.ids

/-! ## Supplies -/

namespace IdSupply

def upcoming (supply : IdSupply) (count : Nat) : List String :=
  (List.range' supply.drawn count).map supply.idAt

def skip (supply : IdSupply) (count : Nat) : IdSupply :=
  { supply with drawn := supply.drawn + count }

/-- None of the ids in use is still to be drawn. -/
def Avoids (supply : IdSupply) (used : List String) : Prop :=
  ∀ index, supply.drawn ≤ index → supply.idAt index ∉ used

variable {supply : IdSupply} {count : Nat} {id : String}

theorem skip_skip (supply : IdSupply) (first second : Nat) :
    (supply.skip first).skip second = supply.skip (first + second) := by
  rw [skip, skip, skip, Nat.add_assoc]

theorem upcoming_succ (supply : IdSupply) (count : Nat) :
    supply.upcoming (count + 1) =
      supply.idAt supply.drawn :: (supply.skip 1).upcoming count := rfl

theorem upcoming_add (supply : IdSupply) (first second : Nat) :
    supply.upcoming (first + second) =
      supply.upcoming first ++ (supply.skip first).upcoming second := by
  have indices := @List.range'_append supply.drawn first second 1
  rw [Nat.one_mul] at indices
  rw [upcoming, ← indices, List.map_append]
  rfl

theorem mem_upcoming :
    id ∈ supply.upcoming count ↔
      ∃ index, supply.drawn ≤ index ∧ index < supply.drawn + count ∧ supply.idAt index = id := by
  simp [upcoming, List.mem_range'_1, and_assoc]

theorem nodup_upcoming (injective : Function.Injective supply.idAt) (count : Nat) :
    (supply.upcoming count).Nodup :=
  List.Nodup.map injective (List.nodup_range' 1)

theorem Avoids.disjoint {used : List String} (avoids : supply.Avoids used) (count : Nat) :
    used.Disjoint (supply.upcoming count) := by
  intro id isUsed isUpcoming
  rcases mem_upcoming.mp isUpcoming with ⟨index, later, -, rfl⟩
  exact avoids index later isUsed

theorem Avoids.skip {used : List String} (avoids : supply.Avoids used) (count : Nat) :
    (supply.skip count).Avoids used :=
  fun index later => avoids index (Nat.le_of_add_right_le later)

theorem avoids_upcoming (injective : Function.Injective supply.idAt) (count : Nat) :
    (supply.skip count).Avoids (supply.upcoming count) := by
  intro index later isUpcoming
  rcases mem_upcoming.mp isUpcoming with ⟨other, -, earlier, same⟩
  rw [injective same] at earlier
  exact Nat.not_lt.mpr later earlier

/-- Ids of one letter, each longer by one than the one before. -/
def tallies : IdSupply where
  idAt index := String.ofList (List.replicate (index + 1) 'i')
  drawn := 0

theorem injective_tallies : Function.Injective tallies.idAt := by
  intro first second same
  have letters := congrArg List.length (String.ofList_injective same)
  rw [List.length_replicate, List.length_replicate] at letters
  exact Nat.succ.inj letters

theorem tallies_avoids {used : List String} (others : ∀ id ∈ used, id.toList.head? ≠ some 'i')
    (count : Nat) : (tallies.skip count).Avoids used := by
  intro index _ isUsed
  apply others _ isUsed
  rw [skip, tallies, String.toList_ofList]
  rfl

end IdSupply

/-! ## Draws -/

/-- The ids of what is computed are those that were drawn, each of them once. -/
def Fresh.Draws (computation : Fresh α) (idsOf : α → List String) (count : Nat) : Prop :=
  ∀ supply, (idsOf (computation.run supply).1).Perm (supply.upcoming count) ∧
    (computation.run supply).2 = supply.skip count

theorem run_rekeyAll (idOf : α → String) (setId : String → α → α)
    (sets : ∀ id item, idOf (setId id item) = id) (items : List α) (supply : IdSupply) :
    (((rekeyAll setId items).run supply).1).map idOf = supply.upcoming items.length ∧
      ((rekeyAll setId items).run supply).2 = supply.skip items.length := by
  induction items generalizing supply with
  | nil => exact ⟨rfl, rfl⟩
  | cons item items induction =>
      rcases induction (supply.skip 1) with ⟨ids, rest⟩
      constructor
      · rw [List.length_cons, IdSupply.upcoming_succ, ← ids]
        exact congrArg (· :: _) (sets _ item)
      · rw [List.length_cons, Nat.add_comm, ← IdSupply.skip_skip, ← rest]
        rfl

theorem map_eq_of_forall₂ {relation : α → α → Prop} (see : α → β)
    (same : ∀ item other, relation item other → see other = see item) {items others : List α}
    (related : List.Forall₂ relation items others) : others.map see = items.map see := by
  induction related with
  | nil => rfl
  | cons head _ induction => rw [List.map_cons, List.map_cons, same _ _ head, induction]

theorem forall₂_rekeyAll {relation : α → α → Prop} {setId : String → α → α}
    (renewed : ∀ id item, relation item (setId id item)) (items : List α) (supply : IdSupply) :
    List.Forall₂ relation items ((rekeyAll setId items).run supply).1 := by
  induction items generalizing supply with
  | nil => exact .nil
  | cons item items induction => exact .cons (renewed _ item) (induction (supply.skip 1))

theorem map_rekeyAll (see : α → β) (setId : String → α → α)
    (unseen : ∀ id item, see (setId id item) = see item) (items : List α) (supply : IdSupply) :
    (((rekeyAll setId items).run supply).1).map see = items.map see :=
  map_eq_of_forall₂ see (fun _ _ same => same)
    (forall₂_rekeyAll (fun id item => unseen id item) items supply)

theorem WidgetBody.unlabelled_rekey (body : WidgetBody) (supply : IdSupply) :
    (body.rekey.run supply).1.unlabelled = body.unlabelled := by
  have links := map_rekeyAll (fun button : LinkButton => { button with id := "" })
    (fun id button => { button with id }) fun _ _ => rfl
  cases body with
  | buttonGroup body =>
      exact congrArg (fun buttons => buttonGroup ⟨buttons⟩) (links body.buttons supply)
  | list body =>
      have entries := map_rekeyAll (fun entry : ListEntry => { entry with id := "" })
        (fun id entry => { entry with id }) (fun _ _ => rfl) body.items supply
      exact congrArg (fun items => list { body with items }) entries
  | meeting body =>
      -- The details are renewed behind the buttons, wherever the supply is then.
      have rows := map_rekeyAll (fun row : DetailRow => { row with id := "" })
        (fun id row => { row with id }) (fun _ _ => rfl) body.details
      exact congrArg₂ (fun details buttons => meeting { body with details, buttons }) (rows _)
        (links body.buttons supply)
  | _ => rfl

theorem WidgetBody.draws_rekey (body : WidgetBody) :
    Fresh.Draws body.rekey nestedIds body.nestedIds.length := by
  intro supply
  cases body with
  | buttonGroup body =>
      rcases run_rekeyAll LinkButton.id (fun id button => { button with id }) (fun _ _ => rfl)
        body.buttons supply with ⟨ids, rest⟩
      rw [nestedIds, List.length_map]
      exact ⟨.of_eq ids, rest⟩
  | list body =>
      rcases run_rekeyAll ListEntry.id (fun id entry => { entry with id }) (fun _ _ => rfl)
        body.items supply with ⟨ids, rest⟩
      rw [nestedIds, List.length_map]
      exact ⟨.of_eq ids, rest⟩
  | meeting body =>
      rcases run_rekeyAll LinkButton.id (fun id button => { button with id }) (fun _ _ => rfl)
        body.buttons supply with ⟨buttonIds, behindButtons⟩
      rcases run_rekeyAll DetailRow.id (fun id row => { row with id }) (fun _ _ => rfl)
        body.details (supply.skip body.buttons.length) with ⟨rowIds, rest⟩
      rw [nestedIds, List.length_append, List.length_map, List.length_map,
        IdSupply.upcoming_add, ← IdSupply.skip_skip, ← buttonIds, ← rowIds, ← rest,
        ← behindButtons]
      exact ⟨.refl _, rfl⟩
  | _ => exact ⟨.refl _, rfl⟩

namespace Widget

theorem draws_ofBody (body : WidgetBody) :
    Fresh.Draws (ofBody body) ids (body.nestedIds.length + 1) := by
  intro supply
  rcases body.draws_rekey supply with ⟨nested, behind⟩
  have result : (ofBody body).run supply =
      (⟨(supply.skip body.nestedIds.length).idAt (supply.drawn + body.nestedIds.length),
        (body.rekey.run supply).1⟩, supply.skip (body.nestedIds.length + 1)) := by
    rw [← IdSupply.skip_skip, ← behind]
    have drawn : (body.rekey.run supply).2.drawn = supply.drawn + body.nestedIds.length := by
      rw [behind]
      rfl
    rw [← drawn]
    rfl
  rw [result, IdSupply.upcoming_add]
  refine ⟨?_, rfl⟩
  exact (nested.cons _).trans (List.perm_append_singleton _ _).symm

theorem nestedIds_new (kind : WidgetKind) : (WidgetBody.new kind).nestedIds = [] := by
  cases kind <;> rfl

theorem draws_new (kind : WidgetKind) : Fresh.Draws (new kind) ids 1 := by
  intro supply
  have none := nestedIds_new kind
  refine ⟨?_, rfl⟩
  have ids_eq : ((new kind).run supply).1.ids =
      supply.idAt supply.drawn :: (WidgetBody.new kind).nestedIds := rfl
  rw [ids_eq, none]
  exact .refl _

end Widget

theorem Section.draws_new : Fresh.Draws Section.new Section.ids 1 :=
  fun _ => ⟨.refl _, rfl⟩

end Bulletin
