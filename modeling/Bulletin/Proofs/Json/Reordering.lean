import Bulletin.Json.Basic
import Mathlib.Data.List.Forall2
import Mathlib.Data.List.Perm.Basic
import Mathlib.Data.Option.Basic
/-!
# Members in any order

Values that differ in the order of members alone, in whatever objects inside them. A fold over
items in another order ends alike if any two of its steps may be exchanged.
-/

namespace Bulletin.Json

/-! ## Folds -/

section Folds

variable {same : σ → σ → Prop}

theorem rel_bind {first second : Option α} {inFirst : α → α → Prop}
    (start : Option.Rel inFirst first second) {next after : α → Option σ}
    (goesOn : ∀ value other, inFirst value other → Option.Rel same (next value) (after other)) :
    Option.Rel same (first >>= next) (second >>= after) := by
  cases start with
  | none => exact .none
  | some holds => exact goesOn _ _ holds

theorem bind_eq_of_rel {first second : Option σ} (start : Option.Rel same first second)
    {next : σ → Option β} (goesOn : ∀ value other, same value other → next value = next other) :
    first.bind next = second.bind next := by
  cases start with
  | none => rfl
  | some holds => exact goesOn _ _ holds

theorem rel_map {first second : Option α} {inFirst : α → α → Prop}
    (start : Option.Rel inFirst first second) {f g : α → σ}
    (maps : ∀ value other, inFirst value other → same (f value) (g other)) :
    Option.Rel same (first.map f) (second.map g) := by
  cases start with
  | none => exact .none
  | some holds => exact .some (maps _ _ holds)

theorem rel_trans {inLeft inRight : σ → σ → Prop} {first second third : Option σ}
    (left : Option.Rel inLeft first second) (right : Option.Rel inRight second third)
    (composes : ∀ value between other, inLeft value between → inRight between other →
      same value other) :
    Option.Rel same first third := by
  cases left with
  | none =>
      cases right
      exact .none
  | some holds =>
      cases right with
      | some also => exact .some (composes _ _ _ holds also)

theorem foldlM_image (f : σ → τ) {step : σ → β → Option σ} {image : τ → β → Option τ}
    (steps : ∀ state item, image (f state) item = (step state item).map f) (items : List β)
    (state : σ) : items.foldlM image (f state) = (items.foldlM step state).map f := by
  induction items generalizing state with
  | nil => rfl
  | cons item items induction =>
      rw [List.foldlM_cons, List.foldlM_cons, steps]
      cases step state item with
      | none => rfl
      | some next => exact induction next

theorem foldlM_alike {step : σ → β → Option σ} {alike : β → β → Prop} {items others : List β}
    (steps : ∀ state other item next, same state other → alike item next →
      Option.Rel same (step state item) (step other next))
    (inItems : List.Forall₂ alike items others) {state other : σ} (start : same state other) :
    Option.Rel same (items.foldlM step state) (others.foldlM step other) := by
  induction inItems generalizing state other with
  | nil => exact .some start
  | @cons item next items others first rest induction =>
      rw [List.foldlM_cons, List.foldlM_cons]
      exact rel_bind (steps state other item next start first) fun _ _ follows => induction follows

theorem foldlM_perm (equivalence : Equivalence same) {step : σ → β → Option σ}
    (steps : ∀ state other item, same state other →
      Option.Rel same (step state item) (step other item))
    {items others : List β} (order : items.Perm others)
    (exchange : ∀ item ∈ items, ∀ other ∈ items, ∀ state,
      Option.Rel same (step state item >>= (step · other)) (step state other >>= (step · item)))
    {state other : σ} (start : same state other) :
    Option.Rel same (items.foldlM step state) (others.foldlM step other) := by
  have unchanged (items : List β) (state other : σ) (start : same state other) :
      Option.Rel same (items.foldlM step state) (items.foldlM step other) := by
    refine foldlM_alike ?_ (List.forall₂_same.mpr fun item _ => rfl) start
    rintro state other item _ follows rfl
    exact steps state other item follows
  induction order generalizing state other with
  | nil => exact .some start
  | cons item order induction =>
      have inRest := fun first isFirst second isSecond =>
        exchange first (List.mem_cons_of_mem item isFirst) second
          (List.mem_cons_of_mem item isSecond)
      rw [List.foldlM_cons, List.foldlM_cons]
      exact rel_bind (steps state other item start) fun _ _ follows => induction inRest follows
  | swap first second items =>
      have exchanged := exchange second List.mem_cons_self first
        (List.mem_cons_of_mem second List.mem_cons_self) state
      have followed := rel_bind (steps state other first start) fun next after follows =>
        steps next after second follows
      have passed := rel_bind (rel_trans exchanged followed fun _ _ _ => equivalence.trans)
        (unchanged items)
      rw [bind_assoc, bind_assoc] at passed
      exact passed
  | trans first second inFirst inSecond =>
      have inMiddle := fun item isItem other isOther =>
        exchange item (first.mem_iff.mpr isItem) other (first.mem_iff.mpr isOther)
      exact rel_trans (inFirst exchange (equivalence.refl state)) (inSecond inMiddle start)
        fun _ _ _ => equivalence.trans

theorem exists_forall₂ {first : α → β → Prop} {second : α → γ → Prop} {third : β → δ → Prop}
    {fourth : γ → δ → Prop} {items : List α} {others : List β} {results : List γ}
    (inItems : List.Forall₂ first items others) (inResults : List.Forall₂ second items results)
    (parts : ∀ item other, first item other → ∀ result, second item result →
      ∃ value, third other value ∧ fourth result value) :
    ∃ values, List.Forall₂ third others values ∧ List.Forall₂ fourth results values := by
  induction inItems generalizing results with
  | nil =>
      cases inResults
      exact ⟨[], .nil, .nil⟩
  | @cons item other items others inItem rest induction =>
      cases inResults with
      | cons inResult inResults =>
          rcases parts item other inItem _ inResult with ⟨value, isThird, isFourth⟩
          rcases induction inResults with ⟨values, areThird, areFourth⟩
          exact ⟨value :: values, .cons isThird areThird, .cons isFourth areFourth⟩

/-- What is there for every pair of items is there as two lists. -/
theorem exists_lists {alike : α → α → Prop} {first second : α → β → Prop} {also : β → β → Prop}
    {items others : List α} (inItems : List.Forall₂ alike items others)
    (parts : ∀ item ∈ items, ∀ other, alike item other → ∃ part next,
      first item part ∧ second other next ∧ also part next) :
    ∃ told after, List.Forall₂ first items told ∧ List.Forall₂ second others after ∧
      List.Forall₂ also told after := by
  induction inItems with
  | nil => exact ⟨[], [], .nil, .nil, .nil⟩
  | @cons item other items others isAlike rest induction =>
      rcases List.forall_mem_cons.mp parts with ⟨inHead, inTail⟩
      rcases inHead other isAlike with ⟨part, next, ofItem, ofOther, isAlso⟩
      rcases induction inTail with ⟨told, after, ofItems, ofOthers, areAlso⟩
      exact ⟨part :: told, next :: after, .cons ofItem ofItems, .cons ofOther ofOthers,
        .cons isAlso areAlso⟩

theorem exists_lists_perm {alike : α → α → Prop} {first second : α → β → Prop}
    {also : β → β → Prop} {items inPlace others : List α}
    (inItems : List.Forall₂ alike items inPlace) (order : inPlace.Perm others)
    (parts : ∀ item ∈ items, ∀ other, alike item other → ∃ part next,
      first item part ∧ second other next ∧ also part next) :
    ∃ told toldInPlace after, List.Forall₂ first items told ∧ List.Forall₂ second others after ∧
      List.Forall₂ also told toldInPlace ∧ toldInPlace.Perm after := by
  rcases exists_lists inItems parts with ⟨told, toldInPlace, ofItems, ofInPlace, areAlso⟩
  rcases List.perm_comp_forall₂ order.symm ofInPlace with ⟨after, ofOthers, moved⟩
  exact ⟨told, toldInPlace, after, ofItems, ofOthers, areAlso, moved.symm⟩

end Folds

/-! ## Values -/

mutual
/-- The other value is the first one but for the order of members in the objects of both. -/
inductive Reorders : Json → Json → Prop where
  | null : Reorders .null .null
  | boolean (value : Bool) : Reorders (.boolean value) (.boolean value)
  | number (value : Json.Number) : Reorders (.number value) (.number value)
  | text (value : String) : Reorders (.text value) (.text value)
  | array {items others : List Json} (inItems : List.Forall₂ Reorders items others) :
      Reorders (.array (.ofList items)) (.array (.ofList others))
  | object {members inPlace others : List (String × Json)}
      (inMembers : List.Forall₂ ReordersMember members inPlace) (order : inPlace.Perm others) :
      Reorders (.object (.ofList members)) (.object (.ofList others))

inductive ReordersMember : String × Json → String × Json → Prop where
  | value {key : String} {value other : Json} (inValue : Reorders value other) :
      ReordersMember (key, value) (key, other)
end

def ReordersMembers (members others : List (String × Json)) : Prop :=
  ∃ inPlace, List.Forall₂ ReordersMember members inPlace ∧ inPlace.Perm others

theorem ReordersMembers.reverse {members others : List (String × Json)}
    (reorders : ReordersMembers members others) :
    ReordersMembers members.reverse others.reverse := by
  rcases reorders with ⟨inPlace, inMembers, order⟩
  exact ⟨inPlace.reverse, List.rel_reverse inMembers,
    inPlace.reverse_perm.trans (order.trans others.reverse_perm.symm)⟩

theorem ReordersMembers.record {members others : List (String × Json)}
    (reorders : ReordersMembers members others) :
    (record members).Reorders (record others) := by
  rcases reorders with ⟨inPlace, inMembers, order⟩
  exact .object inMembers order

end Bulletin.Json
