import Bulletin.Document.Edit
/-!
# Addressed elements

An id addresses the first element that has it: none of the elements before it has the id, and those
after it may have it again. What an operation does to the addressed element is told from where the
element stands.
-/

namespace Bulletin

namespace Elements

/-- The first element that is sought, between those before it and those after it. -/
structure Addresses (isSought : α → Bool) (items before : List α) (item : α) (after : List α) :
    Prop where
  split : items = before ++ item :: after
  sought : isSought item = true
  earlier : ∀ other ∈ before, isSought other = false

def shift (before : List α) (item : α) (after : List α) : Direction → Bool × List α
  | .up =>
      match before.reverse with
      | [] => (false, before ++ item :: after)
      | neighbour :: others => (true, others.reverse ++ item :: neighbour :: after)
  | .down =>
      match after with
      | [] => (false, before ++ item :: after)
      | neighbour :: others => (true, before ++ neighbour :: item :: others)

example : shift [1, 2] 3 [4] .up = (true, [1, 3, 2, 4]) := rfl

variable {isSought : α → Bool} {items before after : List α} {item : α}

theorem addresses_iff_find? :
    (∃ before after, Addresses isSought items before item after) ↔
      items.find? isSought = some item := by
  rw [List.find?_eq_some_iff_append]
  constructor
  · rintro ⟨before, after, split, sought, earlier⟩
    exact ⟨sought, before, after, split, fun other member => by simp [earlier other member]⟩
  · rintro ⟨sought, before, after, split, earlier⟩
    exact ⟨before, after, split, sought, fun other member => by simpa using earlier other member⟩

theorem exists_addresses (sought : ∃ item ∈ items, isSought item = true) :
    ∃ before item after, Addresses isSought items before item after := by
  rcases Option.isSome_iff_exists.mp (List.find?_isSome.mpr sought) with ⟨item, found⟩
  rcases addresses_iff_find?.mpr found with ⟨before, after, addresses⟩
  exact ⟨before, item, after, addresses⟩

/-! ## Exchanges -/

theorem swap_next (before : List α) (first second : α) (after : List α) :
    swap (before ++ first :: second :: after) before.length (before.length + 1) =
      before ++ second :: first :: after := by
  simp [swap]

theorem swap_comm (items : List α) (i j : Nat) : swap items i j = swap items j i := by
  rw [swap, swap]
  cases atFirst : items[i]? with
  | none => cases items[j]? <;> rfl
  | some first =>
      cases atSecond : items[j]? with
      | none => rfl
      | some second =>
          by_cases same : i = j
          · subst same
            rw [atFirst] at atSecond
            cases atSecond
            rfl
          · exact List.set_comm second first same

/-! ## Removals -/

theorem removeAll_told :
    (removeAll isSought items).1 = true ↔ ∃ item ∈ items, isSought item = true := by
  have all := List.length_filter_eq_length_iff (l := items) (p := fun item => !isSought item)
  simp only [removeAll, ne_eq, decide_eq_true_eq, all]
  simp

theorem removeAll_of_untold (untold : (removeAll isSought items).1 = false) :
    (removeAll isSought items).2 = items := by
  apply List.filter_eq_self.mpr
  intro item member
  rw [Bool.not_eq_true', Bool.eq_false_iff]
  intro sought
  rw [removeAll_told.mpr ⟨item, member, sought⟩] at untold
  cases untold

/-! ## Operations -/

namespace Addresses

variable (addresses : Addresses isSought items before item after)

include addresses

theorem mem : item ∈ items := by
  rw [addresses.split]
  exact List.mem_append_right before List.mem_cons_self

theorem find? : items.find? isSought = some item :=
  addresses_iff_find?.mp ⟨before, after, addresses⟩

theorem findIdx? : items.findIdx? isSought = some before.length := by
  have none : before.findIdx? isSought = none := List.findIdx?_eq_none_iff.mpr addresses.earlier
  rw [addresses.split, List.findIdx?_append, none, List.findIdx?_cons, addresses.sought]
  simp

theorem getElem? : items[before.length]? = some item := by
  simp [addresses.split]

theorem modifyFirst (change : α → α) :
    modifyFirst isSought change items = before ++ change item :: after := by
  rcases addresses with ⟨rfl, sought, earlier⟩
  induction before with
  | nil => simp [Elements.modifyFirst, sought]
  | cons head before induction =>
      have isOther := earlier head List.mem_cons_self
      have rest := induction fun other member => earlier other (List.mem_cons_of_mem head member)
      rw [List.cons_append, Elements.modifyFirst, isOther, rest]
      rfl

theorem insertIdx (copy : α) :
    items.insertIdx (before.length + 1) copy = before ++ item :: copy :: after := by
  rw [addresses.split]
  clear addresses
  induction before with
  | nil => rfl
  | cons head before induction =>
      rw [List.cons_append, List.length_cons, List.insertIdx_succ_cons, induction]
      rfl

theorem move (direction : Direction) :
    move isSought direction items = shift before item after direction := by
  rw [Elements.move, addresses.findIdx?]
  cases direction with
  | up =>
      rcases List.eq_nil_or_concat before with rfl | ⟨others, neighbour, rfl⟩
      · simp [neighbour?, shift, addresses.split]
      · have exchanged := swap_next others neighbour item after
        rw [swap_comm] at exchanged
        simpa [neighbour?, shift, addresses.split] using exchanged
  | down =>
      cases after with
      | nil => simp [neighbour?, shift, addresses.split]
      | cons neighbour others =>
          have exchanged := swap_next before item neighbour others
          simpa [neighbour?, shift, addresses.split] using exchanged

theorem removeAll :
    removeAll isSought items = (true, before ++ after.filter fun other => !isSought other) := by
  have kept : before.filter (fun other => !isSought other) = before :=
    List.filter_eq_self.mpr fun other member => by simp [addresses.earlier other member]
  have told : (Elements.removeAll isSought items).1 = true :=
    removeAll_told.mpr ⟨item, addresses.mem, addresses.sought⟩
  apply Prod.ext told
  rw [Elements.removeAll, addresses.split, List.filter_append, kept,
    List.filter_cons_of_neg (by simp [addresses.sought])]

end Addresses

/-! ## Moves -/

theorem perm_move (isSought : α → Bool) (direction : Direction) (items : List α) :
    (move isSought direction items).2.Perm items := by
  by_cases sought : ∃ item ∈ items, isSought item = true
  · rcases exists_addresses sought with ⟨before, item, after, addresses⟩
    rw [addresses.move, addresses.split]
    cases direction with
    | up =>
        rcases List.eq_nil_or_concat before with rfl | ⟨others, neighbour, rfl⟩
        · exact .refl _
        · simpa [shift] using (List.Perm.swap neighbour item after).append_left others
    | down =>
        cases after with
        | nil => exact .refl _
        | cons neighbour others =>
            exact (List.Perm.swap item neighbour others).append_left before
  · have none : items.findIdx? isSought = none :=
      List.findIdx?_eq_none_iff.mpr fun item member => by
        simpa using fun found => sought ⟨item, member, found⟩
    rw [move, none]

theorem move_of_missing (missing : ∀ item ∈ items, isSought item = false)
    (direction : Direction) : move isSought direction items = (false, items) := by
  rw [move, List.findIdx?_eq_none_iff.mpr missing]

theorem move_of_untold {direction : Direction}
    (untold : (move isSought direction items).1 = false) :
    (move isSought direction items).2 = items := by
  rw [move] at untold ⊢
  cases found : items.findIdx? isSought with
  | none => rfl
  | some index =>
      rw [found] at untold
      cases next : neighbour? items.length index direction with
      | none => simp only [next]
      | some other =>
          simp only [next] at untold
          cases untold

end Elements

open Elements (Addresses shift)

/-! ## Sections -/

namespace Section

variable {part : Section} {id : String} {before after : List Widget} {widget : Widget}

theorem modifyWidget_of_addresses
    (addresses : Addresses (fun other => other.id = id) part.widgets before widget after)
    (change : Widget → Widget) :
    part.modifyWidget id change = { part with widgets := before ++ change widget :: after } := by
  rw [modifyWidget, addresses.modifyFirst]

theorem moveWidget_of_addresses
    (addresses : Addresses (fun other => other.id = id) part.widgets before widget after)
    (direction : Direction) :
    part.moveWidget id direction =
      ((shift before widget after direction).1,
        { part with widgets := (shift before widget after direction).2 }) := by
  rw [moveWidget, addresses.move]

theorem duplicateWidget_of_addresses
    (addresses : Addresses (fun other => other.id = id) part.widgets before widget after)
    (supply : IdSupply) :
    (part.duplicateWidget id).run supply =
      ((some (widget.copy.run supply).1,
        { part with widgets := before ++ widget :: (widget.copy.run supply).1 :: after }),
        (widget.copy.run supply).2) := by
  rw [duplicateWidget, addresses.findIdx?]
  simp only [addresses.getElem?]
  rw [← addresses.insertIdx]
  rfl

theorem duplicateWidget_of_missing (missing : part.widget? id = none) (supply : IdSupply) :
    (part.duplicateWidget id).run supply = ((none, part), supply) := by
  have none : part.widgets.findIdx? (fun widget => decide (widget.id = id)) = none :=
    List.findIdx?_eq_none_iff.mpr fun widget member => by
      simpa using List.find?_eq_none.mp missing widget member
  rw [duplicateWidget, none]
  rfl

end Section

/-! ## Documents -/

namespace Document

variable {document : Document} {id : String} {before after : List Section} {part : Section}

theorem modifySection_of_addresses
    (addresses : Addresses (fun other => other.id = id) document.sections before part after)
    (change : Section → Section) :
    document.modifySection id change =
      { document with sections := before ++ change part :: after } := by
  rw [modifySection, addresses.modifyFirst]

theorem moveSection_of_addresses
    (addresses : Addresses (fun other => other.id = id) document.sections before part after)
    (direction : Direction) :
    document.moveSection id direction =
      ((shift before part after direction).1,
        { document with sections := (shift before part after direction).2 }) := by
  rw [moveSection, addresses.move]

end Document

end Bulletin
