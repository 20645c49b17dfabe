import Bulletin.Library.Basic
import Bulletin.Proofs.Document.Addressing
/-!
# Removal by id

Finding, changing, moving and copying act on the one element that an id addresses. Removal takes
that element away, and every later one with the same id too. So it takes away the addressed element
alone exactly where the id is not repeated, and nothing keeps a document that was read from
repeating one: every section or widget without an id has the empty one.
-/

namespace Bulletin

namespace Elements

structure Removal (idOf : α → String) (id : String) (items : List α) (rebuild : List α → σ)
    (found? : Option α) (result : Bool × σ) : Prop where
  told : result.1 = true ↔ ∃ item ∈ items, idOf item = id
  unchanged : result.1 = false → result.2 = rebuild items
  found {before after : List α} {item : α}
    (addresses : Addresses (fun other => idOf other = id) items before item after) :
    found? = some item
  removed {before after : List α} {item : α}
    (addresses : Addresses (fun other => idOf other = id) items before item after) :
    result.2 = rebuild (before ++ after.filter fun other => idOf other ≠ id)
  alone_iff {before after : List α} {item : α}
    (addresses : Addresses (fun other => idOf other = id) items before item after) :
    result.2 = rebuild (before ++ after) ↔ ∀ other ∈ after, idOf other ≠ id

theorem removal_removeAll {idOf : α → String} {id : String} {items : List α}
    {rebuild : List α → σ}
    (injective : ∀ first second, rebuild first = rebuild second → first = second) :
    Removal idOf id items rebuild (items.find? fun other => idOf other = id)
      ((removeAll (fun other => idOf other = id) items).1,
        rebuild (removeAll (fun other => idOf other = id) items).2) where
  told := by simpa using @removeAll_told _ (fun other => decide (idOf other = id)) items
  unchanged untold := by rw [removeAll_of_untold untold]
  found addresses := addresses.find?
  removed addresses := by simp [addresses.removeAll]
  alone_iff {before after item} addresses := by
    rw [addresses.removeAll]
    constructor
    · intro alone other member
      have same := List.append_cancel_left (injective _ _ alone)
      simpa using List.filter_eq_self.mp same other member
    · intro others
      rw [List.filter_eq_self.mpr fun other member => by simpa using others other member]

end Elements

open Elements (Addresses Removal removal_removeAll shift)

/-! ## Sections -/

theorem Section.removal_removeWidget (part : Section) (id : String) :
    Removal Widget.id id part.widgets (fun widgets => { part with widgets }) (part.widget? id)
      (part.removeWidget id) :=
  removal_removeAll fun _ _ same => congrArg Section.widgets same

/-! ## Documents -/

theorem Document.removal_removeSection (document : Document) (id : String) :
    Removal Section.id id document.sections (fun sections => { document with sections })
      (document.section? id) (document.removeSection id) :=
  removal_removeAll fun _ _ same => congrArg Document.sections same

/-! ## Libraries -/

namespace Library

theorem delete_eq_removeAll (library : Library) (id : String) :
    library.delete id =
      ((Elements.removeAll (fun saved => saved.id = id) library.entries).1,
        ⟨(Elements.removeAll (fun saved => saved.id = id) library.entries).2⟩) := by
  simp [delete, Elements.removeAll]

theorem removal_delete (library : Library) (id : String) :
    Removal SavedDocument.id id library.entries Library.mk (library.get? id)
      (library.delete id) := by
  rw [delete_eq_removeAll]
  exact removal_removeAll fun _ _ same => congrArg Library.entries same

/-- In sections, documents and libraries, an id addresses the same element in every operation, and
removal takes that element away, but not alone where a later one has its id. -/
theorem removals_of_addressed (part : Section) (document : Document) (library : Library)
    (id : String) :
    (Removal Widget.id id part.widgets (fun widgets => { part with widgets }) (part.widget? id)
        (part.removeWidget id) ∧
      ∀ before widget after,
        Addresses (fun other => other.id = id) part.widgets before widget after →
          (∀ change, part.modifyWidget id change =
            { part with widgets := before ++ change widget :: after }) ∧
          (∀ direction, part.moveWidget id direction =
            ((shift before widget after direction).1,
              { part with widgets := (shift before widget after direction).2 })) ∧
          ∀ supply, ∃ copy rest, (part.duplicateWidget id).run supply =
            ((some copy, { part with widgets := before ++ widget :: copy :: after }), rest)) ∧
    (Removal Section.id id document.sections (fun sections => { document with sections })
        (document.section? id) (document.removeSection id) ∧
      ∀ before part after,
        Addresses (fun other => other.id = id) document.sections before part after →
          (∀ change, document.modifySection id change =
            { document with sections := before ++ change part :: after }) ∧
          ∀ direction, document.moveSection id direction =
            ((shift before part after direction).1,
              { document with sections := (shift before part after direction).2 })) ∧
    (Removal SavedDocument.id id library.entries Library.mk (library.get? id)
        (library.delete id) ∧
      ∀ before saved after,
        Addresses (fun other => other.id = id) library.entries before saved after →
          library.load id = .ok saved.document) := by
  refine ⟨⟨part.removal_removeWidget id, ?_⟩, ⟨document.removal_removeSection id, ?_⟩,
    library.removal_delete id, ?_⟩
  · intro before widget after addresses
    refine ⟨Section.modifyWidget_of_addresses addresses,
      Section.moveWidget_of_addresses addresses, ?_⟩
    intro supply
    exact ⟨_, _, Section.duplicateWidget_of_addresses addresses supply⟩
  · intro before part after addresses
    exact ⟨Document.modifySection_of_addresses addresses,
      Document.moveSection_of_addresses addresses⟩
  · intro before saved after addresses
    rw [load, (library.removal_delete id).found addresses]

def sparseText : String :=
  "\x7b\"sections\":[\x7b\"title\":\"A\"\x7d,\x7b\"title\":\"B\"\x7d]\x7d"

theorem removals_of_addressed_sparse :
    ∃ document before part after,
      Document.format.parse sparseText = .ok document ∧
        Addresses (fun other => other.id = "") document.sections before part after ∧
        document.section? "" = some part ∧
        (document.removeSection "").2 ≠ { document with sections := before ++ after } := by
  let first : Section := ⟨"", "A", [], none, none⟩
  let second : Section := ⟨"", "B", [], none, none⟩
  let document : Document := { Document.shape.blank with sections := [first, second] }
  have parsed : Document.format.parse sparseText = .ok document := rfl
  have addresses : Addresses (fun other => decide (other.id = "")) document.sections [] first
      [second] := ⟨rfl, rfl, fun _ member => (List.not_mem_nil member).elim⟩
  have removal := (removals_of_addressed first document empty "").2.1.1
  refine ⟨document, [], first, [second], parsed, addresses, removal.found addresses, ?_⟩
  intro alone
  have others := (removal.alone_iff addresses).mp alone
  exact others second List.mem_cons_self rfl

end Library

end Bulletin
