import Bulletin.Proofs.Library.Reachable
import Bulletin.Proofs.Library.Removal
/-!
# Libraries but for the times of their entries

What a call makes of a library, leaving the times aside, depends on the library with the times left
aside.
-/

namespace Bulletin

def SavedDocument.content (saved : SavedDocument) : String × String × String × Document :=
  (saved.id, saved.name, saved.description, saved.document)

namespace Library

def contents (library : Library) : List (String × String × String × Document) :=
  library.entries.map SavedDocument.content

theorem contents_append {library memory : Library} (same : library.contents = memory.contents)
    (added : List SavedDocument) :
    contents ⟨library.entries ++ added⟩ = contents ⟨memory.entries ++ added⟩ := by
  rw [contents, contents, List.map_append, List.map_append]
  exact congrArg (· ++ _) same

theorem contents_reread (library : Library) (now : Timestamp) :
    (library.reread now).contents = library.contents := by
  rw [contents, reread, List.map_map]
  rfl

/-- What is saved does not depend on what was saved before. -/
theorem save_eq (now : Timestamp) (name description : String) (document : Document)
    (supply : IdSupply) :
    ∃ result rest, ∀ library : Library,
      (library.save now name description document).run supply =
        (Except.map (fun saved => (saved, ⟨library.entries ++ [saved]⟩)) result, rest) := by
  by_cases blank : Text.isAllBlank name = true
  · refine ⟨.error .blankName, supply, fun library => ?_⟩
    rw [save, if_pos blank]
    rfl
  · refine ⟨.ok ⟨supply.idAt supply.drawn, Text.trim name, Text.trim description, document, now⟩,
      (freshId.run supply).2, fun library => ?_⟩
    rw [save, if_neg blank]
    rfl

theorem importText_eq (now : Timestamp) (text : String) (supply : IdSupply) :
    ∃ result rest, ∀ library : Library,
      (library.importText now text).run supply =
        (Except.map (fun added => (added.length, ⟨library.entries ++ added⟩)) result, rest) := by
  cases found : entriesOf now text with
  | error failure =>
      refine ⟨.error failure, supply, fun library => ?_⟩
      rw [importText, found]
      rfl
  | ok entries =>
      let drawn :=
        (rekeyAll (fun id (saved : SavedDocument) => { saved with id }) entries).run supply
      refine ⟨.ok drawn.1, drawn.2, fun library => ?_⟩
      rw [importText, found]
      rfl

theorem contents_delete (library : Library) (id : String) :
    (library.delete id).2.contents = library.contents.filter fun content => content.1 ≠ id := by
  rw [contents, contents, List.filter_map]
  rfl

theorem delete_told (library : Library) (id : String) :
    (library.delete id).1 = true ↔ ∃ content ∈ library.contents, content.1 = id := by
  rw [(library.removal_delete id).told, contents]
  simp [SavedDocument.content]

end Library

end Bulletin
