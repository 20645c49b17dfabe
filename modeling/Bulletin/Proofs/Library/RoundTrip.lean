import Bulletin.Library.Basic
import Bulletin.Proofs.Document.Accepted
import Bulletin.Proofs.Document.RoundTrip
import Bulletin.Proofs.Time.Timestamp
/-!
# Libraries written and found again

A library is found in what is written of it, but for the times of entries whose year is written
with a sign: they are not recognized, and taken to be now.
-/

namespace Bulletin

open Json (Format IsWritable isWritable_text isWritable_record)
open Json.Field (keeps_defaulted keeps_required)
open Json.Format (finds_any finds_text finds_list_map)
open Json.RecordShape (yields_record finds_of_fills)

/-- What a moment is taken to be when it is read back. -/
def Timestamp.reread (moment now : Timestamp) : Timestamp :=
  if moment.HasPlainYear then moment else now

namespace SavedDocument

structure IsProper (saved : SavedDocument) : Prop where
  document : saved.document.IsProper
  createdAt : saved.createdAt.IsValid

def reread (saved : SavedDocument) (now : Timestamp) : SavedDocument :=
  { saved with createdAt := saved.createdAt.reread now }

/-! ## Times -/

theorem momentOf_text {moment : Timestamp} (valid : moment.IsValid) (now : Timestamp) :
    momentOf now (.text moment.text) = moment.reread now := by
  rw [momentOf, Timestamp.reread]
  split
  · rename_i plain
    rw [Timestamp.ofText?_text_of_plain valid plain]
    rfl
  · rename_i signed
    rw [Timestamp.ofText?_text_of_signed signed]
    rfl

theorem isValid_momentOf {now : Timestamp} (clock : now.IsValid) (value : Json) :
    (momentOf now value).IsValid := by
  cases value with
  | text text =>
      rw [momentOf]
      cases found : Timestamp.ofText? text with
      | none => exact clock
      | some moment => exact Timestamp.isValid_of_ofText? found
  | _ => exact clock

/-! ## Entries -/

theorem yields_isProper {now : Timestamp} (clock : now.IsValid) :
    (shape now).format.Yields IsProper := by
  apply yields_record ⟨by simp [shape, Document.shape, Document.IsProper], clock⟩
  simp only [shape, List.forall_mem_cons]
  refine ⟨?_, ?_, ?_, ?_, ?_, by simp⟩
  · exact keeps_required fun _ _ proper => ⟨proper.document, proper.createdAt⟩
  · exact keeps_required fun _ _ proper => ⟨proper.document, proper.createdAt⟩
  · exact keeps_defaulted fun _ _ proper => ⟨proper.document, proper.createdAt⟩
  · exact Document.yields_isProper.keeps_required fun _ isProper _ proper =>
      ⟨isProper, proper.createdAt⟩
  · exact keeps_defaulted fun value _ proper => ⟨proper.document, isValid_momentOf clock value⟩

theorem finds_toJson {saved : SavedDocument} (proper : saved.IsProper) (now : Timestamp) :
    (shape now).format.Finds saved.toJson (saved.reread now) := by
  have distinct : ((shape now).fields.map Json.Field.name).Nodup := by
    simp [shape, Json.Field.required, Json.Field.defaulted]
  rw [reread, ← momentOf_text proper.createdAt]
  exact finds_of_fills distinct <|
    .required (finds_text saved.id) <| .required (finds_text saved.name) <|
      .defaulted (finds_text saved.description) <|
        .required (Document.finds_toJson proper.document) <|
          .defaulted (finds_any (.text saved.createdAt.text)) .nil

theorem isWritable_toJson (saved : SavedDocument) : saved.toJson.IsWritable 8 := by
  apply isWritable_record
  simp only [List.forall_mem_cons]
  exact ⟨isWritable_text 7 _, isWritable_text 7 _, isWritable_text 7 _,
    saved.document.isWritable_toJson, isWritable_text 7 _,
    fun _ member => (List.not_mem_nil member).elim⟩

theorem reread_eq_self {now : Timestamp} {saved : SavedDocument} :
    saved.reread now = saved ↔ saved.createdAt.HasPlainYear ∨ saved.createdAt = now := by
  have sameTime : saved.reread now = saved ↔ saved.createdAt.reread now = saved.createdAt := by
    constructor
    · intro same
      exact congrArg createdAt same
    · intro same
      rw [reread, same]
  rw [sameTime, Timestamp.reread]
  split
  · rename_i plain
    exact ⟨fun _ => .inl plain, fun _ => rfl⟩
  · rename_i signed
    constructor
    · intro same
      exact .inr same.symm
    · intro plainOrNow
      rcases plainOrNow with plain | same
      · exact absurd plain signed
      · exact same.symm

end SavedDocument

namespace Library

def IsProper (library : Library) : Prop :=
  ∀ saved ∈ library.entries, saved.IsProper

def reread (library : Library) (now : Timestamp) : Library :=
  ⟨library.entries.map fun saved => saved.reread now⟩

theorem yields_isProper {now : Timestamp} (clock : now.IsValid) :
    (format now).Yields IsProper :=
  (SavedDocument.yields_isProper clock).list.map fun _ proper => proper

theorem isWritable_toJson (library : Library) : library.toJson.IsWritable 9 :=
  isWritable_list_map SavedDocument.isWritable_toJson library.entries

theorem parse_pretty {library : Library} (proper : library.IsProper) (now : Timestamp) :
    (format now).parse library.toJson.pretty = .ok (library.reread now) := by
  have entries (saved : SavedDocument) (member : saved ∈ library.entries) :
      (SavedDocument.shape now).format.Finds saved.toJson (saved.reread now) :=
    SavedDocument.finds_toJson (proper saved member) now
  have list := finds_list_map (fun saved : SavedDocument => saved.reread now) entries
  have finds : (format now).Finds library.toJson (library.reread now) := list.map Library.mk
  exact finds.parse_pretty (library.isWritable_toJson.mono (by decide))

theorem reread_eq_self {now : Timestamp} {library : Library} :
    library.reread now = library ↔
      ∀ saved ∈ library.entries, saved.createdAt.HasPlainYear ∨ saved.createdAt = now := by
  rcases library with ⟨entries⟩
  rw [reread, Library.mk.injEq]
  induction entries with
  | nil => simp
  | cons saved entries induction =>
      rw [List.map_cons, List.cons_eq_cons, induction, SavedDocument.reread_eq_self,
        List.forall_mem_cons]

end Library

end Bulletin
