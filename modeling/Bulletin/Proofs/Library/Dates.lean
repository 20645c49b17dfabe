import Bulletin.Proofs.Json.Accepting
import Bulletin.Proofs.Json.Canonical
import Bulletin.Proofs.Json.Disregarding
import Bulletin.Proofs.Json.Parallel
import Bulletin.Proofs.Library.Contents
import Bulletin.Proofs.Library.Exchange
import Bulletin.Proofs.Library.History
import Bulletin.Proofs.Storage.Files
/-!
# Times that are none

Every text that a library takes in, or is read from, is that of an array in JSON. Whatever stands
there where the time of an entry should be, the library is read, and nothing but the times of its
entries depends on it.
-/

namespace Bulletin

open Json (Outline)
open Json.Field (respects_map parallel_map)
open Json.Format (readsValues_any readsValues_text)
open Json.RecordShape (readsValues_format)

/-! ## Texts -/

theorem SavedDocument.readsValues (now : Timestamp) : (shape now).format.ReadsValues :=
  readsValues_format (by
    simp [shape, readsValues_text.required, readsValues_text.defaulted,
      Document.readsValues.required, readsValues_any.defaulted])

namespace Library

theorem exists_items_of_parse {now : Timestamp} {text : String} {library : Library}
    (parsed : (format now).parse text = .ok library) :
    ∃ items, (Outline.array items).IsOutlineOf text := by
  rw [format, Json.Format.parse_map, Outcome.map_eq_ok] at parsed
  rcases parsed with ⟨entries, parsed, -⟩
  exact (SavedDocument.readsValues now).exists_items parsed

theorem TextHolds.exists_items {now : Timestamp} {text : String} {entries : List SavedDocument}
    (holds : TextHolds now text entries) : ∃ items, (Outline.array items).IsOutlineOf text := by
  rcases holds with ⟨value, items, parsed, shown, -⟩
  cases value with
  | array values => exact Json.exists_items_of_parse_eq_array parsed
  | object members => cases shown
  | _ => cases shown

end Library

/-! ## Entries -/

namespace SavedDocument

def SameContent (saved other : SavedDocument) : Prop :=
  saved.content = other.content

theorem equivalence_sameContent : Equivalence SameContent :=
  ⟨fun _ => rfl, fun same => Eq.symm same, fun first second => Eq.trans first second⟩

theorem disregards_createdAt (now : Timestamp) :
    (shape now).Disregards "createdAt" SameContent where
  equivalence := equivalence_sameContent
  optional := by simp [shape, Json.Field.required, Json.Field.defaulted]
  own := by
    simp only [shape, Json.Field.required, Json.Field.defaulted, List.forall_mem_cons]
    refine ⟨by simp, by simp, by simp, by simp, fun _ => ⟨_, rfl, fun _ _ => rfl⟩, by simp⟩
  others := by
    simp only [shape, List.forall_mem_cons]
    refine ⟨fun _ => respects_map ?_, fun _ => respects_map ?_, fun _ => respects_map ?_,
      fun _ => respects_map ?_, by simp [Json.Field.defaulted], by simp⟩
    all_goals
      intro result value other same
      simp_all [SameContent, content]

theorem parallel_shape (now later : Timestamp) :
    (shape now).Parallel SameContent (shape later) where
  name := rfl
  blank := rfl
  fields := by
    simp only [shape, List.forall₂_cons, List.forall₂_nil_right_iff, and_true]
    refine ⟨parallel_map ?_, parallel_map ?_, parallel_map ?_, parallel_map ?_, parallel_map ?_⟩
    all_goals
      intro result value other same
      simp_all [SameContent, content]

def payload (saved : SavedDocument) : String × String × Document :=
  saved.content.2

end SavedDocument

/-! ## Texts -/

namespace Library

/-- But for blanks the second text is the first one with members `createdAt` replaced, added and
left out in the objects of the array that it is. -/
def AltersDates (text changed : String) : Prop :=
  ∃ items others, (Outline.array items).IsOutlineOf text ∧
    (Outline.array others).IsOutlineOf changed ∧
    List.Forall₂ (Outline.AgreesBut "createdAt") items others

variable {text changed : String} {now later : Timestamp}

theorem contents_eq_iff {library other : Library} :
    library.contents = other.contents ↔
      List.Forall₂ SavedDocument.SameContent library.entries other.entries := by
  rw [contents, contents, ← List.forall₂_eq_eq_eq, List.forall₂_map_left_iff,
    List.forall₂_map_right_iff]
  rfl

theorem TextHolds.exists_altered {entries : List SavedDocument} (holds : TextHolds now text entries)
    (alters : AltersDates text changed) (readable : ∃ value, Json.parse changed = .ok value)
    (later : Timestamp) :
    ∃ others, TextHolds later changed others ∧
      List.Forall₂ SavedDocument.SameContent entries others := by
  rcases alters with ⟨items, others, isOutline, isChanged, agree⟩
  rcases readable with ⟨other, parsedOther⟩
  rcases holds with ⟨value, canonicalItems, parsed, shown, inItems⟩
  rcases Json.exists_agrees_of_parse agree isOutline isChanged parsed parsedOther with
    ⟨found, results, rfl, rfl, agreeFound⟩
  rw [Json.list, Json.canonical, Json.array.injEq] at shown
  subst shown
  rw [Json.toList_canonicalItems, Json.Items.toList_ofList, List.forall₂_map_left_iff] at inItems
  have entry (item result : Json) (agrees : item.AgreesBut "createdAt" result)
      (saved : SavedDocument)
      (isSaved : (SavedDocument.shape now).format.ofJson .fewer item.canonical = .ok saved) :
      ∃ altered, (SavedDocument.shape later).format.ofJson .fewer result.canonical = .ok altered ∧
        saved.SameContent altered := by
    rcases (SavedDocument.disregards_createdAt now).ofJson_canonical .fewer agrees isSaved with
      ⟨between, isBetween, sameBetween⟩
    rcases ((SavedDocument.parallel_shape now later).format.ofJson .fewer _).exists_ok isBetween
      with ⟨altered, isAltered, sameAltered⟩
    exact ⟨altered, isAltered, sameBetween.trans sameAltered⟩
  rcases Json.exists_forall₂ agreeFound inItems entry with ⟨alteredEntries, inResults, areSame⟩
  refine ⟨alteredEntries, ⟨_, _, parsedOther, rfl, ?_⟩, areSame⟩
  rwa [Json.toList_canonicalItems, Json.Items.toList_ofList, List.forall₂_map_left_iff]

theorem textHolds_of_importText {library merged : Library} {supply rest : IdSupply} {count : Nat}
    (imported : (library.importText now text).run supply = (.ok (count, merged), rest)) :
    ∃ entries, TextHolds now text entries := by
  cases found : entriesOf now text with
  | ok entries => exact ⟨entries, entriesOf_eq_ok.mp found⟩
  | error failure =>
      rw [importText, found] at imported
      cases imported

theorem map_payload {entries others : List SavedDocument}
    (same : List.Forall₂ (fun saved other => saved.payload = other.payload) entries others) :
    entries.map SavedDocument.payload = others.map SavedDocument.payload := by
  rwa [← List.forall₂_eq_eq_eq, List.forall₂_map_left_iff, List.forall₂_map_right_iff]

theorem map_payload_copies {entries added : List SavedDocument}
    (copies : List.Forall₂ (fun saved copy => ∃ id, copy = { saved with id }) entries added) :
    added.map SavedDocument.payload = entries.map SavedDocument.payload := by
  refine (map_payload (copies.imp ?_)).symm
  rintro saved copy ⟨id, rfl⟩
  rfl

theorem importText_of_altersDates (alters : AltersDates text changed)
    (readable : ∃ value, Json.parse changed = .ok value) {library merged : Library}
    {supply rest : IdSupply} {count : Nat}
    (imported : (library.importText now text).run supply = (.ok (count, merged), rest))
    (later : Timestamp) (otherSupply : IdSupply) :
    ∃ added others, merged = ⟨library.entries ++ added⟩ ∧ added.length = count ∧
      (library.importText later changed).run otherSupply =
        (.ok (count, ⟨library.entries ++ others⟩), otherSupply.skip count) ∧
      others.map SavedDocument.payload = added.map SavedDocument.payload := by
  rcases textHolds_of_importText imported with ⟨entries, holds⟩
  rcases holds.exists_altered alters readable later with ⟨altered, holdsAltered, same⟩
  rcases run_importText holds library supply with ⟨added, run, -, copies⟩
  rcases run_importText holdsAltered library otherSupply with ⟨others, runOther, -, otherCopies⟩
  rw [run] at imported
  cases imported
  refine ⟨added, others, rfl, copies.length_eq.symm, ?_, ?_⟩
  · rw [runOther, same.length_eq]
  · have samePayload := map_payload (same.imp fun _ _ equal => congrArg Prod.snd equal)
    rw [map_payload_copies copies, map_payload_copies otherCopies, samePayload]

/-! ## Files -/

theorem parse_of_altersDates (alters : AltersDates text changed)
    (readable : ∃ value, Json.parse changed = .ok value) {library : Library}
    (parsed : (format now).parse text = .ok library) (later : Timestamp) :
    ∃ other, (format later).parse changed = .ok other ∧ other.contents = library.contents := by
  rcases alters with ⟨items, others, isOutline, isChanged, agree⟩
  rcases readable with ⟨value, readable⟩
  rw [format, Json.Format.parse_map, Outcome.map_eq_ok] at parsed
  rcases parsed with ⟨entries, parsed, rfl⟩
  rcases (SavedDocument.disregards_createdAt now).parse_list (SavedDocument.steady_shape now) agree
    isOutline isChanged readable parsed with ⟨between, isBetween, sameBetween⟩
  have parallel := (SavedDocument.parallel_shape now later).format.list.parse changed
  rcases parallel.exists_ok isBetween with ⟨results, isResults, sameResults⟩
  refine ⟨⟨results⟩, ?_, ?_⟩
  · rw [format, Json.Format.parse_map, isResults]
    rfl
  · have same : contents ⟨entries⟩ = contents ⟨between⟩ := contents_eq_iff.mpr sameBetween
    exact (same.trans (contents_eq_iff.mpr sameResults)).symm

theorem parse_of_loadLibrary {path : RawText} {text : String} {machine after : Machine}
    {library : Library} (there : machine.disk.readText path = .ok text)
    (loaded : (Files.loadLibrary path).runOn machine = (.ok library, after)) :
    (format machine.now).parse text = .ok library := by
  rw [Files.runOn_loadLibrary, if_pos (Disk.pathExists_of_readText there)] at loaded
  rcases Files.parse_of_runOn_readJson loaded with ⟨content, isContent, parsed⟩
  rw [there] at isContent
  cases isContent
  exact parsed

theorem loadLibrary_of_altersDates (alters : AltersDates text changed)
    (readable : ∃ value, Json.parse changed = .ok value) {path otherPath : RawText}
    {machine other after : Machine} (there : machine.disk.readText path = .ok text)
    (thereOther : other.disk.readText otherPath = .ok changed) {library : Library}
    (loaded : (Files.loadLibrary path).runOn machine = (.ok library, after)) :
    ∃ found, (Files.loadLibrary otherPath).runOn other = (.ok found, other) ∧
      found.contents = library.contents := by
  have parsed := parse_of_loadLibrary there loaded
  rcases parse_of_altersDates alters readable parsed other.now with ⟨found, parsedOther, same⟩
  rw [Files.runOn_loadLibrary, if_pos (Disk.pathExists_of_readText thereOther)]
  exact ⟨found, Files.runOn_readJson thereOther parsedOther, same⟩

/-- A text that a library takes in, or is loaded from, is that of an array, and whatever becomes of
the times in it, as long as the text is JSON, it is taken in and loaded as before: as many entries
in the same order, which say the same, and stand under the same ids where they are loaded. -/
theorem dates_irrelevant :
    (∀ (library merged : Library) (now : Timestamp) (text : String) (supply rest : IdSupply)
      (count : Nat), (library.importText now text).run supply = (.ok (count, merged), rest) →
        (∃ items, (Outline.array items).IsOutlineOf text) ∧
        ∀ changed, AltersDates text changed → (∃ value, Json.parse changed = .ok value) →
          ∀ later otherSupply, ∃ added others, merged = ⟨library.entries ++ added⟩ ∧
            added.length = count ∧
            (library.importText later changed).run otherSupply =
              (.ok (count, ⟨library.entries ++ others⟩), otherSupply.skip count) ∧
            others.map SavedDocument.payload = added.map SavedDocument.payload) ∧
    ∀ (path : RawText) (machine after : Machine) (text : String) (library : Library),
      machine.disk.readText path = .ok text →
        (Files.loadLibrary path).runOn machine = (.ok library, after) →
          (∃ items, (Outline.array items).IsOutlineOf text) ∧
          ∀ changed, AltersDates text changed → (∃ value, Json.parse changed = .ok value) →
            ∀ otherPath other, other.disk.readText otherPath = .ok changed →
              ∃ found, (Files.loadLibrary otherPath).runOn other = (.ok found, other) ∧
                found.contents = library.contents := by
  refine ⟨?_, ?_⟩
  · intro library merged now text supply rest count imported
    rcases textHolds_of_importText imported with ⟨entries, holds⟩
    refine ⟨holds.exists_items, ?_⟩
    intro changed alters readable later otherSupply
    exact importText_of_altersDates alters readable imported later otherSupply
  · intro path machine after text library there loaded
    refine ⟨exists_items_of_parse (parse_of_loadLibrary there loaded), ?_⟩
    intro changed alters readable otherPath other thereOther
    exact loadLibrary_of_altersDates alters readable there thereOther loaded

/-! ### A list for a time -/

def dated : Json :=
  .list [.record [("id", .text "a"), ("name", .text "Draft"), ("config", .record []),
    ("createdAt", .text "2024-01-01")]]

/-- The same with a list for the time, in front of the id. -/
def misdated : Json :=
  .list [.record [("createdAt", .list [.null]), ("id", .text "a"), ("name", .text "Draft"),
    ("config", .record [])]]

theorem altersDates_misdated : AltersDates dated.compact misdated.compact := by
  have plain : ∀ text ∈ ["id", "a", "name", "Draft", "config", "createdAt", "2024-01-01"],
      Json.IsPlain text := by
    simp only [List.forall_mem_cons]
    refine ⟨?_, ?_, ?_, ?_, ?_, ?_, ?_, by simp⟩
    all_goals exact ⟨by simp [Json.plainParts, Json.TextPart.IsProper], by decide⟩
  have id := (plain "id" (by simp)).member (plain "a" (by simp)).outlines
  have name := (plain "name" (by simp)).member (plain "Draft" (by simp)).outlines
  have document := (plain "config" (by simp)).member (Json.outlines_object .nil)
  have time := (plain "createdAt" (by simp)).member (plain "2024-01-01" (by simp)).outlines
  have items := (plain "createdAt" (by simp)).member
    (Json.outlines_array (.cons Json.outlines_null .nil))
  have ofDated := Json.outlines_array (.cons (Json.outlines_object
    (.cons id (.cons name (.cons document (.cons time .nil))))) .nil)
  have ofMisdated := Json.outlines_array (.cons (Json.outlines_object
    (.cons items (.cons id (.cons name (.cons document .nil))))) .nil)
  refine ⟨_, _, ofDated.isOutlineOf_compact ?_, ofMisdated.isOutlineOf_compact ?_, ?_⟩
  · simp [Json.IsExact, Json.Items.ofList, Json.Members.ofList, Json.Items.IsExact,
      Json.Members.IsExact]
  · simp [Json.IsExact, Json.Items.ofList, Json.Members.ofList, Json.Items.IsExact,
      Json.Members.IsExact]
  · exact .cons (.object rfl (by decide +kernel)) .nil

def machineWith (text : String) : Machine :=
  ⟨⟨[(["library.json"], .file (.text text))]⟩, .tallies, .midnight .epoch⟩

theorem dates_irrelevant_misdated :
    AltersDates dated.compact misdated.compact ∧
    (∃ others, (empty.importText (.midnight .epoch) misdated.compact).run .tallies =
        (.ok (1, ⟨others⟩), IdSupply.tallies.skip 1) ∧
      others.map SavedDocument.payload = [("Draft", "", Document.shape.blank)]) ∧
    ∃ found, (Files.loadLibrary "library.json").runOn (machineWith misdated.compact) =
        (.ok found, machineWith misdated.compact) ∧
      found.contents = [("a", "Draft", "", Document.shape.blank)] := by
  let saved : SavedDocument :=
    ⟨"a", "Draft", "", Document.shape.blank, .midnight (.first 2024 1 (by decide) (by decide))⟩
  have readable : ∃ value, Json.parse misdated.compact = .ok value :=
    ⟨misdated, by decide +kernel⟩
  have held : TextHolds (.midnight .epoch) dated.compact [saved] :=
    entriesOf_eq_ok.mp (by decide +kernel)
  have parsed : (format (.midnight .epoch)).parse dated.compact = .ok ⟨[saved]⟩ := by
    decide +kernel
  rcases dates_irrelevant with ⟨taken, loaded⟩
  refine ⟨altersDates_misdated, ?_, ?_⟩
  · rcases run_importText held empty .tallies with ⟨added, run, -, copies⟩
    rcases (taken _ _ _ _ _ _ _ run).2 _ altersDates_misdated readable (.midnight .epoch) .tallies
      with ⟨same, others, merged, -, runOthers, payloads⟩
    cases merged
    exact ⟨others, runOthers, payloads.trans (map_payload_copies copies)⟩
  · have present : (machineWith dated.compact).disk.pathExists "library.json" = true := rfl
    have loads : (Files.loadLibrary "library.json").runOn (machineWith dated.compact) =
        (.ok ⟨[saved]⟩, machineWith dated.compact) := by
      rw [Files.runOn_loadLibrary, present, if_pos rfl]
      exact Files.runOn_readJson rfl parsed
    exact (loaded _ _ _ _ _ rfl loads).2 _ altersDates_misdated readable _ _ rfl

end Library

end Bulletin
