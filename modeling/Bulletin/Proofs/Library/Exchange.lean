import Bulletin.Proofs.Document.Identities
import Bulletin.Proofs.Document.Order
import Bulletin.Proofs.Library.History
import Bulletin.Proofs.Library.RoundTrip
/-!
# Libraries taken into others

What a library exports is taken into any library without loss, under ids that are new to both. The
text goes through a value whose members are in ascending order, which makes no difference to the
entries.
-/

namespace Bulletin

open Json (Reorders hasDistinctKeys_list_map hasDistinctKeys_record hasDistinctKeys_text
  reorders_canonicalItems)
open Json.Field (commutes_map)
open Json.Format (finds_any steady_any_defaulted steady_text)

/-- An entry of one library as it stands in another that took it in. -/
structure SavedDocument.TakenInto (merged : Library) (now : Timestamp)
    (original copy : SavedDocument) : Prop where
  name : copy.name = original.name
  description : copy.description = original.description
  document : copy.document = original.document
  createdAt : copy.createdAt = original.createdAt.reread now
  page : ∃ loaded, merged.load copy.id = .ok loaded ∧ loaded.html = original.document.html ∧
    loaded.compile = original.document.compile

/-! ## Entries in any order of members -/

namespace SavedDocument

theorem momentOf_reorders (now : Timestamp) {value other : Json} (reorders : value.Reorders other) :
    momentOf now value = momentOf now other := by
  cases reorders <;> rfl

theorem steady_shape (now : Timestamp) : (shape now).IsSteady where
  fields := by
    simp only [shape, List.forall_mem_cons]
    refine ⟨steady_text.required, steady_text.required, steady_text.defaulted,
      Document.steady_shape.format.required, steady_any_defaulted ?_, by simp⟩
    intro value other reorders
    rw [momentOf_reorders now reorders]
  commute := by simp [shape, Json.Field.required, Json.Field.defaulted, commutes_map]

theorem ofJson_of_reorders {saved : SavedDocument} (proper : saved.IsProper) (now : Timestamp)
    {item : Json} (reorders : saved.toJson.Reorders item) :
    (shape now).format.ofJson .fewer item = .ok (saved.reread now) := by
  have found := (finds_toJson proper now).ofJson .fewer
  have same := (steady_shape now).format.ofJson .fewer reorders
  rw [← Outcome.toOption_eq_some] at found ⊢
  rw [← same, found]

theorem hasDistinctKeys_toJson (saved : SavedDocument) : saved.toJson.HasDistinctKeys := by
  apply hasDistinctKeys_record (by simp)
  simp only [List.forall_mem_cons]
  exact ⟨hasDistinctKeys_text _, hasDistinctKeys_text _, hasDistinctKeys_text _,
    saved.document.hasDistinctKeys_toJson, hasDistinctKeys_text _,
    fun _ member => (List.not_mem_nil member).elim⟩

end SavedDocument

namespace Library

variable {source target : Library} {supply : IdSupply}

/-! ## The text of a library -/

theorem hasDistinctKeys_toJson (library : Library) : library.toJson.HasDistinctKeys :=
  hasDistinctKeys_list_map SavedDocument.hasDistinctKeys_toJson library.entries

/-- The text that a library exports holds its entries, with the times as they are read back. -/
theorem textHolds_exportText (proper : source.IsProper) (now : Timestamp) :
    TextHolds now source.exportText (source.reread now).entries := by
  have parsed := (finds_any source.toJson).parse_pretty (source.isWritable_toJson.mono (by decide))
  have reordered := reorders_canonicalItems source.hasDistinctKeys_toJson
  rw [Json.Items.toList_ofList, List.forall₂_map_left_iff] at reordered
  have properItems := (List.forall₂_and_left _ _).mpr ⟨proper, reordered⟩
  refine ⟨source.toJson, _, parsed, rfl, ?_⟩
  rw [reread, List.forall₂_map_right_iff]
  refine List.Forall₂.flip (properItems.imp ?_)
  rintro saved item ⟨properEntry, reorders⟩
  exact SavedDocument.ofJson_of_reorders properEntry now reorders

/-! ## The library that takes it in -/

theorem run_importText {now : Timestamp} {text : String} {entries : List SavedDocument}
    (holds : TextHolds now text entries) (target : Library) (supply : IdSupply) :
    ∃ added, (target.importText now text).run supply =
        (.ok (entries.length, ⟨target.entries ++ added⟩), supply.skip entries.length) ∧
      added.map SavedDocument.id = supply.upcoming entries.length ∧
      List.Forall₂ (fun saved copy => ∃ id, copy = { saved with id }) entries added := by
  let setId (id : String) (saved : SavedDocument) : SavedDocument := { saved with id }
  rcases run_rekeyAll SavedDocument.id setId (fun _ _ => rfl) entries supply with ⟨ids, rest⟩
  have copies : List.Forall₂ (fun saved copy => ∃ id, copy = setId id saved) entries
      ((rekeyAll setId entries).run supply).1 :=
    forall₂_rekeyAll (fun id _ => ⟨id, rfl⟩) entries supply
  refine ⟨_, ?_, ids, copies⟩
  rw [importText, entriesOf_eq_ok.mpr holds]
  change (Except.ok (((rekeyAll setId entries).run supply).1.length, _), _) = _
  rw [← rest, ← copies.length_eq]
  rfl

theorem load_of_added {added : List SavedDocument}
    (distinct : (added.map SavedDocument.id).Nodup)
    (isNew : target.ids.Disjoint (added.map SavedDocument.id)) {saved : SavedDocument}
    (member : saved ∈ added) : load ⟨target.entries ++ added⟩ saved.id = .ok saved.document := by
  have inTarget : target.entries.find? (fun other => decide (other.id = saved.id)) = none := by
    rw [List.find?_eq_none]
    intro other isOther same
    have sameId : other.id = saved.id := by simpa using same
    exact isNew (List.mem_map_of_mem isOther) (sameId ▸ List.mem_map_of_mem member)
  have inAdded : get? ⟨added⟩ saved.id = some saved :=
    (get?_eq_some distinct).mpr ⟨rfl, member⟩
  have found : get? ⟨target.entries ++ added⟩ saved.id = some saved := by
    rw [get?, List.find?_append, inTarget]
    exact inAdded
  rw [load, found]

/-- A library that takes in what another one exports, or what it exports itself, keeps its entries
and gets one for every entry of the other, in order. Each of them says the same, stands under an id
that is in neither library and under which no other entry stands, and has the same page. -/
theorem importText_exportText (reachable : source.Reachable) (target : Library) (now : Timestamp)
    (injective : Function.Injective supply.idAt)
    (avoids : supply.Avoids (source.ids ++ target.ids)) :
    ∃ added, (target.importText now source.exportText).run supply =
        (.ok (source.size, ⟨target.entries ++ added⟩), supply.skip source.size) ∧
      List.Forall₂ (SavedDocument.TakenInto ⟨target.entries ++ added⟩ now) source.entries added ∧
      (added.map SavedDocument.id).Nodup ∧
      ∀ copy ∈ added, copy.id ∉ source.ids ∧ copy.id ∉ target.ids := by
  rcases run_importText (textHolds_exportText reachable.isProper now) target supply with
    ⟨added, run, ids, copies⟩
  have size : (source.reread now).entries.length = source.size := List.length_map ..
  rw [size] at run ids
  have distinct : (added.map SavedDocument.id).Nodup := ids ▸ IdSupply.nodup_upcoming injective _
  have isNew : (source.ids ++ target.ids).Disjoint (added.map SavedDocument.id) :=
    ids ▸ avoids.disjoint _
  rw [List.disjoint_append_left] at isNew
  refine ⟨added, run, ?_, distinct, ?_⟩
  · rw [reread, List.forall₂_map_left_iff] at copies
    have inAdded := (List.forall₂_and_left (p := (· ∈ added)) _ _).mpr ⟨fun _ => id, copies.flip⟩
    refine (inAdded.imp ?_).flip
    rintro copy original ⟨member, id, rfl⟩
    exact ⟨rfl, rfl, rfl, rfl, original.document, load_of_added distinct isNew.2 member, rfl, rfl⟩
  · intro copy member
    have isId := List.mem_map_of_mem (f := SavedDocument.id) member
    exact ⟨fun inSource => isNew.1 inSource isId, fun inTarget => isNew.2 inTarget isId⟩

/-- A document with a widget of every kind and one that is of none. -/
def almanac : Document :=
  { Document.starter with
    sections :=
      [⟨"s", "Week",
        [⟨"w", .meeting ⟨"Drill", [⟨"d", "When", "19:00"⟩], [⟨"b", "Join", "/j", .other "ghost"⟩]⟩⟩,
          ⟨"w", .heading ⟨"\"Dates\"", .other "h9"⟩⟩, ⟨"", .list ⟨[⟨"i", "First"⟩], some true⟩⟩],
        some "#0a0b0c", some true⟩,
        ⟨"s", "", (.unknown :: WidgetKind.all.map .new).map (Widget.mk "w"), none, none⟩] }

theorem isProper_almanac : almanac.IsProper := by
  simp [almanac, Document.IsProper, Section.IsProper, Widget.IsProper, WidgetBody.IsProper,
    LinkButton.IsProper, ButtonVariant.IsProper, HeadingLevel.IsProper, NoticeVariant.IsProper,
    WidgetKind.all, WidgetBody.new]

def drafts : Library :=
  ⟨[⟨"a", "Draft", "", .starter, .midnight .epoch⟩,
    ⟨"b", "Almanac", "All kinds", almanac, .midnight .epoch⟩]⟩

def minutes : Library :=
  ⟨[⟨"a", "Minutes", "", .starter, .midnight .epoch⟩]⟩

theorem importText_exportText_drafts :
    drafts.Reachable ∧ minutes.Reachable ∧ ∃ added,
      (minutes.importText (.midnight .epoch) drafts.exportText).run .tallies =
        (.ok (2, ⟨minutes.entries ++ added⟩), IdSupply.tallies.skip 2) ∧
      List.Forall₂ (SavedDocument.TakenInto ⟨minutes.entries ++ added⟩ (.midnight .epoch))
        drafts.entries added ∧
      (added.map SavedDocument.id).Nodup ∧
      ∀ copy ∈ added, copy.id ∉ drafts.ids ∧ copy.id ∉ minutes.ids := by
  have clock : (Timestamp.midnight .epoch).IsValid := Timestamp.isValid_midnight .epoch
  have proper : Document.starter.IsProper := by simp [Document.starter, Document.IsProper]
  let now := Timestamp.midnight .epoch
  have savesDraft : (Library.empty.save now "Draft" "" .starter).run ⟨fun _ => "a", 0⟩ =
      (.ok (_, ⟨[⟨"a", "Draft", "", .starter, now⟩]⟩), ⟨fun _ => "a", 1⟩) := rfl
  have savesAlmanac : (Library.save ⟨[⟨"a", "Draft", "", .starter, now⟩]⟩ now "Almanac" "All kinds"
      almanac).run ⟨fun _ => "b", 0⟩ = (.ok (_, drafts), ⟨fun _ => "b", 1⟩) := rfl
  have savesMinutes : (Library.empty.save now "Minutes" "" .starter).run ⟨fun _ => "a", 0⟩ =
      (.ok (_, minutes), ⟨fun _ => "a", 1⟩) := rfl
  have reachable : drafts.Reachable :=
    .saved (.saved .empty clock proper savesDraft) clock isProper_almanac savesAlmanac
  exact ⟨reachable, .saved .empty clock proper savesMinutes,
    importText_exportText reachable minutes now IdSupply.injective_tallies
      (IdSupply.tallies_avoids (by decide) 0)⟩

end Library

end Bulletin
