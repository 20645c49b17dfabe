import Bulletin.Proofs.Preset.Accepted
import Bulletin.Proofs.Preset.Directory
/-!
# Presets written and read again

A preset is read back from its text as the same preset of the same kind. The two kinds have a
required field each that the other one has not, so no text of one kind is read as the other.
-/

namespace Bulletin

open Json (IsWritable isWritable_text isWritable_record)
open Json.Format (finds_text)
open Json.RecordShape (finds_of_fills)

/-! ## Missing fields -/

namespace Json.RecordShape

variable {shape : RecordShape σ} {surplus : Surplus}

theorem mem_seen_of_foldlM {members : List (String × Json)} {draft last : Draft σ}
    (folded : members.foldlM (shape.ofMember surplus) draft = .ok last) {name : String}
    (seen : name ∈ last.seen) : name ∈ draft.seen ∨ name ∈ members.map Prod.fst := by
  induction members generalizing draft with
  | nil =>
      cases folded
      exact .inl seen
  | cons member members induction =>
      rw [List.foldlM_cons] at folded
      rcases Outcome.bind_eq_ok.mp folded with ⟨next, taken, rest⟩
      rw [List.map_cons, List.mem_cons]
      rcases induction rest with seenNext | later
      · rw [ofMember] at taken
        split at taken
        · cases taken
          exact .inl seenNext
        · split at taken
          · cases taken
          · rcases Outcome.bind_eq_ok.mp taken with ⟨change, -, equal⟩
            cases equal
            rcases List.mem_cons.mp seenNext with rfl | seenBefore
            · exact .inr (.inl rfl)
            · exact .inl seenBefore
      · exact .inr (.inr later)

theorem ofJson_ne_ok_of_missing {field : Field σ} (isField : field ∈ shape.fields)
    (required : field.isRequired = true) {members : List (String × Json)}
    (missing : field.name ∉ members.map Prod.fst) (result : σ) :
    shape.ofJson surplus (record members) ≠ .ok result := by
  intro found
  rw [record, ofJson, Members.toList_ofList, ofMembers] at found
  rcases Outcome.bind_eq_ok.mp found with ⟨last, folded, complete⟩
  have unseen : field.name ∉ last.seen := by
    intro seen
    rcases mem_seen_of_foldlM folded seen with before | isKey
    · cases before
    · exact missing isKey
  have isMissing : shape.missing? last.seen ≠ none := by
    intro none
    have present := List.find?_eq_none.mp none field isField
    simp [required, unseen] at present
  split at complete
  · cases complete
  · contradiction

end Json.RecordShape

/-! ## Presets -/

theorem ThemePreset.finds_toJson (preset : ThemePreset) :
    shape.format.Finds preset.toJson preset :=
  finds_of_fills (by decide) <|
    .required (finds_text preset.id) <| .required (finds_text preset.name) <|
      .required (finds_text preset.description) <| .required preset.theme.finds_toJson .nil

theorem WidgetBody.ofJson_toJson {body : WidgetBody} (proper : body.IsProper) :
    ofJson body.toJson = .ok body := by
  rw [toJson, Json.record, ofJson, Json.Members.toList_ofList, ofMembers_members proper]

theorem WidgetPreset.ofJson_toJson {preset : WidgetPreset} (proper : preset.IsProper) :
    shape.ofJson .counted preset.toJson = .ok preset := by
  have body : WidgetBody.format.ofJson .counted preset.body.toJson = .ok preset.body :=
    WidgetBody.ofJson_toJson proper
  rw [toJson, Json.record, Json.RecordShape.ofJson, Json.Members.toList_ofList,
    Json.RecordShape.ofMembers]
  simp [Json.RecordShape.ofMember, Json.RecordShape.field?, Json.RecordShape.missing?, shape,
    Json.Field.required, Json.Format.map, Json.Format.text, body]

theorem ThemePreset.isWritable_toJson (preset : ThemePreset) : preset.toJson.IsWritable 2 :=
  isWritable_record (by simp [isWritable_text, preset.theme.isWritable_toJson])

theorem WidgetPreset.isWritable_toJson (preset : WidgetPreset) : preset.toJson.IsWritable 4 := by
  have body : preset.body.toJson.IsWritable 3 := by
    apply isWritable_record
    rw [WidgetBody.members_eq, List.forall_mem_cons]
    exact ⟨isWritable_text 2 _, preset.body.isWritable_fields⟩
  exact isWritable_record (by simp [isWritable_text, body])

namespace Preset

def toJson : Preset → Json
  | .theme preset => preset.toJson
  | .widget preset => preset.toJson

theorem isWritable_toJson (preset : Preset) : preset.toJson.IsWritable 127 := by
  cases preset with
  | theme preset => exact preset.isWritable_toJson.mono (by decide)
  | widget preset => exact preset.isWritable_toJson.mono (by decide)

/-- What is written for the preset is not read as one of the other kind. -/
def IsOfOneKind : Preset → Prop
  | .theme preset =>
      ∀ surplus other, WidgetPreset.shape.ofJson surplus preset.toJson ≠ .ok other
  | .widget preset =>
      ∀ surplus other, ThemePreset.shape.ofJson surplus preset.toJson ≠ .ok other

theorem isOfOneKind (preset : Preset) : preset.IsOfOneKind := by
  cases preset with
  | theme preset =>
      intro surplus other
      have isField := List.getElem_mem (l := WidgetPreset.shape.fields) (n := 3) (by decide)
      apply Json.RecordShape.ofJson_ne_ok_of_missing isField rfl
      simp [WidgetPreset.shape, Json.Field.required]
  | widget preset =>
      intro surplus other
      have isField := List.getElem_mem (l := ThemePreset.shape.fields) (n := 3) (by decide)
      apply Json.RecordShape.ofJson_ne_ok_of_missing isField rfl
      simp [ThemePreset.shape, Json.Field.required]

theorem ofJson?_toJson {preset : Preset} (proper : preset.IsProper) :
    ofJson? preset.toJson = some preset := by
  cases preset with
  | theme preset =>
      have found : ThemePreset.shape.ofJson .counted preset.toJson = .ok preset :=
        preset.finds_toJson.ofJson .counted
      rw [toJson, ofJson?, found]
  | widget preset =>
      have found := WidgetPreset.ofJson_toJson proper
      rw [toJson, ofJson?]
      cases taken : ThemePreset.shape.ofJson .counted preset.toJson with
      | ok other => exact absurd taken (isOfOneKind (.widget preset) .counted other)
      | error cause => rw [found]

/-- The text is what is written for the preset, in one of the two layouts. -/
def IsWrittenAs (preset : Preset) (text : String) : Prop :=
  text = preset.toJson.compact ∨ text = preset.toJson.pretty

theorem IsWrittenAs.parse? {preset : Preset} {text : String} (written : preset.IsWrittenAs text)
    (proper : preset.IsProper) : Preset.parse? text = some preset := by
  have finds := Json.Format.finds_any preset.toJson
  have parsed : Json.parse text = .ok preset.toJson := by
    rcases written with rfl | rfl
    · exact finds.parse_compact preset.isWritable_toJson
    · exact finds.parse_pretty preset.isWritable_toJson
  rw [Preset.parse?, parsed]
  exact ofJson?_toJson proper

end Preset

/-! ## Files -/

/-- The directory has one file with the ending `.json`, and the text is in it. -/
def Disk.HoldsOnly (disk : Disk) (directory : RawText) (text : String) : Prop :=
  ∃ names name, disk.directoryNames directory = .ok names ∧ name ∈ names ∧
    Path.IsJsonName name ∧
    disk.readText (Path.join directory name) = .ok text ∧
    ∀ other ∈ names, Path.IsJsonName other → other = name

theorem Disk.HoldsOnly.listsPresets {disk : Disk} {directory : RawText} {text : String}
    (holds : disk.HoldsOnly directory text) {preset : Preset}
    (parsed : Preset.parse? text = some preset) :
    ∃ path, disk.ListsPresets directory [(path, preset)] := by
  rcases holds with ⟨names, name, listed, isName, isJson, read, only⟩
  have held : disk.presetAt? (Path.join directory name) = some preset := by
    rw [presetAt?, read]
    exact parsed
  refine ⟨Path.join directory name, List.pairwise_singleton _ _, fun path other => ?_⟩
  rw [List.mem_singleton, Prod.mk.injEq]
  constructor
  · rintro ⟨rfl, rfl⟩
    exact ⟨names, name, listed, isName, rfl, isJson, held⟩
  · rintro ⟨_, found, otherListed, isFound, rfl, foundJson, otherHeld⟩
    rw [listed] at otherListed
    cases otherListed
    rw [only found isFound foundJson, held] at otherHeld
    exact ⟨congrArg _ (only found isFound foundJson), (Option.some.inj otherHeld).symm⟩

/-- The registry has the preset under its id, and the presets of the other kind are those at the
start. -/
def Registry.Adds (registry start : Registry) : Preset → Prop
  | .theme preset =>
      registry.theme? preset.id = some preset ∧ registry.widgets = start.widgets
  | .widget preset =>
      registry.widget? preset.id = some preset ∧ registry.themes = start.themes

theorem Registry.adds_register (registry : Registry) (preset : Preset) :
    (registry.register preset).Adds registry preset := by
  have changes := registry.changes_register preset
  cases preset with
  | theme preset => exact ⟨(changes.1.find?_eq preset.id).trans (if_pos rfl), changes.2⟩
  | widget preset => exact ⟨(changes.1.find?_eq preset.id).trans (if_pos rfl), changes.2⟩

/-- What is written for a preset is read as that preset and as no preset of the other kind. In a
directory of its own it adds the preset, and nothing else, to the built-in ones. -/
theorem Preset.read_back {preset : Preset} (proper : preset.IsProper) {text : String}
    (written : preset.IsWrittenAs text) :
    Preset.parse? text = some preset ∧ preset.IsOfOneKind ∧
      ∀ (machine : Machine) (directory : RawText), machine.disk.HoldsOnly directory text →
        ∃ registry, (Files.loadRegistry directory).runOn machine =
            (.ok registry, { machine with ids := (Registry.builtin.run machine.ids).2 }) ∧
          registry = (Registry.builtin.run machine.ids).1.register preset ∧
          registry.Adds (Registry.builtin.run machine.ids).1 preset := by
  have parsed := written.parse? proper
  refine ⟨parsed, preset.isOfOneKind, ?_⟩
  intro machine directory holds
  rcases holds.listsPresets parsed with ⟨path, lists⟩
  rcases holds with ⟨names, -, listed, -⟩
  rcases Disk.directoryNames_eq_ok.mp listed with ⟨location, found, -⟩
  have loaded := Registry.isLoadedFrom_foldl
    (fun _ => Disk.isDirectory_iff.mpr ⟨location, found⟩) lists
  exact ⟨_, loaded.run, rfl, Registry.adds_register _ preset⟩

/-- A widget preset with the names of a theme preset in its texts. -/
def disguisedPreset : WidgetPreset where
  id := "theme"
  name := "\",\"theme\":\x7b\x7d"
  description := "\\\u0001"
  body :=
    .meeting
      ⟨"theme", [⟨"a", "theme", "primaryColor"⟩], [⟨"b", "Join", "#", .other "theme"⟩]⟩

def disguisedMachine : Machine where
  disk :=
    ⟨[(["presets"], .directory),
      (["presets", "a.json"], .file (.text disguisedPreset.toJson.pretty)),
      (["presets", "notes.txt"], .file .unreadable)]⟩
  ids := .ofSeed ""
  now := .midnight .epoch

theorem Preset.read_back_disguised :
    Preset.parse? disguisedPreset.toJson.pretty = some (.widget disguisedPreset) ∧
      ∃ registry,
        (Files.loadRegistry "presets").runOn disguisedMachine =
          (.ok registry,
            { disguisedMachine with ids := (Registry.builtin.run disguisedMachine.ids).2 }) ∧
        registry.widget? "theme" = some disguisedPreset ∧ registry.themes = builtinThemes := by
  have proper : (Preset.widget disguisedPreset).IsProper := by
    simp [Preset.IsProper, WidgetPreset.IsProper, disguisedPreset, WidgetBody.IsProper,
      LinkButton.IsProper, ButtonVariant.IsProper]
  have holds : disguisedMachine.disk.HoldsOnly "presets" disguisedPreset.toJson.pretty :=
    ⟨["a.json", "notes.txt"], "a.json", by decide +kernel, by decide, by decide +kernel, rfl,
      by decide +kernel⟩
  rcases read_back proper (.inr rfl) with ⟨parsed, -, inDirectory⟩
  rcases inDirectory disguisedMachine "presets" holds with ⟨registry, run, -, adds⟩
  exact ⟨parsed, registry, run, adds⟩

end Bulletin
