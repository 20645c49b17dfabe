import Bulletin.Proofs.Command.Running
import Bulletin.Proofs.Preset.Accepted
/-!
# Editing in place

Two commands change a document in its file: one appends a widget to a section, the other one gives
the document a theme. What they write is read again as the document with that change and no other.
-/

namespace Bulletin

open Elements (Addresses)

/-! ## Widgets from presets -/

/-- What becomes of a document that gets a widget: a copy of a body stands last in the first section
with an id. The ids of the widget, and of all that is nested in it, are new ones. -/
inductive Document.Receives (sectionId : String) (body : WidgetBody) (newIds : List String) :
    Document → Document → Prop where
  | appended {document : Document} {before after : List Section} {part : Section}
      {widget : Widget}
      (addresses :
        Addresses (fun other => other.id = sectionId) document.sections before part after)
      (copied : widget.body.unlabelled = body.unlabelled) (renewed : widget.ids.Perm newIds) :
      Receives sectionId body newIds document
        { document with
          sections := before ++ { part with widgets := part.widgets ++ [widget] } :: after }

namespace Registry

variable {registry : Registry} {id : String}

theorem run_instantiate {preset : WidgetPreset} (found : registry.widget? id = some preset)
    (supply : IdSupply) :
    (registry.instantiate id).run supply =
      (.ok (preset.instantiate.run supply).1, (preset.instantiate.run supply).2) := by
  rw [instantiate, found]
  rfl

theorem run_instantiate_missing (missing : registry.widget? id = none) (supply : IdSupply) :
    (registry.instantiate id).run supply = (.error (.presetNotFound id), supply) := by
  rw [instantiate, missing]
  rfl

end Registry

namespace Document

variable {document : Document} {sectionId : String} {part : Section}

theorem receives_instance (found : document.section? sectionId = some part)
    (preset : WidgetPreset) (supply : IdSupply) :
    document.Receives sectionId preset.body (supply.upcoming (preset.body.nestedIds.length + 1))
      (document.modifySection sectionId fun part =>
        part.push (preset.instantiate.run supply).1) := by
  rcases Elements.addresses_iff_find?.mpr found with ⟨before, after, addresses⟩
  rw [modifySection_of_addresses addresses]
  exact .appended addresses (preset.body.unlabelled_rekey supply)
    (Widget.draws_ofBody preset.body supply).1

theorem Receives.isProper {body : WidgetBody} {newIds : List String} {next : Document}
    (receives : document.Receives sectionId body newIds next) (proper : document.IsProper)
    (isProper : body.IsProper) : next.IsProper := by
  cases receives with
  | @appended before after part widget addresses copied renewed =>
      rw [IsProper, addresses.split] at proper
      simp only [IsProper, List.forall_mem_append, List.forall_mem_cons] at proper ⊢
      have widgets : Section.IsProper { part with widgets := part.widgets ++ [widget] } :=
        List.forall_mem_append.mpr ⟨proper.2.1, by
          simpa [Widget.IsProper] using (WidgetBody.isProper_congr copied).mpr isProper⟩
      exact ⟨proper.1, widgets, proper.2.2⟩

end Document

/-! ## Saved documents -/

/-- A command is to end with a document in a file and with a code. It has written the document
there and ends so, or the file cannot be written and it fails. -/
def Machine.Saves (machine : Machine) (path : RawText) (code : ExitCode) (document : Document)
    (ran : Outcome × Machine) : Prop :=
  (ran.1.code = code ∧ machine.disk.writeText path document.toJson.pretty = .ok ran.2.disk) ∨
    (ran.1.code = .failure ∧ ∀ text written, machine.disk.writeText path text ≠ .ok written)

namespace Machine.Saves

variable {machine : Machine} {path : RawText} {code : ExitCode} {document : Document}
  {ran : Outcome × Machine} (saves : machine.Saves path code document ran)

include saves

theorem wrote (noFailure : ran.1.code ≠ .failure) :
    machine.disk.writeText path document.toJson.pretty = .ok ran.2.disk := by
  rcases saves with ⟨-, wrote⟩ | ⟨failure, -⟩
  · exact wrote
  · exact absurd failure noFailure

theorem code_of_writable
    (writable : ∃ text written, machine.disk.writeText path text = .ok written) :
    ran.1.code = code := by
  rcases saves with ⟨ends, -⟩ | ⟨-, unwritable⟩
  · exact ends
  · rcases writable with ⟨text, written, wrote⟩
    exact absurd wrote (unwritable text written)

theorem loads (proper : document.IsProper) (noFailure : ran.1.code ≠ .failure) :
    ran.2.document? path = some document :=
  Machine.document?_eq_some.mpr
    ⟨_, Disk.readText_of_writeText (saves.wrote noFailure), Document.parse_pretty proper⟩

end Machine.Saves

namespace Invocation

variable {directory input : RawText} {machine ready : Machine} {registry : Registry}
  {document : Document}
  (presets : (Files.loadRegistry directory).runOn machine = (.ok registry, ready))

include presets

theorem saves_of_run {command : Command} {path : RawText} {outcome : Outcome} {before : Machine}
    (sameDisk : before.disk = machine.disk)
    (ends : (command.run registry : Task (StateM Machine) Outcome).runOn ready =
      Task.runOn (do Files.saveDocument path document; return outcome) before) :
    machine.Saves path outcome.code document (runOn ⟨directory, command⟩ machine) := by
  rw [runOn_of_loaded presets, ends, Task.runOn_bind, Files.saveDocument, Files.writeJson,
    Task.runOn_writeText, sameDisk]
  cases written : machine.disk.writeText path document.toJson.pretty with
  | ok disk => exact .inl ⟨rfl, written⟩
  | error fault =>
      refine .inr ⟨rfl, fun text disk wrote => ?_⟩
      rcases Disk.exists_writeText wrote document.toJson.pretty with ⟨other, wroteOther⟩
      rw [written] at wroteOther
      cases wroteOther

theorem fails_of_run {command : Command}
    (ends : ∃ failure after, (command.run registry : Task (StateM Machine) Outcome).runOn ready =
      (.error failure, after)) :
    (runOn ⟨directory, command⟩ machine).1.code = .failure := by
  rcases ends with ⟨failure, after, ends⟩
  rw [runOn_of_loaded presets, ends]
  rfl

/-! ## The two commands -/

variable (loads : machine.document? input = some document)

include loads

section Theme

variable {themeId : String}

theorem saves_applyTheme {preset : ThemePreset} (output : Option RawText)
    (found : registry.theme? themeId = some preset) :
    machine.Saves (output.getD input)
      (if (output.getD input).text? = none then .crashed else .success)
      { document with theme := preset.theme }
      (runOn ⟨directory, .applyTheme input themeId output⟩ machine) := by
  rcases Machine.loadDocument_ready presets loads with ⟨sameDisk, loadsReady⟩
  rw [← Outcome.code_wrote (output.getD input) [("theme", .text themeId)]]
  apply saves_of_run presets sameDisk
  rw [Command.run, Command.runApplyTheme, Task.runOn_bind, loadsReady]
  dsimp only
  rw [Registry.applyTheme, found]
  rfl

theorem found_of_applyTheme {output : Option RawText}
    (noFailure :
      (runOn ⟨directory, .applyTheme input themeId output⟩ machine).1.code ≠ .failure) :
    ∃ preset, registry.theme? themeId = some preset := by
  rcases Machine.loadDocument_ready presets loads with ⟨-, loadsReady⟩
  rw [← Option.ne_none_iff_exists']
  intro missing
  apply noFailure
  apply fails_of_run presets
  rw [Command.run, Command.runApplyTheme, Task.runOn_bind, loadsReady]
  dsimp only
  rw [Registry.applyTheme, missing]
  exact ⟨_, _, rfl⟩

end Theme

section Widget

variable {sectionId presetId : String}

theorem saves_addWidget {preset : WidgetPreset} {part : Section}
    (found : registry.widget? presetId = some preset)
    (foundSection : document.section? sectionId = some part) :
    machine.Saves input .success
      (document.modifySection sectionId fun part =>
        part.push (preset.instantiate.run ready.ids).1)
      (runOn ⟨directory, .addWidget input sectionId presetId⟩ machine) := by
  rcases Machine.loadDocument_ready presets loads with ⟨sameDisk, loadsReady⟩
  have drawn : Machine.disk { ready with ids := (preset.instantiate.run ready.ids).2 } =
      machine.disk := sameDisk
  have code (details : List (String × Json)) : (Outcome.success details).code = .success := rfl
  rw [← code [("widget_id", .text (preset.instantiate.run ready.ids).1.id)]]
  apply saves_of_run presets drawn
  rw [Command.run, Command.runAddWidget, Task.runOn_bind, loadsReady]
  dsimp only
  rw [Task.runOn_bind, Task.runOn_draw, Registry.run_instantiate found]
  dsimp only
  rw [foundSection]

theorem found_of_addWidget
    (noFailure :
      (runOn ⟨directory, .addWidget input sectionId presetId⟩ machine).1.code ≠ .failure) :
    (∃ preset, registry.widget? presetId = some preset) ∧
      ∃ part, document.section? sectionId = some part := by
  rcases Machine.loadDocument_ready presets loads with ⟨-, loadsReady⟩
  have fails := mt (fails_of_run presets) noFailure
  rw [Command.run, Command.runAddWidget, Task.runOn_bind, loadsReady] at fails
  dsimp only at fails
  rw [Task.runOn_bind, Task.runOn_draw] at fails
  cases found : registry.widget? presetId with
  | none =>
      rw [Registry.run_instantiate_missing found] at fails
      exact absurd ⟨_, _, rfl⟩ fails
  | some preset =>
      -- The widget is made before its section is sought.
      rw [Registry.run_instantiate found] at fails
      dsimp only at fails
      cases foundSection : document.section? sectionId with
      | some part => exact ⟨⟨preset, rfl⟩, part, rfl⟩
      | none =>
          rw [foundSection] at fails
          exact absurd ⟨_, _, rfl⟩ fails

end Widget

end Invocation

open Invocation (runOn)

/-- What adding a widget to a document in a file comes to, and giving it a theme. The answer to the
latter is to tell the path that was written: at one that is no text, the command crashes behind the
write. -/
structure Machine.EditsInPlace (machine : Machine) (directory input : RawText)
    (document : Document) : Prop where
  /-- The ids of the widget are drawn after those for the built-in presets. -/
  added (sectionId presetId : String)
      (succeeds :
        (runOn ⟨directory, .addWidget input sectionId presetId⟩ machine).1.code.value = 0) :
    ∃ registry ready preset next,
      (Files.loadRegistry directory).runOn machine = (.ok registry, ready) ∧
        registry.widget? presetId = some preset ∧
        document.Receives sectionId preset.body
          (ready.ids.upcoming (preset.body.nestedIds.length + 1)) next ∧
        (runOn ⟨directory, .addWidget input sectionId presetId⟩ machine).2.document? input =
          some next
  /-- Another file that is written leaves the document as it was in its own file. -/
  themed (themeId : String) (output : Option RawText)
      (ends : (runOn ⟨directory, .applyTheme input themeId output⟩ machine).1.code.value = 0 ∨
        (runOn ⟨directory, .applyTheme input themeId output⟩ machine).1.code.value = 101) :
    ∃ registry ready preset,
      (Files.loadRegistry directory).runOn machine = (.ok registry, ready) ∧
        registry.theme? themeId = some preset ∧
        (runOn ⟨directory, .applyTheme input themeId output⟩ machine).2.document?
          (output.getD input) = some { document with theme := preset.theme } ∧
        ∀ other, output = some other → machine.disk.Apart input other →
          (runOn ⟨directory, .applyTheme input themeId output⟩ machine).2.disk.readText input =
            machine.disk.readText input
  added_iff {registry : Registry} {ready : Machine}
      (presets : (Files.loadRegistry directory).runOn machine = (.ok registry, ready))
      (writable : ∃ text written, machine.disk.writeText input text = .ok written)
      (sectionId presetId : String) :
    (runOn ⟨directory, .addWidget input sectionId presetId⟩ machine).1.code.value = 0 ↔
      (∃ preset, registry.widget? presetId = some preset) ∧
        ∃ part ∈ document.sections, part.id = sectionId
  themed_iff {registry : Registry} {ready : Machine}
      (presets : (Files.loadRegistry directory).runOn machine = (.ok registry, ready))
      (themeId : String) (output : Option RawText)
      (writable : ∃ text written,
        machine.disk.writeText (output.getD input) text = .ok written) :
    ((runOn ⟨directory, .applyTheme input themeId output⟩ machine).1.code.value =
        if (output.getD input).text? = none then 101 else 0) ↔
      ∃ preset, registry.theme? themeId = some preset

/-- The commands change what they name and nothing else, and fail only where it is not there. -/
theorem Machine.edits_in_place {machine : Machine} {directory input : RawText}
    {document : Document} (loads : machine.document? input = some document) :
    machine.EditsInPlace directory input document where
  added sectionId presetId succeeds := by
    have noFailure := ExitCode.ne_failure (.inl succeeds)
    rcases Invocation.exists_loaded_of_code noFailure with ⟨registry, ready, presets⟩
    rcases Invocation.found_of_addWidget presets loads noFailure with
      ⟨⟨preset, found⟩, part, foundSection⟩
    have receives := Document.receives_instance foundSection preset ready.ids
    have proper := receives.isProper (Machine.isProper_of_document? loads)
      (Files.isProper_of_loaded presets preset (List.mem_of_find?_eq_some found))
    have saves := Invocation.saves_addWidget presets loads found foundSection
    exact ⟨registry, ready, preset, _, presets, found, receives, saves.loads proper noFailure⟩
  themed themeId output ends := by
    have noFailure := ExitCode.ne_failure ends
    rcases Invocation.exists_loaded_of_code noFailure with ⟨registry, ready, presets⟩
    rcases Invocation.found_of_applyTheme presets loads noFailure with ⟨preset, found⟩
    have saves := Invocation.saves_applyTheme presets loads output found
    have isProper := Machine.isProper_of_document? loads
    have proper : Document.IsProper { document with theme := preset.theme } := isProper
    refine ⟨registry, ready, preset, presets, found, saves.loads proper noFailure, ?_⟩
    rintro other rfl apart
    rcases Machine.document?_eq_some.mp loads with ⟨text, there, -⟩
    rw [there]
    exact (Disk.readText_of_apart (saves.wrote noFailure) apart).mpr there
  added_iff presets writable sectionId presetId := by
    have sought : (∃ part ∈ document.sections, part.id = sectionId) ↔
        ∃ part, document.section? sectionId = some part := by
      rw [← Option.isSome_iff_exists, Document.section?, List.find?_isSome]
      simp only [decide_eq_true_eq]
    rw [ExitCode.value_eq_zero_iff, sought]
    constructor
    · intro success
      apply Invocation.found_of_addWidget presets loads
      rw [success]
      nofun
    · rintro ⟨⟨preset, found⟩, part, foundSection⟩
      exact (Invocation.saves_addWidget presets loads found foundSection).code_of_writable writable
  themed_iff presets themeId output writable := by
    rw [ExitCode.value_eq_told_iff]
    constructor
    · intro ends
      apply Invocation.found_of_applyTheme presets loads
      rw [ends]
      split <;> nofun
    · rintro ⟨preset, found⟩
      exact (Invocation.saves_applyTheme presets loads output found).code_of_writable writable

def Document.twins : Document :=
  { Document.shape.blank with
    sections := [⟨"s", "First", [], none, none⟩, ⟨"s", "Second", [], none, none⟩] }

def twinsMachine : Machine :=
  ⟨⟨[(["news.json"], .file (.text Document.twins.toJson.compact))]⟩, .ofSeed "", .midnight .epoch⟩

theorem Document.Receives.of_twins {body : WidgetBody} {newIds : List String} {next : Document}
    (receives : twins.Receives "s" body newIds next) :
    next.sections.map (fun part => part.widgets.length) = [1, 0] := by
  cases receives with
  | @appended before after part widget addresses copied renewed =>
      have first : some 0 = some before.length := addresses.findIdx?
      rcases List.length_eq_zero_iff.mp (Option.some.inj first).symm with rfl
      have split := addresses.split
      cases split
      rfl

theorem Machine.edits_in_place_twins :
    twinsMachine.document? "news.json" = some .twins ∧
      twinsMachine.EditsInPlace "templates" "news.json" .twins ∧
      (∃ next,
        (runOn ⟨"templates", .addWidget "news.json" "s" "cta-buttons"⟩ twinsMachine).2.document?
            "news.json" = some next ∧
          next.sections.map (fun part => part.widgets.length) = [1, 0]) ∧
      (∃ theme,
        (runOn ⟨"templates", .applyTheme "news.json" "forest-green" (some "green.json")⟩
            twinsMachine).2.document? "green.json" = some { Document.twins with theme } ∧
          theme.primaryColor = "#166534") ∧
      (runOn ⟨"templates", .addWidget "news.json" "t" "cta-buttons"⟩ twinsMachine).1.code.value ≠
        0 ∧
      (runOn ⟨"templates", .applyTheme "news.json" "forest-green" (some Invocation.latinName)⟩
        twinsMachine).1.code.value = 101 := by
  have isProper : Document.twins.IsProper := by
    simp [Document.twins, Document.IsProper, Section.IsProper]
  have loads : twinsMachine.document? "news.json" = some .twins :=
    document?_eq_some.mpr ⟨_, rfl, Document.parse_compact isProper⟩
  have edits : twinsMachine.EditsInPlace "templates" "news.json" .twins := edits_in_place loads
  have presets : ∃ registry ready,
      (Files.loadRegistry "templates").runOn twinsMachine = (.ok registry, ready) := ⟨_, _, rfl⟩
  rcases presets with ⟨registry, ready, presets⟩
  have builtin : registry = (Registry.builtin.run twinsMachine.ids).1 :=
    (Files.loaded_eq presets).1
  subst builtin
  have adds := (edits.added_iff presets ⟨"", _, rfl⟩ "s" "cta-buttons").mpr
    ⟨⟨_, rfl⟩, _, List.mem_cons_self, rfl⟩
  have themes := (edits.themed_iff presets "forest-green" (some "green.json") ⟨"", _, rfl⟩).mpr
    ⟨_, rfl⟩
  rw [if_neg (by decide +kernel)] at themes
  have crashes := (edits.themed_iff presets "forest-green" (some Invocation.latinName)
    ⟨"", _, rfl⟩).mpr ⟨_, rfl⟩
  rw [if_pos (by decide +kernel)] at crashes
  refine ⟨loads, edits, ?_, ?_, ?_, crashes⟩
  · rcases edits.added "s" "cta-buttons" adds with ⟨_, _, _, next, -, -, receives, loadsNext⟩
    exact ⟨next, loadsNext, receives.of_twins⟩
  · rcases edits.themed "forest-green" (some "green.json") (.inl themes) with
      ⟨other, _, preset, loaded, found, loadsNext, -⟩
    rw [presets] at loaded
    cases loaded
    cases found
    exact ⟨_, loadsNext, rfl⟩
  · intro succeeds
    rcases ((edits.added_iff presets ⟨"", _, rfl⟩ "t" "cta-buttons").mp succeeds).2 with
      ⟨part, member, isT⟩
    simp only [Document.twins, List.mem_cons, List.not_mem_nil, or_false] at member
    rcases member with rfl | rfl <;> exact absurd isT (by decide)

end Bulletin
