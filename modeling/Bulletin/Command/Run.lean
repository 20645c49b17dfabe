import Bulletin.Command.Basic
import Bulletin.Compiled
/-!
# Running commands

What commands do and what they print: one JSON value each. A command ends with code 0, with 1 when
it fails, and with 2 when a document has errors or the command line is not understood; in the last
case it prints nothing. A command that has written a file and is to tell a path that is no text
crashes: it prints nothing and ends with code 101. What is printed is always taken.
-/

namespace Bulletin

inductive ExitCode where
  | success
  | failure
  | refused
  | crashed
deriving DecidableEq, Repr

def ExitCode.value : ExitCode → Nat
  | .success => 0
  | .failure => 1
  | .refused => 2
  | .crashed => 101

structure Outcome where
  code : ExitCode
  answer : Option Json
deriving DecidableEq

namespace Outcome

def text (outcome : Outcome) : String :=
  match outcome.answer with
  | some answer => answer.pretty ++ "\n"
  | none => ""

def ofAnswer (answer : Json) : Outcome :=
  ⟨.success, some answer⟩

def success (details : List (String × Json)) : Outcome :=
  ofAnswer (Json.record (("success", .boolean true) :: details)).canonical

/-- Success, with the path that was written among the details. JSON text can tell no other path than
one that is text. -/
def wrote (path : RawText) (details : List (String × Json)) : Outcome :=
  match path.text? with
  | some text => success (("output", .text text) :: details)
  | none => ⟨.crashed, none⟩

def failed (code : ExitCode) (failure : Failure) : Outcome :=
  ⟨code, some (Json.record [("error", .text failure.message), ("success", .boolean false)])⟩

def refusal : Command.Refusal → Outcome
  | .helpWanted => ⟨.success, none⟩
  | .misused => ⟨.refused, none⟩

end Outcome

/-! ## Answers -/

/-- A widget preset in a listing; one of an unknown kind has no type and no label. -/
def WidgetPreset.summary (preset : WidgetPreset) : Json :=
  let described (describe : WidgetKind → String) : Json :=
    match preset.body.kind? with
    | some kind => .text (describe kind)
    | none => .null
  Json.record
    [("description", .text preset.description), ("id", .text preset.id),
      ("label", described WidgetKind.label), ("name", .text preset.name),
      ("type", described WidgetKind.tag)]

def SavedDocument.summary (saved : SavedDocument) : Json :=
  Json.record
    [("created_at", .text saved.createdAt.text), ("description", .text saved.description),
      ("id", .text saved.id), ("name", .text saved.name),
      ("sections", .count saved.document.sections.length)]

def Document.pageSummary (document : Document) : Json :=
  Json.record
    [("content_hash", .text (Digest.ofText document.html)),
      ("validation", document.check.toJson)]

/-! ## Libraries -/

variable {m : Type → Type} [Host m]

namespace LibraryAction

open Files

def run (path : RawText) (library : Library) : LibraryAction → Task m Outcome
  | .list => return .ofAnswer (Json.list (library.entries.map SavedDocument.summary))
  | .save input name description => do
      let document ← loadDocument input
      let now ← (Host.now : m Timestamp)
      let (saved, library) ← Task.draw (library.save now name description document)
      saveLibrary path library
      return .success [("id", .text saved.id)]
  | .load id output => do
      let document ← liftExcept (library.load id)
      saveDocument output document
      return .wrote output []
  | .delete id => do
      let (deleted, library) := library.delete id
      if deleted then saveLibrary path library
      return .ofAnswer (Json.record [("id", .text id), ("success", .boolean deleted)])
  | .exportTo output => do
      Task.writeText output library.exportText
      return .wrote output [("count", .count library.size)]
  | .importFrom input => do
      let text ← Task.readText input
      let now ← (Host.now : m Timestamp)
      let (count, library) ← Task.draw (library.importText now text)
      saveLibrary path library
      return .success [("imported", .count count)]

end LibraryAction

/-! ## Commands -/

namespace Command

open Files

def runNew (output : RawText) (force : Bool) : Task m Outcome := do
  if (← (Host.pathExists output : m Bool)) && !force then
    throw (.file output .alreadyExists)
  saveDocument output .starter
  return .wrote output []

def runCompile (input output : RawText) (strict : Bool) : Task m Outcome := do
  let document ← loadDocument input
  if strict then
    match document.compile with
    | .ok compiled =>
        let written ← writePage output compiled.html
        return .wrote written [("document", compiled.manifest)]
    | .error failure => return .failed .refused failure
  else
    let written ← writePage output document.html
    return .wrote written [("document", document.pageSummary)]

def runCheck (input : RawText) : Task m Outcome := do
  let report := (← loadDocument input).check
  return ⟨if report.valid then .success else .refused, some report.toJson⟩

def runApplyTheme (registry : Registry) (input : RawText) (themeId : String)
    (output : Option RawText) : Task m Outcome := do
  let document ← loadDocument input
  let themed ← liftExcept (registry.applyTheme themeId document)
  let output := output.getD input
  saveDocument output themed
  return .wrote output [("theme", .text themeId)]

def runAddWidget (registry : Registry) (input : RawText) (sectionId presetId : String) :
    Task m Outcome := do
  let document ← loadDocument input
  let widget ← Task.draw (registry.instantiate presetId)
  match document.section? sectionId with
  | some _ =>
      saveDocument input (document.modifySection sectionId fun part => part.push widget)
      return .success [("widget_id", .text widget.id)]
  | none => throw (.sectionNotFound sectionId)

def run (registry : Registry) : Command → Task m Outcome
  | .new output force => runNew output force
  | .compile input output strict => runCompile input output strict
  | .check input => runCheck input
  | .themes => return .ofAnswer (Json.list (registry.themes.map ThemePreset.toJson))
  | .widgets => return .ofAnswer (Json.list (registry.widgets.map WidgetPreset.summary))
  | .applyTheme input themeId output => runApplyTheme registry input themeId output
  | .addWidget input sectionId presetId => runAddWidget registry input sectionId presetId
  | .library path action => do action.run path (← loadLibrary path)

end Command

namespace Invocation

/-- Reads the presets, which every command does, and runs the command. -/
def run (invocation : Invocation) : m Outcome := do
  let task : Task m Outcome := do
    invocation.command.run (← Files.loadRegistry invocation.presetDirectory)
  match ← task.run with
  | .ok outcome => return outcome
  | .error failure => return .failed .failure failure

end Invocation

def runArguments (arguments : List RawText) : m Outcome :=
  match Invocation.read arguments with
  | .ok invocation => invocation.run
  | .error refusal => return .refusal refusal

end Bulletin
