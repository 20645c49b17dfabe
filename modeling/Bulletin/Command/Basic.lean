import Bulletin.Command.Options
import Bulletin.Storage.Files
/-!
# Commands

What can be asked for on the command line, and how it is asked. A command line names a directory
of presets, then a command with its options; the commands on a library of saved documents name
their library first.
-/

namespace Bulletin

inductive LibraryAction where
  | list
  | save (input : RawText) (name description : String)
  | load (id : String) (output : RawText)
  | delete (id : String)
  | exportTo (output : RawText)
  | importFrom (input : RawText)
deriving DecidableEq, Repr

inductive Command where
  /-- Writes a starter document; a file in its place is replaced only by `force`. -/
  | new (output : RawText) (force : Bool)
  /-- Writes the page of a document; a `strict` one refuses documents with errors. -/
  | compile (input output : RawText) (strict : Bool)
  | check (input : RawText)
  | themes
  | widgets
  /-- Gives a document the theme of a preset, in place where there is no output. -/
  | applyTheme (input : RawText) (themeId : String) (output : Option RawText)
  | addWidget (input : RawText) (sectionId presetId : String)
  | library (path : RawText) (action : LibraryAction)
deriving DecidableEq, Repr

structure Invocation where
  presetDirectory : RawText
  command : Command
deriving DecidableEq, Repr

namespace Command

/-! ## Forms -/

/-- How a command is asked for: its name, its options, and the command they make, which is none
where a required option is missing. -/
structure Form (α : Type) where
  name : String
  options : List OptionForm
  build : Given → Option α

namespace Form

/-- The arguments may end with the mark that ends options. -/
def isEnd (arguments : List RawText) : Bool :=
  arguments = [] || arguments.map Argument.ofRaw = [.endMark]

def read (forms : List (Form α)) : List RawText → Except Refusal α
  | [] => .error .misused
  | name :: arguments =>
      match forms.find? fun form => .ofText form.name = name with
      | some form => do
          let (given, rest) ← readOptions form.options .empty arguments
          match form.build given with
          | some command => if isEnd rest then .ok command else .error .misused
          | none => .error .misused
      | none => .error (if name = helpName then .helpWanted else .misused)

end Form

def inputOption : OptionForm := ⟨"input", some 'i', .path⟩

def outputOption : OptionForm := ⟨"output", some 'o', .path⟩

def idOption : OptionForm := ⟨"id", none, .text⟩

def starterFileName : String := "config.json"

end Command

namespace LibraryAction

open Command (Form Given OptionForm idOption inputOption outputOption)

def nameOption : OptionForm := ⟨"name", some 'n', .text⟩

def descriptionOption : OptionForm := ⟨"description", some 'd', .text⟩

def fileOption : OptionForm := ⟨"file", some 'f', .path⟩

def forms : List (Form LibraryAction) :=
  [⟨"list", [], fun _ => some .list⟩,
    ⟨"save", [inputOption, nameOption, descriptionOption], fun given => do
      let input ← given.value? inputOption.name
      let name ← given.text? nameOption.name
      return .save input name ((given.text? descriptionOption.name).getD "")⟩,
    ⟨"load", [idOption, outputOption], fun given => do
      return .load (← given.text? idOption.name) (← given.value? outputOption.name)⟩,
    ⟨"delete", [idOption], fun given => (given.text? idOption.name).map .delete⟩,
    ⟨"export", [outputOption], fun given => (given.value? outputOption.name).map .exportTo⟩,
    ⟨"import", [fileOption], fun given => (given.value? fileOption.name).map .importFrom⟩]

end LibraryAction

namespace Command

def forceOption : OptionForm := ⟨"force", none, .switch⟩

def strictOption : OptionForm := ⟨"strict", none, .switch⟩

def themeOption : OptionForm := ⟨"theme", some 't', .text⟩

def sectionOption : OptionForm := ⟨"section", some 's', .text⟩

def presetOption : OptionForm := ⟨"template", some 't', .text⟩

def forms : List (Form Command) :=
  [⟨"new", [outputOption, forceOption], fun given =>
      some <|
        .new ((given.value? outputOption.name).getD starterFileName)
          (given.has forceOption.name)⟩,
    ⟨"compile", [inputOption, outputOption, strictOption], fun given => do
      let input ← given.value? inputOption.name
      let output := (given.value? outputOption.name).getD pageFileName
      return .compile input output (given.has strictOption.name)⟩,
    ⟨"check", [inputOption], fun given => (given.value? inputOption.name).map .check⟩,
    ⟨"themes", [], fun _ => some .themes⟩,
    ⟨"widgets", [], fun _ => some .widgets⟩,
    ⟨"apply-theme", [inputOption, themeOption, outputOption], fun given => do
      let input ← given.value? inputOption.name
      let themeId ← given.text? themeOption.name
      return .applyTheme input themeId (given.value? outputOption.name)⟩,
    ⟨"add-widget", [inputOption, sectionOption, presetOption], fun given => do
      let input ← given.value? inputOption.name
      let sectionId ← given.text? sectionOption.name
      return .addWidget input sectionId (← given.text? presetOption.name)⟩]

def libraryName : String := "library"

def libraryOption : OptionForm := ⟨"library", some 'l', .path⟩

def read : List RawText → Except Refusal Command
  | [] => .error .misused
  | name :: arguments =>
      if name = libraryName then do
        let (given, rest) ← readOptions [libraryOption] .empty arguments
        let action ← Form.read LibraryAction.forms rest
        let path := (given.value? libraryOption.name).getD libraryFileName
        .ok (.library path action)
      else Form.read forms (name :: arguments)

end Command

namespace Invocation

open Command (OptionForm Refusal)

def presetsOption : OptionForm := ⟨"presets-dir", some 'p', .path⟩

def defaultPresetDirectory : String := "templates"

def read (arguments : List RawText) : Except Refusal Invocation := do
  let (given, rest) ← Command.readOptions [presetsOption] .empty arguments
  let command ← Command.read rest
  return ⟨(given.value? presetsOption.name).getD defaultPresetDirectory, command⟩

example :
    (read ["-p", "extra", "library", "-l=l.json", "save", "-ia.json", "--name", "A"]).toOption =
      some ⟨"extra", .library "l.json" (.save "a.json" "A" "")⟩ := by decide +kernel
example : (read ["check", "-i", "a.json", "-i", "a.json"]).toOption = none := by decide +kernel
example : (read ["themes", "-p", "extra"]).toOption = none := by decide +kernel

end Invocation

end Bulletin
