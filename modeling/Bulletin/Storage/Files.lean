import Bulletin.Library.Basic
import Bulletin.Preset.Registry
import Bulletin.Storage.Host

/-!
# Documents, libraries, pages and presets in files

Documents and libraries are files of pretty JSON. A library file that is not there is an empty
library. The presets of a directory are those of its readable preset files, taken in the order of
their names.
-/

namespace Bulletin

open Json (Format)

def pageFileName : String := "announcement.html"

def libraryFileName : String := "email-templates.json"

def presetExtension : String := "json"

namespace Files

variable {m : Type → Type} [Host m]

def readJson (format : Format α) (path : RawText) : Task m α := do
  match format.parse (← Task.readText path) with
  | .ok value => return value
  | .error error => throw (.fileContent path error)

def writeJson (path : RawText) (value : Json) : Task m Unit :=
  Task.writeText path value.pretty

def loadDocument (path : RawText) : Task m Document :=
  readJson Document.format path

def saveDocument (path : RawText) (document : Document) : Task m Unit :=
  writeJson path document.toJson

def loadLibrary (path : RawText) : Task m Library := do
  if ← (Host.pathExists path : m Bool) then
    readJson (Library.format (← (Host.now : m Timestamp))) path
  else return .empty

def saveLibrary (path : RawText) (library : Library) : Task m Unit :=
  writeJson path library.toJson

def exportPage (directory : RawText) (html : String) : Task m RawText := do
  let path := Path.join directory pageFileName
  Task.writeText path html
  return path

def writePage (path : RawText) (html : String) : Task m RawText := do
  if ← (Host.isDirectory path : m Bool) then exportPage path html
  else
    Task.writeText path html
    return path

/-- The preset that a file holds, if it can be read and holds one. -/
def readPreset? (path : RawText) : m (Option Preset) := do
  match ← Host.readText path with
  | .ok text => return Preset.parse? text
  | .error _ => return none

def registerFiles (directory : RawText) : List RawText → Registry → m Registry
  | [], registry => pure registry
  | name :: names, registry => do
      match ← readPreset? (Path.join directory name) with
      | some preset => registerFiles directory names (registry.register preset)
      | none => registerFiles directory names registry

/-- The preset files among some names, in ascending order. -/
def presetFileNames (names : List RawText) : List RawText :=
  (names.filter fun name => Path.extension? name = some (.ofText presetExtension)).mergeSort

def loadRegistry (directory : RawText) : Task m Registry := do
  let registry ← (Host.draw Registry.builtin : m Registry)
  if ← (Host.pathExists directory : m Bool) then
    let names ← Task.atPath directory (Host.directoryNames directory)
    (registerFiles directory (presetFileNames names) registry : m Registry)
  else return registry

end Files

end Bulletin
