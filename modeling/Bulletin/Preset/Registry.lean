import Bulletin.Failure
import Bulletin.Preset.Basic
/-!
# The registry of presets

Theme presets and widget presets in display order, each kind with ids of its own. Registering a
preset replaces the one with its id in place, and otherwise appends it.
-/

namespace Bulletin

/-- Puts an element in the place of the first one with its id, or at the end. -/
def replaceOrAppend (idOf : α → String) (item : α) : List α → List α
  | [] => [item]
  | head :: tail =>
      if idOf head = idOf item then item :: tail else head :: replaceOrAppend idOf item tail

structure Registry where
  themes : List ThemePreset
  widgets : List WidgetPreset
deriving DecidableEq, Repr

namespace Registry

def empty : Registry := ⟨[], []⟩

def builtin : Fresh Registry := do
  return ⟨builtinThemes, ← builtinWidgets⟩

def theme? (registry : Registry) (id : String) : Option ThemePreset :=
  registry.themes.find? fun preset => preset.id = id

def widget? (registry : Registry) (id : String) : Option WidgetPreset :=
  registry.widgets.find? fun preset => preset.id = id

def registerTheme (registry : Registry) (preset : ThemePreset) : Registry :=
  { registry with themes := replaceOrAppend ThemePreset.id preset registry.themes }

def registerWidget (registry : Registry) (preset : WidgetPreset) : Registry :=
  { registry with widgets := replaceOrAppend WidgetPreset.id preset registry.widgets }

def register (registry : Registry) : Preset → Registry
  | .theme preset => registry.registerTheme preset
  | .widget preset => registry.registerWidget preset

def applyTheme (registry : Registry) (id : String) (document : Document) :
    Except Failure Document :=
  match registry.theme? id with
  | some preset => .ok { document with theme := preset.theme }
  | none => .error (.presetNotFound id)

def instantiate (registry : Registry) (id : String) : Fresh (Except Failure Widget) := do
  match registry.widget? id with
  | some preset => return .ok (← preset.instantiate)
  | none => return .error (.presetNotFound id)

end Registry

end Bulletin
