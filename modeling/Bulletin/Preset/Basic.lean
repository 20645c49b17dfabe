import Bulletin.Document.Edit
import Bulletin.Document.Format
/-!
# Presets

A preset is a theme or a widget body under a name, to be copied into documents. A preset file holds
one of either kind; what can be read as a theme preset is one.
-/

namespace Bulletin

open Json (Format RecordShape)

structure ThemePreset where
  id : String
  name : String
  description : String
  theme : Theme
deriving DecidableEq, Repr

namespace ThemePreset

def shape : RecordShape ThemePreset where
  name := "struct ThemeTemplate"
  blank := ⟨"", "", "", .default⟩
  fields :=
    [.required "id" .text fun id preset => { preset with id },
      .required "name" .text fun name preset => { preset with name },
      .required "description" .text fun description preset => { preset with description },
      .required "theme" Theme.shape.format fun theme preset => { preset with theme }]

def toJson (preset : ThemePreset) : Json :=
  .record
    [("id", .text preset.id), ("name", .text preset.name),
      ("description", .text preset.description), ("theme", preset.theme.toJson)]

end ThemePreset

structure WidgetPreset where
  id : String
  name : String
  description : String
  body : WidgetBody
deriving DecidableEq, Repr

namespace WidgetPreset

def shape : RecordShape WidgetPreset where
  name := "struct WidgetTemplate"
  blank := ⟨"", "", "", .unknown⟩
  fields :=
    [.required "id" .text fun id preset => { preset with id },
      .required "name" .text fun name preset => { preset with name },
      .required "description" .text fun description preset => { preset with description },
      .required "defaultData" WidgetBody.format fun body preset => { preset with body }]

def toJson (preset : WidgetPreset) : Json :=
  .record
    [("id", .text preset.id), ("name", .text preset.name),
      ("description", .text preset.description), ("defaultData", preset.body.toJson)]

def instantiate (preset : WidgetPreset) : Fresh Widget :=
  Widget.ofBody preset.body

end WidgetPreset

inductive Preset where
  | theme (preset : ThemePreset)
  | widget (preset : WidgetPreset)
deriving DecidableEq, Repr

namespace Preset

def ofJson? (value : Json) : Option Preset :=
  match ThemePreset.shape.ofJson .counted value with
  | .ok preset => some (.theme preset)
  | .error _ =>
      match WidgetPreset.shape.ofJson .counted value with
      | .ok preset => some (.widget preset)
      | .error _ => none

def parse? (text : String) : Option Preset :=
  (Json.parse text).toOption.bind ofJson?

end Preset

/-! ## Built-in presets -/

/-- A theme with the five given colors and corners, and the font of the default theme. -/
def themePreset (id name description : String) (primaryColor secondaryColor accentColor : String)
    (backgroundColor textColor borderRadius : String) : ThemePreset where
  id := id
  name := name
  description := description
  theme :=
    { Theme.default with
      primaryColor, secondaryColor, accentColor, backgroundColor, textColor, borderRadius }

def builtinThemes : List ThemePreset :=
  [⟨"cap-default", "CAP Default", "Civil Air Patrol colors", .default⟩,
    themePreset "modern-blue" "Modern Blue" "Clean blue theme"
      "#2563eb" "#60a5fa" "#1e40af" "#ffffff" "#1f2937" "12px",
    themePreset "forest-green" "Forest Green" "Nature-inspired theme"
      "#166534" "#86efac" "#15803d" "#ffffff" "#1f2937" "8px",
    themePreset "sunset-orange" "Sunset Orange" "Warm and inviting"
      "#ea580c" "#fdba74" "#c2410c" "#ffffff" "#1f2937" "10px"]

/-- The built-in widget presets, whose nested items have no ids yet. -/
def widgetPresetStems : List WidgetPreset :=
  [{ id := "meeting-standard"
     name := "Standard Meeting"
     description := "Meeting with location, time, and details"
     body :=
       .meeting
         ⟨"Meeting Title",
           [⟨"", "Location", "TBA"⟩, ⟨"", "UOD", "TBA"⟩, ⟨"", "Details", "TBA"⟩], []⟩ },
   { id := "meeting-virtual"
     name := "Virtual Meeting"
     description := "Online meeting with join link"
     body :=
       .meeting
         ⟨"Virtual Meeting",
           [⟨"", "Location", "Virtual"⟩, ⟨"", "UOD", "Civilian"⟩, ⟨"", "Time", "TBA"⟩],
           [⟨"", "Join Meeting", "", .primary⟩]⟩ },
   { id := "notice-no-meeting"
     name := "No Meeting Notice"
     description := "Notice for cancelled meetings"
     body := .notice ⟨"NO MEETING", .warning⟩ },
   { id := "cta-buttons"
     name := "Call to Action"
     description := "Group of action buttons"
     body :=
       .buttonGroup
         ⟨[⟨"", "Learn More", "", .primary⟩, ⟨"", "Register", "", .accent⟩]⟩ }]

def rekeyPresets : List WidgetPreset → Fresh (List WidgetPreset)
  | [] => pure []
  | preset :: presets => do
      let body ← preset.body.rekey
      let rest ← rekeyPresets presets
      return { preset with body } :: rest

def builtinWidgets : Fresh (List WidgetPreset) :=
  rekeyPresets widgetPresetStems

end Bulletin
