import Bulletin.Proofs.Document.Addressing
import Bulletin.Proofs.Storage.Presets
import Mathlib.Data.List.Induction
/-!
# The history of a registry

A registry is an ordered map from ids to presets, for each kind of preset. Ids stand in the order in
which they were first registered, and an id leads to what was registered under it last.
-/

namespace Bulletin

open Elements (Addresses)

/-! ## Entries -/

/-- What becomes of entries where one is registered: it takes the place of the entry with its id, or
comes last, and all other entries stay as they are. -/
inductive Registers (idOf : α → String) (item : α) : List α → List α → Prop where
  | replaced {before after : List α} {old : α} (same : idOf old = idOf item)
      (others : ∀ other ∈ before, idOf other ≠ idOf item) :
      Registers idOf item (before ++ old :: after) (before ++ item :: after)
  | appended {entries : List α} (isNew : idOf item ∉ entries.map idOf) :
      Registers idOf item entries (entries ++ [item])

/-- The entries that some items, registered one after another, make of those at the start. -/
structure IsRegistered (idOf : α → String) (get? : String → Option α)
    (start registered entries : List α) : Prop where
  distinct : (entries.map idOf).Nodup
  latest (id : String) : get? id =
    (registered.reverse.find? fun item => idOf item = id).or
      (start.find? fun item => idOf item = id)
  absent (id : String) : get? id = none ↔ id ∉ (start ++ registered).map idOf
  order : entries.map idOf = ((start ++ registered).map idOf).eraseDups
  startFirst : start.map idOf <+: entries.map idOf

section Entries

variable {idOf : α → String} {item : α} {entries : List α}

theorem replaceOrAppend_of_addresses {before after : List α} {old : α}
    (addresses : Addresses (fun other => idOf other = idOf item) entries before old after) :
    replaceOrAppend idOf item entries = before ++ item :: after := by
  rcases addresses with ⟨rfl, sought, earlier⟩
  induction before with
  | nil => exact if_pos (of_decide_eq_true sought)
  | cons head before induction =>
      have isOther := of_decide_eq_false (earlier head List.mem_cons_self)
      have rest := induction fun other member => earlier other (List.mem_cons_of_mem head member)
      rw [List.cons_append, replaceOrAppend, if_neg isOther, rest]
      rfl

theorem replaceOrAppend_of_new (isNew : idOf item ∉ entries.map idOf) :
    replaceOrAppend idOf item entries = entries ++ [item] := by
  induction entries with
  | nil => rfl
  | cons head tail induction =>
      rw [List.map_cons, List.mem_cons, not_or] at isNew
      rw [replaceOrAppend, if_neg (Ne.symm isNew.1), induction isNew.2]
      rfl

theorem registers_replaceOrAppend (idOf : α → String) (item : α) (entries : List α) :
    Registers idOf item entries (replaceOrAppend idOf item entries) := by
  by_cases known : idOf item ∈ entries.map idOf
  · rcases List.mem_map.mp known with ⟨old, member, same⟩
    have sought : ∃ other ∈ entries, decide (idOf other = idOf item) = true :=
      ⟨old, member, decide_eq_true same⟩
    rcases Elements.exists_addresses sought with ⟨before, old, after, addresses⟩
    rw [replaceOrAppend_of_addresses addresses, addresses.split]
    exact .replaced (of_decide_eq_true addresses.sought)
      fun other member => of_decide_eq_false (addresses.earlier other member)
  · rw [replaceOrAppend_of_new known]
    exact .appended known

namespace Registers

variable {next : List α} (registers : Registers idOf item entries next)

include registers

theorem mem {other : α} (member : other ∈ next) : other = item ∨ other ∈ entries := by
  cases registers with
  | replaced same others =>
      simp only [List.mem_append, List.mem_cons] at member ⊢
      tauto
  | appended isNew => exact (List.mem_append.mp member).symm.imp List.mem_singleton.mp id

theorem ids_eq : next.map idOf =
    if idOf item ∈ entries.map idOf then entries.map idOf else entries.map idOf ++ [idOf item] := by
  cases registers with
  | replaced same others => simp [same]
  | appended isNew => rw [if_neg isNew, List.map_append, List.map_singleton]

theorem find?_eq (id : String) : (next.find? fun other => idOf other = id) =
    if idOf item = id then some item else entries.find? fun other => idOf other = id := by
  cases registers with
  | @replaced before after old same others =>
      by_cases isItem : idOf item = id
      · have none : (before.find? fun other => idOf other = id) = none :=
          List.find?_eq_none.mpr fun other member => by
            simpa [← isItem] using others other member
        rw [List.find?_append, none, if_pos isItem]
        simp [isItem]
      · simp [List.find?_append, same, isItem]
  | appended isNew =>
      by_cases isItem : idOf item = id
      · have none : (entries.find? fun other => idOf other = id) = none :=
          List.find?_eq_none.mpr fun other member => by
            simpa [← isItem] using fun found => isNew (List.mem_map.mpr ⟨other, member, found⟩)
        rw [List.find?_append, none, if_pos isItem]
        simp [isItem]
      · simp [List.find?_append, isItem]

end Registers

/-! ## Runs of entries -/

theorem eraseDups_of_nodup {ids : List String} (distinct : ids.Nodup) : ids.eraseDups = ids := by
  induction ids with
  | nil => rfl
  | cons id ids induction =>
      rcases List.nodup_cons.mp distinct with ⟨isNew, rest⟩
      have kept : ids.filter (fun other => !other == id) = ids :=
        List.filter_eq_self.mpr fun other member => by
          simpa using fun same : other = id => isNew (same ▸ member)
      rw [List.eraseDups_cons, kept, induction rest]

theorem eraseDups_append_singleton (ids : List String) (id : String) :
    (ids ++ [id]).eraseDups =
      if id ∈ ids.eraseDups then ids.eraseDups else ids.eraseDups ++ [id] := by
  rw [List.eraseDups_append, List.cons_removeAll]
  by_cases known : id ∈ ids <;> simp [known, List.eraseDups_cons]

theorem find?_eq_none_iff (entries : List α) (id : String) :
    (entries.find? fun item => idOf item = id) = none ↔ id ∉ entries.map idOf := by
  simp [List.find?_eq_none]

theorem isRegistered_start {start : List α} (distinct : (start.map idOf).Nodup) :
    IsRegistered idOf (fun id => start.find? fun item => idOf item = id) start [] start where
  distinct := distinct
  latest _ := rfl
  absent id := by rw [find?_eq_none_iff, List.append_nil]
  order := by rw [List.append_nil, eraseDups_of_nodup distinct]
  startFirst := List.prefix_rfl

theorem IsRegistered.register {start earlier next : List α}
    (before : IsRegistered idOf (fun id => entries.find? fun item => idOf item = id) start
      earlier entries) (registers : Registers idOf item entries next) :
    IsRegistered idOf (fun id => next.find? fun item => idOf item = id) start
      (earlier ++ [item]) next := by
  have order : next.map idOf = ((start ++ (earlier ++ [item])).map idOf).eraseDups := by
    rw [← List.append_assoc, List.map_append, List.map_singleton, eraseDups_append_singleton,
      ← before.order, registers.ids_eq]
  exact
    { distinct := by
        rw [registers.ids_eq]
        split
        · exact before.distinct
        · rename_i isNew
          exact List.nodup_append.mpr ⟨before.distinct, by simp, by simpa using isNew⟩
      latest := fun id => by
        rw [registers.find?_eq, List.reverse_append, List.reverse_singleton,
          List.singleton_append, List.find?_cons]
        by_cases isItem : idOf item = id
        · simp [isItem]
        · simpa [isItem] using before.latest id
      absent := fun id => by rw [find?_eq_none_iff, order, List.mem_eraseDups]
      order := order
      startFirst := by
        rw [registers.ids_eq]
        split
        · exact before.startFirst
        · exact before.startFirst.trans (List.prefix_append _ _) }

theorem isRegistered_foldl {start : List α} (distinct : (start.map idOf).Nodup)
    (registered : List α) :
    let entries := registered.foldl (fun entries item => replaceOrAppend idOf item entries) start
    IsRegistered idOf (fun id => entries.find? fun item => idOf item = id) start registered
      entries := by
  induction registered using List.reverseRecOn with
  | nil => exact isRegistered_start distinct
  | append_singleton earlier item induction =>
      rw [List.foldl_append]
      exact induction.register (registers_replaceOrAppend idOf item _)

end Entries

/-! ## Registries -/

namespace Preset

def theme? : Preset → Option ThemePreset
  | .theme preset => some preset
  | .widget _ => none

def widget? : Preset → Option WidgetPreset
  | .theme _ => none
  | .widget preset => some preset

end Preset

namespace Registry

/-- How a registry came about: what there was at the start, and the presets that were registered
since, one after another. -/
inductive History : Registry → List Preset → Registry → Prop where
  | empty : History .empty [] .empty
  | builtin (supply : IdSupply) :
      History (Registry.builtin.run supply).1 [] (Registry.builtin.run supply).1
  | loaded {directory : RawText} {machine after : Machine} {registry : Registry}
      (read : (Files.loadRegistry directory).runOn machine = (.ok registry, after)) :
      History (Registry.builtin.run machine.ids).1 (machine.disk.presetsIn directory) registry
  | registered {start registry : Registry} {presets : List Preset}
      (history : History start presets registry) (preset : Preset) :
      History start (presets ++ [preset]) (registry.register preset)

structure IsMapOf (registry start : Registry) (presets : List Preset) : Prop where
  themes : IsRegistered ThemePreset.id registry.theme? start.themes
    (presets.filterMap Preset.theme?) registry.themes
  widgets : IsRegistered WidgetPreset.id registry.widget? start.widgets
    (presets.filterMap Preset.widget?) registry.widgets

/-- What becomes of a registry where a preset is registered: one kind of presets is changed at the
id of the preset alone, and the other kind not at all. -/
def Changes (registry next : Registry) : Preset → Prop
  | .theme preset =>
      Registers ThemePreset.id preset registry.themes next.themes ∧
        next.widgets = registry.widgets
  | .widget preset =>
      Registers WidgetPreset.id preset registry.widgets next.widgets ∧
        next.themes = registry.themes

theorem changes_register (registry : Registry) (preset : Preset) :
    registry.Changes (registry.register preset) preset := by
  cases preset with
  | theme preset => exact ⟨registers_replaceOrAppend _ preset _, rfl⟩
  | widget preset => exact ⟨registers_replaceOrAppend _ preset _, rfl⟩

theorem foldl_register (start : Registry) (presets : List Preset) :
    presets.foldl register start =
      { themes := (presets.filterMap Preset.theme?).foldl
          (fun entries preset => replaceOrAppend ThemePreset.id preset entries) start.themes
        widgets := (presets.filterMap Preset.widget?).foldl
          (fun entries preset => replaceOrAppend WidgetPreset.id preset entries)
          start.widgets } := by
  induction presets generalizing start with
  | nil => rfl
  | cons preset presets induction =>
      rw [List.foldl_cons, induction]
      cases preset <;> rfl

/-! ## The built-in presets -/

theorem ids_rekeyPresets (presets : List WidgetPreset) (supply : IdSupply) :
    ((rekeyPresets presets).run supply).1.map WidgetPreset.id = presets.map WidgetPreset.id := by
  induction presets generalizing supply with
  | nil => rfl
  | cons preset presets induction =>
      exact congrArg (preset.id :: ·) (induction _)

theorem History.start {start registry : Registry} {presets : List Preset}
    (history : History start presets registry) :
    registry = presets.foldl register start ∧ (start.themes.map ThemePreset.id).Nodup ∧
      (start.widgets.map WidgetPreset.id).Nodup := by
  have builtin (supply : IdSupply) :
      ((Registry.builtin.run supply).1.themes.map ThemePreset.id).Nodup ∧
        ((Registry.builtin.run supply).1.widgets.map WidgetPreset.id).Nodup := by
    have themes : (Registry.builtin.run supply).1.themes = builtinThemes := rfl
    have widgets : (Registry.builtin.run supply).1.widgets.map WidgetPreset.id =
        widgetPresetStems.map WidgetPreset.id := ids_rekeyPresets widgetPresetStems supply
    rw [themes, widgets]
    exact ⟨by decide, by decide⟩
  induction history with
  | empty => exact ⟨rfl, .nil, .nil⟩
  | builtin supply => exact ⟨rfl, builtin supply⟩
  | loaded read => exact ⟨(Files.loaded_eq read).1, builtin _⟩
  | registered history preset induction =>
      refine ⟨?_, induction.2⟩
      rw [List.foldl_append, ← induction.1]
      rfl

/-- A registry keeps one preset of a kind under an id, the one that was registered last; they stand
in the order in which their ids came first, the built-in ones before all others. To register one
more changes no other preset. -/
theorem last_registered_wins {start registry : Registry} {presets : List Preset}
    (history : History start presets registry) :
    registry.IsMapOf start presets ∧
      ∀ preset, registry.Changes (registry.register preset) preset := by
  rcases history.start with ⟨rfl, themes, widgets⟩
  refine ⟨?_, changes_register _⟩
  rw [foldl_register]
  exact ⟨isRegistered_foldl themes _, isRegistered_foldl widgets _⟩

def nightText : String :=
  "\x7b\"id\":\"night\",\"name\":\"Night\",\"description\":\"\",\"theme\":" ++
    "\x7b\"primaryColor\":\"#111\"\x7d\x7d"

def presetMachine : Machine :=
  ⟨⟨[(["templates"], .directory), (["templates", "night.json"], .file (.text nightText)),
      (["templates", "notes.txt"], .file (.text ""))]⟩, .ofSeed "", .midnight .epoch⟩

def nightPreset : ThemePreset :=
  ⟨"night", "Night", "", { Theme.default with primaryColor := "#111" }⟩

def plainPreset : ThemePreset :=
  ⟨"cap-default", "Plain", "", { Theme.default with borderRadius := "0" }⟩

def rulePreset : WidgetPreset :=
  ⟨"cap-default", "Rule", "", .divider⟩

theorem last_registered_wins_night :
    ∃ start registry,
      History start [.theme nightPreset, .theme plainPreset, .widget rulePreset] registry ∧
        registry.IsMapOf start [.theme nightPreset, .theme plainPreset, .widget rulePreset] ∧
        registry.themes.map ThemePreset.id =
          ["cap-default", "modern-blue", "forest-green", "sunset-orange", "night"] ∧
        registry.theme? "cap-default" = some plainPreset ∧
        registry.theme? "night" = some nightPreset ∧
        registry.widget? "cap-default" = some rulePreset ∧
        registry.widget? "night" = none := by
  have presets : presetMachine.disk.presetsIn "templates" = [.theme nightPreset] := by
    decide +kernel
  have loaded : ∃ registry after,
      (Files.loadRegistry "templates").runOn presetMachine = (.ok registry, after) :=
    ⟨_, _, rfl⟩
  rcases loaded with ⟨registry, after, read⟩
  have history := ((History.loaded read).registered (.theme plainPreset)).registered
    (.widget rulePreset)
  rw [presets] at history
  have isMap := (last_registered_wins history).1
  refine ⟨_, _, history, isMap, ?_, ?_, ?_, ?_, ?_⟩
  · rw [isMap.themes.order]
    decide
  · rw [isMap.themes.latest]
    rfl
  · rw [isMap.themes.latest]
    rfl
  · rw [isMap.widgets.latest]
    rfl
  · rw [isMap.widgets.absent]
    decide

end Registry

end Bulletin
