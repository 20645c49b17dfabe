import Bulletin.Proofs.Document.Accepted
import Bulletin.Proofs.Document.Identities
import Bulletin.Proofs.Preset.History
/-!
# Accepted presets

The body of every widget preset is proper, of the built-in ones and of those that are read from
files. So is that of every widget that is made from one.
-/

namespace Bulletin

open Json.RecordShape (yields_record)

/-! ## Bodies -/

namespace WidgetBody

theorem isProper_unlabelled (body : WidgetBody) : body.unlabelled.IsProper ↔ body.IsProper := by
  cases body with
  | buttonGroup body => exact List.forall_mem_map
  | meeting body => exact List.forall_mem_map
  | _ => exact Iff.rfl

theorem isProper_congr {body other : WidgetBody} (same : body.unlabelled = other.unlabelled) :
    body.IsProper ↔ other.IsProper := by
  rw [← isProper_unlabelled body, same, isProper_unlabelled]

end WidgetBody

/-! ## Presets -/

def WidgetPreset.IsProper (preset : WidgetPreset) : Prop :=
  preset.body.IsProper

theorem WidgetPreset.yields_isProper : shape.format.Yields IsProper := by
  apply yields_record trivial
  simp only [shape, List.forall_mem_cons]
  refine ⟨?_, ?_, ?_, ?_, by simp⟩
  · exact Json.Field.keeps_required fun _ _ proper => proper
  · exact Json.Field.keeps_required fun _ _ proper => proper
  · exact Json.Field.keeps_required fun _ _ proper => proper
  · exact WidgetBody.yields_isProper.keeps_required fun _ proper _ _ => proper

def Preset.IsProper : Preset → Prop
  | .theme _ => True
  | .widget preset => preset.IsProper

theorem Preset.isProper_of_ofJson? {value : Json} {preset : Preset}
    (found : ofJson? value = some preset) : preset.IsProper := by
  rw [ofJson?] at found
  split at found
  · cases found
    trivial
  · split at found
    · rename_i read
      cases found
      exact WidgetPreset.yields_isProper.ofJson .counted value _ read
    · cases found

theorem Preset.isProper_of_parse? {text : String} {preset : Preset}
    (parsed : parse? text = some preset) : preset.IsProper := by
  rcases Option.bind_eq_some_iff.mp parsed with ⟨value, -, found⟩
  exact isProper_of_ofJson? found

theorem Disk.isProper_of_mem_presetsIn {disk : Disk} {directory : RawText} {preset : Preset}
    (member : preset ∈ disk.presetsIn directory) : preset.IsProper := by
  rw [presetsIn] at member
  split at member
  · rcases List.mem_filterMap.mp member with ⟨name, -, found⟩
    rcases Option.bind_eq_some_iff.mp found with ⟨text, -, parsed⟩
    exact Preset.isProper_of_parse? parsed
  · cases member

/-! ## Registries -/

namespace Registry

def IsProper (registry : Registry) : Prop :=
  ∀ preset ∈ registry.widgets, preset.IsProper

theorem forall_mem_rekeyPresets {holds : WidgetBody → Prop}
    (renewed : ∀ body supply, holds body → holds (body.rekey.run supply).1)
    {presets : List WidgetPreset} (all : ∀ preset ∈ presets, holds preset.body)
    (supply : IdSupply) :
    ∀ preset ∈ ((rekeyPresets presets).run supply).1, holds preset.body := by
  induction presets generalizing supply with
  | nil => exact fun _ member => (List.not_mem_nil member).elim
  | cons preset presets induction =>
      rcases List.forall_mem_cons.mp all with ⟨first, rest⟩
      exact List.forall_mem_cons.mpr ⟨renewed preset.body supply first, induction rest _⟩

theorem isProper_builtin (supply : IdSupply) : (builtin.run supply).1.IsProper := by
  have proper : ∀ preset ∈ widgetPresetStems, preset.body.IsProper := by
    simp [widgetPresetStems, WidgetBody.IsProper, LinkButton.IsProper, ButtonVariant.IsProper,
      NoticeVariant.IsProper]
  have renewed (body : WidgetBody) (supply : IdSupply) (proper : body.IsProper) :
      (body.rekey.run supply).1.IsProper :=
    (WidgetBody.isProper_congr (body.unlabelled_rekey supply)).mpr proper
  exact forall_mem_rekeyPresets renewed proper supply

theorem IsProper.register {registry : Registry} {preset : Preset} (proper : registry.IsProper)
    (isProper : preset.IsProper) : (registry.register preset).IsProper := by
  cases preset with
  | theme preset => exact proper
  | widget preset =>
      intro other member
      rcases (registers_replaceOrAppend WidgetPreset.id preset registry.widgets).mem member with
        rfl | member
      · exact isProper
      · exact proper other member

theorem IsProper.foldl_register {registry : Registry} {presets : List Preset}
    (proper : registry.IsProper) (isProper : ∀ preset ∈ presets, preset.IsProper) :
    (presets.foldl Registry.register registry).IsProper := by
  induction presets generalizing registry with
  | nil => exact proper
  | cons preset presets induction =>
      rcases List.forall_mem_cons.mp isProper with ⟨first, rest⟩
      exact induction (proper.register first) rest

end Registry

theorem Files.isProper_of_loaded {directory : RawText} {machine after : Machine}
    {registry : Registry}
    (loaded : (loadRegistry directory).runOn machine = (.ok registry, after)) :
    registry.IsProper := by
  rw [(loaded_eq loaded).1]
  exact (Registry.isProper_builtin machine.ids).foldl_register fun _ =>
    Disk.isProper_of_mem_presetsIn

end Bulletin
