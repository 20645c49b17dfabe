import Bulletin.Proofs.Storage.Files
/-!
# Presets in files

A registry that is read from a directory is the built-in one, in which the presets of the directory
were registered one after another. Nothing but ids is drawn for it.
-/

namespace Bulletin

def Disk.presetAt? (disk : Disk) (path : RawText) : Option Preset :=
  (disk.readText path).toOption.bind Preset.parse?

def Disk.presetsIn (disk : Disk) (directory : RawText) : List Preset :=
  match disk.directoryNames directory with
  | .ok names =>
      (Files.presetFileNames names).filterMap fun name =>
        disk.presetAt? (Path.join directory name)
  | .error _ => []

namespace Files

theorem run_readPreset? (path : RawText) (machine : Machine) :
    (readPreset? path : StateM Machine _).run machine = (machine.disk.presetAt? path, machine) := by
  have asked : (Host.readText path : StateM Machine _).run machine =
      (machine.disk.readText path, machine) := rfl
  rw [readPreset?, StateT.run_bind, asked, Disk.presetAt?]
  cases machine.disk.readText path <;> rfl

theorem run_registerFiles (directory : RawText) (names : List RawText) (registry : Registry)
    (machine : Machine) :
    (registerFiles directory names registry : StateM Machine _).run machine =
      ((names.filterMap fun name => machine.disk.presetAt? (Path.join directory name)).foldl
        Registry.register registry, machine) := by
  induction names generalizing registry with
  | nil => rfl
  | cons name names induction =>
      rw [registerFiles, StateT.run_bind, run_readPreset?, List.filterMap_cons]
      cases machine.disk.presetAt? (Path.join directory name) with
      | none => exact induction registry
      | some preset => exact induction (registry.register preset)

/-- The built-in presets are drawn first. Only a file in the place of the directory is a failure; a
directory that is not there holds no presets. -/
theorem runOn_loadRegistry (directory : RawText) (machine : Machine) :
    (loadRegistry directory).runOn machine =
      (match machine.disk.find directory with
        | .ok (_, .file _) => .error (.file directory .notDirectory)
        | _ => .ok ((machine.disk.presetsIn directory).foldl Registry.register
            (Registry.builtin.run machine.ids).1),
        { machine with ids := (Registry.builtin.run machine.ids).2 }) := by
  have drawn : (Host.draw Registry.builtin : StateM Machine _) machine =
      ((Registry.builtin.run machine.ids).1,
        { machine with ids := (Registry.builtin.run machine.ids).2 }) := rfl
  have asked (machine : Machine) : (Host.pathExists directory : StateM Machine Bool) machine =
      (machine.disk.pathExists directory, machine) := rfl
  have listed (machine : Machine) : (Host.directoryNames directory : StateM Machine _) machine =
      (machine.disk.directoryNames directory, machine) := rfl
  rw [loadRegistry, Task.runOn_bind, Task.runOn_lift, drawn]
  dsimp only
  rw [Task.runOn_bind, Task.runOn_lift, asked, Disk.presetsIn]
  dsimp only
  rw [Disk.pathExists]
  cases found : machine.disk.find directory with
  | error fault =>
      have names : machine.disk.directoryNames directory = .error fault := by
        rw [Disk.directoryNames, found]
        rfl
      rw [names]
      rfl
  | ok there =>
      rcases there with ⟨location, _ | content⟩
      · have names : machine.disk.directoryNames directory =
            .ok (machine.disk.childNames location) :=
          Disk.directoryNames_eq_ok.mpr ⟨location, found, rfl⟩
        have registered := run_registerFiles directory
          (presetFileNames (machine.disk.childNames location))
          (Registry.builtin.run machine.ids).1
          { machine with ids := (Registry.builtin.run machine.ids).2 }
        rw [StateT.run] at registered
        rw [if_pos rfl, Task.runOn_bind, Task.runOn_atPath, listed, names]
        dsimp only
        rw [Task.runOn_lift, registered]
      · have names : machine.disk.directoryNames directory = .error .notDirectory := by
          rw [Disk.directoryNames, found]
          rfl
        rw [if_pos rfl, Task.runOn_bind, Task.runOn_atPath, listed, names]

theorem runOn_loadRegistry_of_missing {directory : RawText} {machine : Machine}
    (missing : machine.disk.pathExists directory = false) :
    (loadRegistry directory).runOn machine =
      (.ok (Registry.builtin.run machine.ids).1,
        { machine with ids := (Registry.builtin.run machine.ids).2 }) := by
  rw [runOn_loadRegistry]
  rw [Disk.pathExists] at missing
  cases found : machine.disk.find directory with
  | ok there => simp [found] at missing
  | error fault =>
      have names : machine.disk.directoryNames directory = .error fault := by
        rw [Disk.directoryNames, found]
        rfl
      rw [Disk.presetsIn, names]
      rfl

theorem loaded_eq {directory : RawText} {machine after : Machine} {registry : Registry}
    (loaded : (loadRegistry directory).runOn machine = (.ok registry, after)) :
    registry = (machine.disk.presetsIn directory).foldl Registry.register
        (Registry.builtin.run machine.ids).1 ∧
      after = { machine with ids := (Registry.builtin.run machine.ids).2 } := by
  rw [runOn_loadRegistry] at loaded
  split at loaded
  · cases loaded
  · cases loaded
    exact ⟨rfl, rfl⟩

end Files

end Bulletin
