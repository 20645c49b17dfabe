import Bulletin.Proofs.Preset.History
import Mathlib.Data.List.Dedup
import Mathlib.Data.String.Basic
/-!
# Directories of presets

The files of a directory that hold presets, in the order of their paths, say all that a registry
takes from it. Whatever else stands there, and in what order a directory is listed, is no matter.
-/

namespace Bulletin

/-! ## Paths -/

namespace RawText

theorem bytes_injective : Function.Injective bytes := by
  rintro ⟨first⟩ ⟨second⟩ same
  exact congrArg mk same

instance : LinearOrder RawText where
  le_refl raw := List.le_refl raw.bytes
  le_trans _ _ _ := List.le_trans
  le_antisymm _ _ le ge := bytes_injective (List.le_antisymm le ge)
  le_total raw other := List.le_total raw.bytes other.bytes
  lt_iff_le_not_ge _ _ := Std.lt_iff_le_and_not_ge (α := List UInt8)
  toDecidableLE := inferInstance

end RawText

namespace Path

theorem exists_join (directory : RawText) :
    ∃ way, ∀ name, join directory name = ⟨way ++ name.bytes⟩ := by
  cases last : directory.bytes.getLast? with
  | none => exact ⟨[], fun name => by rw [join, last]; rfl⟩
  | some byte =>
      by_cases isSlash : byte = slash
      · exact ⟨directory.bytes, fun name => by rw [join, last]; exact if_pos isSlash⟩
      · refine ⟨directory.bytes ++ [slash], fun name => ?_⟩
        rw [join, last, List.append_assoc]
        exact if_neg isSlash

theorem join_injective {directory name other : RawText}
    (same : join directory name = join directory other) : name = other := by
  rcases exists_join directory with ⟨way, joined⟩
  rw [joined, joined, RawText.mk.injEq] at same
  exact RawText.bytes_injective (List.append_cancel_left same)

theorem join_lt_join {directory name other : RawText} (less : name < other) :
    join directory name < join directory other := by
  rcases exists_join directory with ⟨way, joined⟩
  rw [joined, joined]
  exact List.append_left_lt less

theorem extension?_eq_some {name extension : RawText} :
    extension? name = some extension ↔
      point ∉ extension.bytes ∧
        ∃ stem, stem ≠ [] ∧ name.bytes = stem ++ point :: extension.bytes := by
  rw [extension?]
  constructor
  · intro found
    have split := List.takeWhile_append_dropWhile (p := (· ≠ point)) (l := name.bytes.reverse)
    have first := List.head?_dropWhile_not (· ≠ point) name.bytes.reverse
    have noPoint := List.all_takeWhile (p := (· ≠ point)) (l := name.bytes.reverse)
    generalize name.bytes.reverse.takeWhile (· ≠ point) = ending at *
    generalize name.bytes.reverse.dropWhile (· ≠ point) = behind at *
    match behind, found with
    | byte :: last :: before, found =>
        cases found
        obtain rfl : byte = point := by simpa using first
        refine ⟨?_, (last :: before).reverse, by simp, ?_⟩
        · intro member
          simpa using List.all_eq_true.mp noPoint _ (List.mem_reverse.mp member)
        · rw [← List.reverse_reverse name.bytes, ← split]
          simp
  · rintro ⟨noPoint, stem, nonempty, split⟩
    have passes : ∀ byte ∈ extension.bytes.reverse, decide (byte ≠ point) = true := by
      intro byte member
      exact decide_eq_true fun same => noPoint (same ▸ List.mem_reverse.mp member)
    have reversed : name.bytes.reverse = extension.bytes.reverse ++ point :: stem.reverse := by
      simp [split]
    rw [reversed, List.takeWhile_append_of_pos passes, List.dropWhile_append_of_pos passes]
    rcases List.exists_cons_of_ne_nil (List.reverse_ne_nil_iff.mpr nonempty) with
      ⟨last, before, isStem⟩
    simp [isStem]

/-- Something, and the ending `.json` behind it. -/
def IsJsonName (name : RawText) : Prop :=
  ∃ stem, stem ≠ [] ∧ name.bytes = stem ++ Text.bytes ".json"

theorem extension?_eq_json {name : RawText} :
    extension? name = some (.ofText presetExtension) ↔ IsJsonName name := by
  rw [extension?_eq_some]
  exact and_iff_right (by decide +kernel)

instance (name : RawText) : Decidable (IsJsonName name) :=
  decidable_of_iff _ extension?_eq_json

end Path

/-! ## Files of presets -/

namespace Disk

/-- An entry of the directory with the ending `.json` can be read and holds the preset. -/
def HoldsPreset (disk : Disk) (directory path : RawText) (preset : Preset) : Prop :=
  ∃ names name, disk.directoryNames directory = .ok names ∧ name ∈ names ∧
    path = Path.join directory name ∧ Path.IsJsonName name ∧ disk.presetAt? path = some preset

/-- Every file of the directory that holds a preset, in ascending order of the paths. -/
structure ListsPresets (disk : Disk) (directory : RawText) (files : List (RawText × Preset)) :
    Prop where
  ascending : files.Pairwise fun file later => file.1 < later.1
  mem (path : RawText) (preset : Preset) :
    (path, preset) ∈ files ↔ disk.HoldsPreset directory path preset

theorem ListsPresets.unique {disk other : Disk} {directory : RawText}
    {files otherFiles : List (RawText × Preset)} (lists : disk.ListsPresets directory files)
    (otherLists : other.ListsPresets directory otherFiles)
    (same : ∀ path preset,
      other.HoldsPreset directory path preset ↔ disk.HoldsPreset directory path preset) :
    otherFiles = files := by
  have sameFile (file : RawText × Preset) : file ∈ otherFiles ↔ file ∈ files := by
    rw [otherLists.mem, lists.mem, same]
  have perm : otherFiles.Perm files :=
    (List.perm_ext_iff_of_nodup (otherLists.ascending.imp fun less => ne_of_apply_ne _ less.ne)
      (lists.ascending.imp fun less => ne_of_apply_ne _ less.ne)).mpr sameFile
  exact perm.eq_of_pairwise (fun file later _ _ less greater => absurd less greater.asymm)
    otherLists.ascending lists.ascending

def presetFile? (disk : Disk) (directory name : RawText) : Option (RawText × Preset) :=
  (disk.presetAt? (Path.join directory name)).map (Path.join directory name, ·)

def presetFilesAmong (disk : Disk) (directory : RawText) (names : List RawText) :
    List (RawText × Preset) :=
  (names.filter fun name => Path.extension? name = some (.ofText presetExtension)).filterMap
    (disk.presetFile? directory)

theorem holdsPreset_iff {disk : Disk} {directory : RawText} {names : List RawText}
    (listed : disk.directoryNames directory = .ok names) (path : RawText) (preset : Preset) :
    disk.HoldsPreset directory path preset ↔
      (path, preset) ∈ disk.presetFilesAmong directory names := by
  simp only [presetFilesAmong, List.mem_filterMap, List.mem_filter, decide_eq_true_eq,
    presetFile?, Option.map_eq_some_iff, Prod.mk.injEq, Path.extension?_eq_json]
  constructor
  · rintro ⟨_, name, found, isName, rfl, isJson, holds⟩
    rw [listed] at found
    cases found
    exact ⟨name, ⟨isName, isJson⟩, preset, holds, rfl, rfl⟩
  · rintro ⟨name, ⟨isName, isJson⟩, _, holds, rfl, rfl⟩
    exact ⟨names, name, listed, isName, rfl, isJson, holds⟩

/-- The files of a directory that hold presets, where names that are listed twice count once. -/
def presetFiles (disk : Disk) (directory : RawText) : List (RawText × Preset) :=
  match disk.directoryNames directory with
  | .ok names => (Files.presetFileNames names).dedup.filterMap (disk.presetFile? directory)
  | .error _ => []

theorem pairwise_presetFileNames (names : List RawText) :
    (Files.presetFileNames names).Pairwise (· ≤ ·) := by
  have sorted := @List.pairwise_mergeSort RawText (fun a b => a ≤ b)
    (fun a b c => by simpa using le_trans) (fun a b => by simpa using le_total a b)
    (names.filter fun name => Path.extension? name = some (.ofText presetExtension))
  exact sorted.imp of_decide_eq_true

theorem listsPresets_presetFiles (disk : Disk) (directory : RawText) :
    disk.ListsPresets directory (disk.presetFiles directory) := by
  rw [presetFiles]
  cases listed : disk.directoryNames directory with
  | error fault =>
      refine ⟨.nil, fun path preset => ⟨nofun, ?_⟩⟩
      rintro ⟨names, name, found, -⟩
      rw [listed] at found
      cases found
  | ok names =>
      have sorted := (pairwise_presetFileNames names).sublist (List.dedup_sublist _)
      have ascending := sorted.and (List.nodup_dedup (Files.presetFileNames names))
      constructor
      · refine ascending.filterMap _ ?_
        rintro name later ⟨le, different⟩ file isFile laterFile isLater
        rcases Option.map_eq_some_iff.mp isFile with ⟨preset, -, rfl⟩
        rcases Option.map_eq_some_iff.mp isLater with ⟨other, -, rfl⟩
        exact Path.join_lt_join (le.lt_of_ne different)
      · intro path preset
        rw [holdsPreset_iff listed, presetFilesAmong]
        simp only [List.mem_filterMap, List.mem_dedup, Files.presetFileNames, List.mem_mergeSort]

end Disk

/-! ## Registering -/

section Entries

variable {idOf : α → String} {item : α}

theorem replaceOrAppend_replaceOrAppend (entries : List α) :
    replaceOrAppend idOf item (replaceOrAppend idOf item entries) =
      replaceOrAppend idOf item entries := by
  induction entries with
  | nil => exact if_pos rfl
  | cons head tail induction =>
      rw [replaceOrAppend]
      split
      case isTrue => exact if_pos rfl
      case isFalse different => rw [replaceOrAppend, if_neg different, induction]

theorem find?_of_last {start before behind : List α} (distinct : (start.map idOf).Nodup)
    (last : ∀ other ∈ behind, idOf other ≠ idOf item) :
    (((before ++ item :: behind).foldl (fun entries item => replaceOrAppend idOf item entries)
      start).find? fun other => idOf other = idOf item) = some item := by
  have nothing : (behind.reverse.find? fun other => idOf other = idOf item) = none := by
    rw [List.find?_eq_none]
    intro other isBehind
    simpa using last other (List.mem_reverse.mp isBehind)
  rw [(isRegistered_foldl distinct _).latest, List.reverse_append, List.reverse_cons,
    List.append_assoc, List.find?_append, nothing]
  simp

/-- Of the files of one kind of presets that have one id, the one with the greatest path counts. -/
def GreatestPathWins (wrap : α → Preset) (idOf : α → String) (get? : String → Option α)
    (files : List (RawText × Preset)) : Prop :=
  ∀ path item, (path, wrap item) ∈ files →
    (∀ later other, (later, wrap other) ∈ files → idOf other = idOf item → later ≤ path) →
      get? (idOf item) = some item

theorem greatestPathWins_foldl {wrap : α → Preset} {kind? : Preset → Option α}
    (isKind_iff : ∀ preset item, kind? preset = some item ↔ preset = wrap item) {start : List α}
    (distinct : (start.map idOf).Nodup) {files : List (RawText × Preset)}
    (ascending : files.Pairwise fun file later => file.1 < later.1) :
    GreatestPathWins wrap idOf (fun id =>
      (((files.map Prod.snd).filterMap kind?).foldl
        (fun entries item => replaceOrAppend idOf item entries) start).find?
          fun other => idOf other = id) files := by
  intro path item isFile greatest
  rcases List.append_of_mem isFile with ⟨before, behind, rfl⟩
  dsimp only
  rw [List.map_append, List.filterMap_append, List.map_cons, List.filterMap_cons,
    (isKind_iff _ _).mpr rfl]
  apply find?_of_last distinct
  intro found isFound same
  rcases List.mem_filterMap.mp isFound with ⟨other, isOther, isKind⟩
  rcases List.mem_map.mp isOther with ⟨⟨later, preset⟩, isBehind, rfl⟩
  have less := (List.pairwise_cons.mp (List.pairwise_append.mp ascending).2.1).1 _ isBehind
  have isLater := List.mem_append_right before (List.mem_cons_of_mem (path, wrap item) isBehind)
  rw [(isKind_iff preset found).mp isKind] at isLater
  exact absurd (greatest later found isLater same) (not_le.mpr less)

end Entries

theorem Preset.theme?_eq_some (preset : Preset) (item : ThemePreset) :
    preset.theme? = some item ↔ preset = .theme item := by
  cases preset <;> simp [theme?]

theorem Preset.widget?_eq_some (preset : Preset) (item : WidgetPreset) :
    preset.widget? = some item ↔ preset = .widget item := by
  cases preset <;> simp [widget?]

namespace Registry

theorem register_register (registry : Registry) (preset : Preset) :
    (registry.register preset).register preset = registry.register preset := by
  cases preset with
  | theme preset =>
      rw [register, register, registerTheme, registerTheme, replaceOrAppend_replaceOrAppend]
  | widget preset =>
      rw [register, register, registerWidget, registerWidget, replaceOrAppend_replaceOrAppend]

theorem foldl_register_dedup (preset? : RawText → Option Preset) {names : List RawText}
    (sorted : names.Pairwise (· ≤ ·)) (start : Registry) :
    (names.filterMap preset?).foldl register start =
      (names.dedup.filterMap preset?).foldl register start := by
  induction names generalizing start with
  | nil => rfl
  | cons name names induction =>
      rcases List.pairwise_cons.mp sorted with ⟨least, rest⟩
      by_cases again : name ∈ names
      · rw [List.dedup_cons_of_mem again, ← induction rest]
        -- Among names in order, one that comes again comes next.
        cases names with
        | nil => cases again
        | cons next names =>
            have isNext : next = name := by
              rcases List.mem_cons.mp again with same | later
              · exact same.symm
              · exact le_antisymm ((List.pairwise_cons.mp rest).1 name later)
                  (least next List.mem_cons_self)
            subst isNext
            rw [List.filterMap_cons, List.filterMap_cons]
            cases preset? next with
            | none => rfl
            | some preset => rw [List.foldl_cons, List.foldl_cons, register_register]; rfl
      · rw [List.dedup_cons_of_notMem again, List.filterMap_cons, List.filterMap_cons]
        cases preset? name with
        | none => exact induction rest start
        | some preset => exact induction rest (start.register preset)

theorem foldl_register_presetFiles (disk : Disk) (directory : RawText) (start : Registry) :
    (disk.presetsIn directory).foldl register start =
      ((disk.presetFiles directory).map Prod.snd).foldl register start := by
  rw [Disk.presetsIn, Disk.presetFiles]
  cases disk.directoryNames directory with
  | error fault => rfl
  | ok names =>
      have presets : Option.map Prod.snd ∘ disk.presetFile? directory = fun name =>
          disk.presetAt? (Path.join directory name) := by
        funext name
        rw [Function.comp, Disk.presetFile?, Option.map_map]
        exact Option.map_id'
      dsimp only
      rw [List.map_filterMap, foldl_register_dedup _ (Disk.pairwise_presetFileNames names)]
      exact congrArg (fun preset? => List.foldl register start (List.filterMap preset? _))
        presets.symm

end Registry

/-! ## Registries but for ids -/

/-- The same preset, or the same built-in one with other ids in it. -/
inductive WidgetPreset.Alike : WidgetPreset → WidgetPreset → Prop where
  | same (preset : WidgetPreset) : Alike preset preset
  | builtin {stem : WidgetPreset} (isStem : stem ∈ widgetPresetStems) (supply other : IdSupply) :
      Alike { stem with body := (stem.body.rekey.run supply).1 }
        { stem with body := (stem.body.rekey.run other).1 }

theorem WidgetPreset.Alike.id_eq {preset other : WidgetPreset} (alike : preset.Alike other) :
    preset.id = other.id := by
  cases alike with
  | same => rfl
  | builtin => rfl

theorem forall₂_replaceOrAppend {presets others : List WidgetPreset}
    (alike : List.Forall₂ WidgetPreset.Alike presets others) (item : WidgetPreset) :
    List.Forall₂ WidgetPreset.Alike (replaceOrAppend WidgetPreset.id item presets)
      (replaceOrAppend WidgetPreset.id item others) := by
  induction alike with
  | nil => exact .cons (.same item) .nil
  | @cons preset other presets others first rest induction =>
      rw [replaceOrAppend, replaceOrAppend, first.id_eq]
      split
      · exact .cons (.same item) rest
      · exact .cons first induction

theorem forall₂_rekeyPresets {stems : List WidgetPreset}
    (areStems : ∀ stem ∈ stems, stem ∈ widgetPresetStems) (supply other : IdSupply) :
    List.Forall₂ WidgetPreset.Alike ((rekeyPresets stems).run supply).1
      ((rekeyPresets stems).run other).1 := by
  induction stems generalizing supply other with
  | nil => exact .nil
  | cons stem stems induction =>
      rcases List.forall_mem_cons.mp areStems with ⟨first, rest⟩
      exact .cons (.builtin first supply other) (induction rest _ _)

namespace Registry

structure Alike (registry other : Registry) : Prop where
  themes : registry.themes = other.themes
  widgets : List.Forall₂ WidgetPreset.Alike registry.widgets other.widgets

theorem alike_builtin (supply other : IdSupply) :
    (builtin.run supply).1.Alike (builtin.run other).1 :=
  ⟨rfl, forall₂_rekeyPresets (fun _ isStem => isStem) supply other⟩

theorem Alike.register {registry other : Registry} (alike : registry.Alike other)
    (preset : Preset) : (registry.register preset).Alike (other.register preset) := by
  cases preset with
  | theme preset =>
      exact ⟨congrArg (replaceOrAppend ThemePreset.id preset) alike.themes, alike.widgets⟩
  | widget preset => exact ⟨alike.themes, forall₂_replaceOrAppend alike.widgets preset⟩

theorem Alike.foldl_register {registry other : Registry} (alike : registry.Alike other)
    (presets : List Preset) :
    (presets.foldl Registry.register registry).Alike (presets.foldl Registry.register other) := by
  induction presets generalizing registry other with
  | nil => exact alike
  | cons preset presets induction => exact induction (alike.register preset)

/-! ## Directories -/

/-- The registry is what is loaded from a directory: the built-in presets, and after them those in
the files, registered in the order of the paths. -/
structure IsLoadedFrom (registry : Registry) (machine : Machine) (directory : RawText)
    (files : List (RawText × Preset)) : Prop where
  lists : machine.disk.ListsPresets directory files
  registered : registry =
    (files.map Prod.snd).foldl register (builtin.run machine.ids).1
  run : (Files.loadRegistry directory).runOn machine =
    (.ok registry, { machine with ids := (builtin.run machine.ids).2 })
  themes : GreatestPathWins .theme ThemePreset.id registry.theme? files
  widgets : GreatestPathWins .widget WidgetPreset.id registry.widget? files

end Registry

def Disk.IsDirectoryOrMissing (disk : Disk) (path : RawText) : Prop :=
  disk.pathExists path = true → disk.isDirectory path = true

instance (disk : Disk) (path : RawText) : Decidable (disk.IsDirectoryOrMissing path) :=
  inferInstanceAs (Decidable (_ → _))

theorem Disk.IsDirectoryOrMissing.find {disk : Disk} {path : RawText}
    (noFile : disk.IsDirectoryOrMissing path) :
    (∃ fault, disk.find path = .error fault) ∨
      ∃ location, disk.find path = .ok (location, .directory) := by
  cases found : disk.find path with
  | error fault => exact .inl ⟨fault, rfl⟩
  | ok there =>
      apply Or.inr
      rw [← found]
      exact isDirectory_iff.mp (noFile (pathExists_iff.mpr ⟨there, found⟩))

theorem Disk.presetFiles_of_missing {disk : Disk} {directory : RawText}
    (missing : disk.pathExists directory = false) : disk.presetFiles directory = [] := by
  rw [presetFiles]
  cases listed : disk.directoryNames directory with
  | error fault => rfl
  | ok names =>
      rcases directoryNames_eq_ok.mp listed with ⟨location, found, -⟩
      have there : disk.pathExists directory = true := pathExists_iff.mpr ⟨_, found⟩
      rw [missing] at there
      cases there

/-- A directory holds no preset, whatever its name, and neither does a file that is named by the
extension alone. -/
theorem Disk.HoldsPreset.isFile {disk : Disk} {directory path : RawText} {preset : Preset}
    (holds : disk.HoldsPreset directory path preset) :
    path ≠ Path.join directory ".json" ∧ disk.isDirectory path = false := by
  rcases holds with ⟨names, name, -, -, rfl, isJson, held⟩
  constructor
  · intro same
    rw [Path.join_injective same] at isJson
    exact absurd isJson (by decide +kernel)
  · rw [← Bool.not_eq_true, isDirectory_iff]
    rintro ⟨location, found⟩
    rw [presetAt?, readText, found] at held
    cases held

namespace Registry

section Loading

variable {machine : Machine} {directory : RawText}
  (noFile : machine.disk.IsDirectoryOrMissing directory)

include noFile

theorem isLoadedFrom_foldl {files : List (RawText × Preset)}
    (lists : machine.disk.ListsPresets directory files) :
    ((files.map Prod.snd).foldl register (builtin.run machine.ids).1).IsLoadedFrom machine
      directory files := by
  have same := lists.unique (machine.disk.listsPresets_presetFiles directory) fun _ _ => .rfl
  rcases (History.builtin machine.ids).start with ⟨-, themes, widgets⟩
  refine ⟨lists, rfl, ?_, ?_, ?_⟩
  · rw [Files.runOn_loadRegistry, foldl_register_presetFiles, same]
    rcases noFile.find with ⟨fault, found⟩ | ⟨location, found⟩
    · rw [found]
    · rw [found]
  · rw [foldl_register]
    exact greatestPathWins_foldl Preset.theme?_eq_some themes lists.ascending
  · rw [foldl_register]
    exact greatestPathWins_foldl Preset.widget?_eq_some widgets lists.ascending

/-- A directory adds to the built-in presets those of its files, in the order of their paths. What
else stands in it, and in which order its entries are listed, makes no difference but for the ids in
built-in presets. -/
theorem made_of_presets_alone :
    ∃ files registry, IsLoadedFrom registry machine directory files ∧
      (machine.disk.pathExists directory = false →
        registry = (builtin.run machine.ids).1) ∧
      (∀ path preset, machine.disk.HoldsPreset directory path preset →
        path ≠ Path.join directory ".json" ∧ machine.disk.isDirectory path = false) ∧
      ∀ other : Machine, other.disk.IsDirectoryOrMissing directory →
        (∀ path preset, other.disk.HoldsPreset directory path preset ↔
          machine.disk.HoldsPreset directory path preset) →
        ∃ otherRegistry, IsLoadedFrom otherRegistry other directory files ∧
          registry.Alike otherRegistry ∧
          (other.ids = machine.ids → otherRegistry = registry) := by
  have lists := machine.disk.listsPresets_presetFiles directory
  refine ⟨_, _, isLoadedFrom_foldl noFile lists, ?_, fun _ _ holds => holds.isFile, ?_⟩
  · intro missing
    rw [Disk.presetFiles_of_missing missing]
    rfl
  · intro other otherNoFile same
    have otherLists : other.disk.ListsPresets directory (machine.disk.presetFiles directory) :=
      ⟨lists.ascending, fun path preset => by rw [lists.mem, same]⟩
    refine ⟨_, isLoadedFrom_foldl otherNoFile otherLists,
      (alike_builtin machine.ids other.ids).foldl_register _, ?_⟩
    intro sameIds
    rw [sameIds]

end Loading

def dayText : String :=
  "\x7b\"id\":\"night\",\"name\":\"Day\",\"description\":\"\",\"theme\":\x7b\x7d\x7d"

def dayPreset : ThemePreset :=
  ⟨"night", "Day", "", .default⟩

def machineOf (seed : String) (entries : List (String × Entry)) : Machine where
  disk :=
    ⟨(["templates"], .directory) ::
      entries.map fun entry => (["templates", entry.1], entry.2)⟩
  ids := .ofSeed seed
  now := .midnight .epoch

def twinMachine : Machine :=
  machineOf "" [("night.json", .file (.text nightText)), ("day.json", .file (.text dayText))]

def crowdedMachine : Machine :=
  machineOf "other"
    [("broken.json", .file (.text "[")), ("day.json", .file (.text dayText)),
      (".json", .file (.text dayText)), ("x.json", .directory),
      ("notes.txt", .file (.text dayText)), ("night.json", .file (.text nightText)),
      ("z.json", .file .unreadable)]

theorem made_of_presets_alone_twins :
    let files : List (RawText × Preset) := [("templates/day.json", .theme dayPreset),
      ("templates/night.json", .theme nightPreset)]
    ∃ registry otherRegistry,
      IsLoadedFrom registry twinMachine "templates" files ∧
      IsLoadedFrom otherRegistry crowdedMachine "templates" files ∧
      registry.Alike otherRegistry ∧ registry.theme? "night" = some nightPreset := by
  intro files
  have twins : twinMachine.disk.presetFilesAmong "templates" ["night.json", "day.json"] =
      files.reverse := by
    decide +kernel
  have crowded : crowdedMachine.disk.presetFilesAmong "templates"
      ["broken.json", "day.json", ".json", "x.json", "notes.txt", "night.json", "z.json"] =
      files := by
    decide +kernel
  have listed : twinMachine.disk.directoryNames "templates" = .ok ["night.json", "day.json"] := by
    decide +kernel
  have otherListed : crowdedMachine.disk.directoryNames "templates" =
      .ok ["broken.json", "day.json", ".json", "x.json", "notes.txt", "night.json", "z.json"] := by
    decide +kernel
  have holds (path : RawText) (preset : Preset) :
      twinMachine.disk.HoldsPreset "templates" path preset ↔ (path, preset) ∈ files := by
    rw [Disk.holdsPreset_iff listed, twins, List.mem_reverse]
  have otherHolds (path : RawText) (preset : Preset) :
      crowdedMachine.disk.HoldsPreset "templates" path preset ↔ (path, preset) ∈ files := by
    rw [Disk.holdsPreset_iff otherListed, crowded]
  have noFile : twinMachine.disk.IsDirectoryOrMissing "templates" := by decide +kernel
  have otherNoFile : crowdedMachine.disk.IsDirectoryOrMissing "templates" := by decide +kernel
  have lists : twinMachine.disk.ListsPresets "templates" files :=
    ⟨by decide, fun path preset => (holds path preset).symm⟩
  rcases made_of_presets_alone noFile with ⟨found, registry, loaded, -, -, others⟩
  rcases others crowdedMachine otherNoFile (fun path preset => by rw [holds, otherHolds]) with
    ⟨otherRegistry, otherLoaded, alike, -⟩
  have same : found = files := lists.unique loaded.lists fun _ _ => .rfl
  rw [same] at loaded otherLoaded
  have isFile : (.ofText "templates/night.json", Preset.theme nightPreset) ∈ files := by decide
  have last := loaded.themes _ _ isFile fun later other isLater _ => by
    have isPath :
        later = .ofText "templates/day.json" ∨ later = .ofText "templates/night.json" := by
      simp only [files, List.mem_cons, List.not_mem_nil, Prod.mk.injEq] at isLater
      tauto
    rcases isPath with rfl | rfl
    · decide
    · exact le_rfl
  exact ⟨registry, otherRegistry, loaded, otherLoaded, alike, last⟩

end Registry

end Bulletin
