import Bulletin.Command.Run
import Bulletin.Proofs.Storage.Effects
/-!
# What commands do to files

Every command reads first and writes last, and writes once at most. So a command that fails leaves
every file as it is, and one that does not has changed the file that it is for alone. What comes
behind the write is the answer: a command whose answer is to tell a path that is no text crashes
there, with the file written.
-/

namespace Bulletin

namespace LibraryAction

/-- The path that a library action is to write to, if it is to write at all. -/
def target? (path : RawText) : LibraryAction → Option RawText
  | .list => none
  | .save .. => some path
  | .load _ output => some output
  | .delete _ => some path
  | .exportTo output => some output
  | .importFrom _ => some path

/-- The answer tells the path of the file that was written. -/
def TellsPath : LibraryAction → Prop
  | .load .. => True
  | .exportTo _ => True
  | _ => False

end LibraryAction

namespace Command

def target? (disk : Disk) : Command → Option RawText
  | .new output _ => some output
  | .compile _ output _ =>
      some (if disk.isDirectory output then Path.join output "announcement.html" else output)
  | .check _ => none
  | .themes => none
  | .widgets => none
  | .applyTheme input _ output => some (output.getD input)
  | .addWidget input _ _ => some input
  | .library path action => action.target? path

def TellsPath : Command → Prop
  | .new .. => True
  | .compile .. => True
  | .applyTheme .. => True
  | .library _ action => action.TellsPath
  | _ => False

end Command

theorem ExitCode.value_eq_zero_iff (code : ExitCode) : code.value = 0 ↔ code = .success := by
  cases code <;> decide

theorem ExitCode.value_eq_crashed_iff (code : ExitCode) : code.value = 101 ↔ code = .crashed := by
  cases code <;> decide

theorem ExitCode.ne_failure {code : ExitCode} (ends : code.value = 0 ∨ code.value = 101) :
    code ≠ .failure := by
  rintro rfl
  simp [value] at ends

theorem ExitCode.value_eq_told_iff (code : ExitCode) (path : RawText) :
    (code.value = if path.text? = none then 101 else 0) ↔
      code = if path.text? = none then .crashed else .success := by
  split
  · exact code.value_eq_crashed_iff
  · exact code.value_eq_zero_iff

namespace Outcome

/-- How a command ends that has written no file: where its answer is to tell a path, with no
success. -/
def EndsWithoutWrite (tellsPath : Prop) (outcome : Outcome) : Prop :=
  outcome.code ≠ .crashed ∧ (tellsPath → outcome.code ≠ .success)

def EndsAfterWrite (tellsPath : Prop) (path : RawText) (outcome : Outcome) : Prop :=
  (outcome.code = .success ∧ (tellsPath → path.text? ≠ none)) ∨
    (outcome.code = .crashed ∧ tellsPath ∧ path.text? = none)

theorem code_wrote (path : RawText) (details : List (String × Json)) :
    (wrote path details).code = if path.text? = none then .crashed else .success := by
  rw [wrote]
  cases path.text? <;> rfl

theorem endsAfterWrite_success (path : RawText) (details : List (String × Json)) :
    (success details).EndsAfterWrite False path :=
  .inl ⟨rfl, nofun⟩

theorem endsAfterWrite_wrote (path : RawText) (details : List (String × Json)) :
    (wrote path details).EndsAfterWrite True path := by
  rw [EndsAfterWrite, code_wrote]
  split
  · rename_i noText
    exact .inr ⟨rfl, trivial, noText⟩
  · rename_i isText
    exact .inl ⟨rfl, fun _ => isText⟩

section EndsAfterWrite

variable {outcome : Outcome} {tellsPath : Prop} {path : RawText}
  (ends : outcome.EndsAfterWrite tellsPath path)

include ends

theorem EndsAfterWrite.success_or_crashed : outcome.code = .success ∨ outcome.code = .crashed :=
  ends.imp And.left And.left

theorem EndsAfterWrite.tells_of_crashed (crashed : outcome.code = .crashed) :
    tellsPath ∧ path.text? = none := by
  rcases ends with ⟨success, -⟩ | ⟨-, tells⟩
  · rw [success] at crashed
    cases crashed
  · exact tells

theorem EndsAfterWrite.text_of_success (success : outcome.code = .success) (tells : tellsPath) :
    path.text? ≠ none := by
  rcases ends with ⟨-, isText⟩ | ⟨crashed, -⟩
  · exact isText tells
  · rw [crashed] at success
    cases success

end EndsAfterWrite

end Outcome

variable {m : Type → Type} [Host m] {σ : Type} {running : Host.Running m σ} {disk : σ → Disk}
  (onDisk : running.OnDisk disk) (before : Disk)

/-- From a disk, a task leaves every file as it is or writes to a path, and ends accordingly. -/
abbrev Host.Running.Commits (running : Host.Running m σ) (disk : σ → Disk) (before : Disk)
    (path? : Option RawText) (tellsPath : Prop) (task : Task m Outcome) : Prop :=
  running.Writes disk before path? (Outcome.EndsWithoutWrite tellsPath)
    (fun path outcome => outcome.EndsAfterWrite tellsPath path) task

open Host.Running

include onDisk

theorem Host.Running.OnDisk.commits_success (path : RawText) (text : String)
    (details : List (String × Json)) :
    running.Commits disk before (some path) False
      (do Task.writeText path text; return .success details : Task m Outcome) :=
  (onDisk.writes_writeText path text).then_pure fun written _ _ =>
    Outcome.endsAfterWrite_success written details

theorem Host.Running.OnDisk.commits_wrote (path : RawText) (text : String)
    (details : List (String × Json)) :
    running.Commits disk before (some path) True
      (do Task.writeText path text; return .wrote path details : Task m Outcome) := by
  apply (onDisk.writes_writeText path text).then_pure
  rintro _ _ rfl
  exact Outcome.endsAfterWrite_wrote _ details

theorem LibraryAction.commits_run (path : RawText) (library : Library) (action : LibraryAction) :
    running.Commits disk before (action.target? path) action.TellsPath
      (action.run path library : Task m Outcome) := by
  cases action with
  | list => exact (keeps_task_pure _).writes (gives_pure ⟨nofun, nofun⟩)
  | save input name description =>
      apply (onDisk.keeps_loadDocument input).writes_bind
      intro document
      apply onDisk.now.lift.writes_bind
      intro now
      apply (onDisk.keeps_draw _).writes_bind
      rintro ⟨saved, library⟩
      exact onDisk.commits_success before path _ _
  | load id output =>
      apply (keeps_liftExcept _).writes_bind
      intro document
      exact onDisk.commits_wrote before output _ _
  | delete id =>
      rw [run]
      dsimp only
      split
      · exact (onDisk.writes_writeText path _).then_pure fun written _ _ => .inl ⟨rfl, nofun⟩
      · exact (keeps_task_pure _).writes (gives_pure ⟨nofun, nofun⟩)
  | exportTo output => exact onDisk.commits_wrote before output _ _
  | importFrom input =>
      apply (onDisk.keeps_readText input).writes_bind
      intro text
      apply onDisk.now.lift.writes_bind
      intro now
      apply (onDisk.keeps_draw _).writes_bind
      rintro ⟨count, library⟩
      exact onDisk.commits_success before path _ _

namespace Command

theorem commits_runNew (output : RawText) (force : Bool) :
    running.Commits disk before (some output) True (runNew output force : Task m Outcome) := by
  have saves : running.Commits disk before (some output) True
      (do Files.saveDocument output .starter; return .wrote output [] : Task m Outcome) :=
    onDisk.commits_wrote before output _ _
  apply (onDisk.pathExists output).lift.writes_bind
  intro present
  dsimp only
  split
  · exact Keeps.writes_bind (keeps_throw _) fun _ => saves
  · exact saves

theorem commits_writePage (output : RawText) (html : String) (details : List (String × Json)) :
    running.Commits disk before
      (some (if before.isDirectory output then Path.join output "announcement.html" else output))
      True
      (do let written ← Files.writePage output html; return .wrote written details
        : Task m Outcome) := by
  apply (onDisk.writes_writePage output html).then_pure
  rintro _ written rfl
  exact Outcome.endsAfterWrite_wrote _ details

theorem commits_runCompile (input output : RawText) (strict : Bool) :
    running.Commits disk before ((compile input output strict).target? before) True
      (runCompile input output strict : Task m Outcome) := by
  apply (onDisk.keeps_loadDocument input).writes_bind
  intro document
  cases strict with
  | true =>
      cases document.compile with
      | ok compiled => exact commits_writePage onDisk before output _ _
      | error failure => exact (keeps_task_pure _).writes (gives_pure ⟨nofun, nofun⟩)
  | false => exact commits_writePage onDisk before output _ _

theorem commits_run (registry : Registry) (command : Command) :
    running.Commits disk before (command.target? before) command.TellsPath
      (command.run registry : Task m Outcome) := by
  cases command with
  | new output force => exact commits_runNew onDisk before output force
  | compile input output strict => exact commits_runCompile onDisk before input output strict
  | check input =>
      apply ((onDisk.keeps_loadDocument input).task_bind fun _ => keeps_task_pure _).writes
      apply gives_bind
      intro document
      apply gives_pure
      constructor
      · cases document.check.valid <;> nofun
      · nofun
  | themes => exact (keeps_task_pure _).writes (gives_pure ⟨nofun, nofun⟩)
  | widgets => exact (keeps_task_pure _).writes (gives_pure ⟨nofun, nofun⟩)
  | applyTheme input themeId output =>
      apply (onDisk.keeps_loadDocument input).writes_bind
      intro document
      apply (keeps_liftExcept _).writes_bind
      intro themed
      exact onDisk.commits_wrote before _ _ _
  | addWidget input sectionId presetId =>
      apply (onDisk.keeps_loadDocument input).writes_bind
      intro document
      apply (onDisk.keeps_draw _).writes_bind
      intro widget
      cases document.section? sectionId with
      | some part => exact onDisk.commits_success before input _ _
      | none => exact (keeps_throw _).writes (gives_throw _)
  | library path action =>
      apply (onDisk.keeps_loadLibrary path).writes_bind
      intro library
      exact action.commits_run onDisk before path library

end Command

namespace Invocation

def task (invocation : Invocation) : Task m Outcome := do
  invocation.command.run (← Files.loadRegistry invocation.presetDirectory)

omit onDisk in
theorem run_eq (invocation : Invocation) (state : σ) :
    running.run (invocation.run : m Outcome) state =
      match running.run invocation.task.run state with
      | (.ok outcome, after) => (outcome, after)
      | (.error failure, after) => (.failed .failure failure, after) := by
  rw [run, running.run_bind, ← task]
  rcases running.run invocation.task.run state with ⟨_ | outcome, after⟩ <;>
    exact running.run_pure _ after

theorem run_cases (invocation : Invocation) (state : σ) :
    (disk (running.run (invocation.run : m Outcome) state).2 = disk state ∧
        (running.run (invocation.run : m Outcome) state).1.EndsWithoutWrite
          invocation.command.TellsPath) ∨
      ∃ path text, invocation.command.target? (disk state) = some path ∧
        (running.run (invocation.run : m Outcome) state).1.EndsAfterWrite
          invocation.command.TellsPath path ∧
        (disk state).writeText path text =
          .ok (disk (running.run (invocation.run : m Outcome) state).2) := by
  have commits : running.Commits disk (disk state) (invocation.command.target? (disk state))
      invocation.command.TellsPath invocation.task := by
    apply (onDisk.keeps_loadRegistry invocation.presetDirectory).writes_bind
    intro registry
    exact Command.commits_run onDisk (disk state) registry invocation.command
  have effect := commits state rfl
  rw [run_eq]
  cases answered : running.run invocation.task.run state with
  | mk result after =>
      rw [answered] at effect
      rcases effect with ⟨unchanged, idle⟩ | ⟨outcome, path, text, answer, ends, target, wrote⟩
      · left
        cases result with
        | error failure => exact ⟨unchanged, nofun, nofun⟩
        | ok outcome => exact ⟨unchanged, idle outcome rfl⟩
      · right
        cases answer
        exact ⟨path, text, target, ends, wrote⟩

/-- A command that ends with neither the code 0 nor the code 101 changes no file, nor does one that
is not to write. What changes is the file that the command is to write, and nothing but that; it
then holds a text. A command ends with the code 101 where it has written its file, at a path that is
no text and that its answer is to tell, and where the answer is to tell such a path, it does not end
with the code 0. -/
theorem run_atomic (invocation : Invocation) (state : σ) :
    let outcome := (running.run (invocation.run : m Outcome) state).1
    let after := disk (running.run (invocation.run : m Outcome) state).2
    (outcome.code.value ≠ 0 → outcome.code.value ≠ 101 → after = disk state) ∧
      (invocation.command.target? (disk state) = none → after = disk state) ∧
      (∀ location, after.entry? location ≠ Disk.entry? (disk state) location →
        (∃ path, invocation.command.target? (disk state) = some path ∧
          (disk state).place? path = some location) ∧
        ∃ text, after.entry? location = some (.file (.text text))) ∧
      (outcome.code.value = 101 → invocation.command.TellsPath ∧
        ∃ path text, invocation.command.target? (disk state) = some path ∧ path.text? = none ∧
          (disk state).writeText path text = .ok after) ∧
      (invocation.command.TellsPath → ∀ path,
        invocation.command.target? (disk state) = some path → path.text? = none →
          outcome.code.value ≠ 0) := by
  simp only [ne_eq, ExitCode.value_eq_zero_iff, ExitCode.value_eq_crashed_iff]
  rcases invocation.run_cases onDisk state with
    ⟨unchanged, noCrash, noSuccess⟩ | ⟨path, text, target, ends, wrote⟩
  · refine ⟨fun _ _ => unchanged, fun _ => unchanged, ?_, fun crashed => absurd crashed noCrash,
      fun tells _ _ _ => noSuccess tells⟩
    exact fun location changed => absurd (congrArg (Disk.entry? · location) unchanged) changed
  · refine ⟨fun noSuccess noCrash => ?_, fun none => ?_, ?_, fun crashed => ?_, ?_⟩
    · exact (ends.success_or_crashed.elim noSuccess noCrash).elim
    · rw [target] at none
      cases none
    · intro location changed
      rcases Disk.place?_of_changed wrote changed with ⟨leads, holds⟩
      exact ⟨⟨path, target, leads⟩, text, holds⟩
    · rcases ends.tells_of_crashed crashed with ⟨tells, noText⟩
      exact ⟨tells, path, text, target, noText, wrote⟩
    · intro tells other isTarget noText success
      rw [target] at isTarget
      cases isTarget
      exact ends.text_of_success success tells noText

def notedMachine : Machine where
  disk := ⟨[(["old.json"], .file .unreadable), (["config.json"], .link "old.json")]⟩
  ids := .ofSeed ""
  now := .midnight .epoch

def starter (output : RawText) (force : Bool) : Invocation :=
  ⟨"templates", .new output force⟩

/-- The name `caf.json` with the single byte of a Latin-1 letter before its point. -/
def latinName : RawText :=
  ⟨[0x63, 0x61, 0x66, 0xE9, 0x2E, 0x6A, 0x73, 0x6F, 0x6E]⟩

def onNoted (invocation : Invocation) : Outcome × Machine :=
  Machine.running.run invocation.run notedMachine

omit onDisk in
theorem run_atomic_starter :
    (onNoted (starter "config.json" true)).1.code.value = 0 ∧
      (onNoted (starter "config.json" true)).2.disk.entry? ["old.json"] ≠
        notedMachine.disk.entry? ["old.json"] ∧
      notedMachine.disk.place? "config.json" = some (["old.json"] : Location) ∧
      (onNoted (starter "config.json" false)).1.code.value = 1 ∧
      (onNoted (starter "config.json" false)).2.disk = notedMachine.disk ∧
      (onNoted (starter latinName false)).1.code.value = 101 ∧
      notedMachine.disk.entry? [latinName] = none ∧
      ∃ text, (onNoted (starter latinName false)).2.disk.entry? [latinName] =
        some (.file (.text text)) := by
  have failed : (onNoted (starter "config.json" false)).1.code.value = 1 := rfl
  have changed :
      (onNoted (starter "config.json" true)).2.disk.entry? ["old.json"] ≠
        notedMachine.disk.entry? ["old.json"] := by
    intro same
    cases same
  rcases ((starter "config.json" true).run_atomic Machine.onDisk notedMachine).2.2.1 _ changed with
    ⟨⟨path, target, leads⟩, -⟩
  cases target
  have crashed : (onNoted (starter latinName false)).1.code.value = 101 := rfl
  rcases ((starter latinName false).run_atomic Machine.onDisk notedMachine).2.2.2.1 crashed with
    ⟨-, path, text, target, -, wrote⟩
  cases target
  refine ⟨rfl, changed, leads, failed, ?_, crashed, rfl, text, ?_⟩
  · apply ((starter "config.json" false).run_atomic Machine.onDisk notedMachine).1
    · exact fun success => absurd (failed.symm.trans success) (by decide)
    · exact fun crash => absurd (failed.symm.trans crash) (by decide)
  · rcases Disk.put_of_writeText wrote with ⟨place, leadsThere, entries⟩
    cases leadsThere
    exact (entries _).trans (if_pos rfl)

end Invocation

end Bulletin
