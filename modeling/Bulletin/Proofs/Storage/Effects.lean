import Bulletin.Proofs.Storage.Disk
import Bulletin.Storage.Files
/-!
# What tasks do to files

A host may fail in more ways than a disk in memory: all that is known here is that asking leaves
the files as they are, and that a write either fails and leaves them too, or puts a text in its
place. What a task does to the files follows from the order in which it asks and writes.
-/

namespace Bulletin

/-- How the computations of a host change the state of a machine, one after another. -/
structure Host.Running (m : Type → Type) [Host m] (σ : Type) where
  run : ∀ {α : Type}, m α → σ → α × σ
  run_pure : ∀ {α : Type} (value : α) (state : σ), run (pure value) state = (value, state)
  run_map : ∀ {α β : Type} (f : α → β) (computation : m α) (state : σ),
    run (f <$> computation) state = (f (run computation state).1, (run computation state).2)
  run_bind : ∀ {α β : Type} (first : m α) (next : α → m β) (state : σ),
    run (first >>= next) state = run (next (run first state).1) (run first state).2

namespace Host.Running

variable {m : Type → Type} [Host m] {σ : Type} (running : Host.Running m σ)

def Keeps (view : σ → β) (computation : m α) : Prop :=
  ∀ state, view (running.run computation state).2 = view state

structure Asks (view : σ → β) : Prop where
  readText (path : RawText) : running.Keeps view (Host.readText path)
  pathExists (path : RawText) : running.Keeps view (Host.pathExists path)
  isDirectory (path : RawText) : running.Keeps view (Host.isDirectory path)
  directoryNames (path : RawText) : running.Keeps view (Host.directoryNames path)
  draw {α : Type} (fresh : Fresh α) : running.Keeps view (Host.draw fresh)
  now : running.Keeps view Host.now

/-- The files of a machine are those of a disk. Any access may fail where one to the disk would
not. -/
structure OnDisk (disk : σ → Disk) : Prop extends Asks running disk where
  directory {path : RawText} {state : σ}
    (told : (running.run (Host.isDirectory path) state).1 = true) :
    (disk state).isDirectory path = true
  written {path : RawText} {text : String} {state after : σ}
    (wrote : running.run (Host.writeText path text) state = (.ok (), after)) :
    (disk state).writeText path text = .ok (disk after)
  refused {path : RawText} {text : String} {fault : FileFault} {state after : σ}
    (failed : running.run (Host.writeText path text) state = (.error fault, after)) :
    disk after = disk state

/-! ## Asking -/

section Keeps

variable {running} {view : σ → β}

theorem keeps_pure (value : α) : running.Keeps view (pure value : m α) :=
  fun state => by rw [running.run_pure]

theorem Keeps.bind {first : m α} {next : α → m γ} (keeps : running.Keeps view first)
    (rest : ∀ value, running.Keeps view (next value)) : running.Keeps view (first >>= next) := by
  intro state
  rw [running.run_bind, rest, keeps]

theorem run_lift (computation : m α) (state : σ) :
    running.run (liftM computation : Task m α).run state =
      (.ok (running.run computation state).1, (running.run computation state).2) :=
  running.run_map Except.ok computation state

theorem run_task_pure (value : α) (state : σ) :
    running.run (pure value : Task m α).run state = (.ok value, state) :=
  running.run_pure (Except.ok value) state

theorem run_throw (failure : Failure) (state : σ) :
    running.run (throw failure : Task m α).run state = (.error failure, state) :=
  running.run_pure (Except.error failure) state

theorem run_task_bind (first : Task m α) (next : α → Task m γ) (state : σ) :
    running.run (first >>= next).run state =
      match running.run first.run state with
      | (.ok value, after) => running.run (next value).run after
      | (.error failure, after) => (.error failure, after) := by
  rw [ExceptT.run_bind, running.run_bind]
  rcases running.run first.run state with ⟨_ | value, after⟩
  · exact running.run_pure _ after
  · rfl

theorem keeps_task_pure (value : α) : running.Keeps view (pure value : Task m α).run :=
  fun state => by rw [running.run_task_pure]

theorem keeps_throw (failure : Failure) : running.Keeps view (throw failure : Task m α).run :=
  fun state => by rw [running.run_throw]

theorem keeps_liftExcept (result : Except Failure α) :
    running.Keeps view (liftExcept result : Task m α).run := by
  cases result with
  | ok value => exact keeps_task_pure value
  | error failure => exact keeps_throw failure

theorem Keeps.task_bind {first : Task m α} {next : α → Task m γ}
    (keeps : running.Keeps view first.run) (rest : ∀ value, running.Keeps view (next value).run) :
    running.Keeps view (first >>= next).run := by
  rw [ExceptT.run_bind]
  apply keeps.bind
  intro result
  cases result with
  | ok value => exact rest value
  | error failure => exact keeps_pure _

theorem Keeps.lift {computation : m α} (keeps : running.Keeps view computation) :
    running.Keeps view (liftM computation : Task m α).run := by
  intro state
  rw [running.run_lift, keeps]

theorem Keeps.atPath {answer : m (Except FileFault α)} (keeps : running.Keeps view answer)
    (path : RawText) : running.Keeps view (Task.atPath path answer).run := by
  apply keeps.lift.task_bind
  intro result
  cases result with
  | ok value => exact keeps_task_pure value
  | error fault => exact keeps_throw _

end Keeps

/-! ## Reading -/

namespace Asks

open Files

variable {running} {view : σ → β} (asks : running.Asks view)

include asks

theorem keeps_draw (computation : Fresh (Except Failure α)) :
    running.Keeps view (Task.draw computation : Task m α).run :=
  asks.draw computation

theorem keeps_readText (path : RawText) : running.Keeps view (Task.readText path : Task m _).run :=
  (asks.readText path).atPath path

theorem keeps_readJson (format : Json.Format α) (path : RawText) :
    running.Keeps view (readJson format path : Task m α).run := by
  apply (asks.keeps_readText path).task_bind
  intro text
  cases format.parse text with
  | ok value => exact keeps_task_pure value
  | error error => exact keeps_throw _

theorem keeps_loadDocument (path : RawText) :
    running.Keeps view (loadDocument path : Task m _).run :=
  asks.keeps_readJson _ path

theorem keeps_loadLibrary (path : RawText) :
    running.Keeps view (loadLibrary path : Task m _).run := by
  apply (asks.pathExists path).lift.task_bind
  intro present
  cases present with
  | false => exact keeps_task_pure _
  | true => exact asks.now.lift.task_bind fun now => asks.keeps_readJson _ path

theorem keeps_registerFiles (directory : RawText) (names : List RawText) (registry : Registry) :
    running.Keeps view (registerFiles directory names registry : m Registry) := by
  induction names generalizing registry with
  | nil => exact keeps_pure registry
  | cons name names induction =>
      have reads : running.Keeps view (readPreset? (Path.join directory name) : m _) := by
        apply (asks.readText _).bind
        intro result
        cases result <;> exact keeps_pure _
      apply reads.bind
      intro preset?
      cases preset? with
      | none => exact induction registry
      | some preset => exact induction (registry.register preset)

theorem keeps_loadRegistry (directory : RawText) :
    running.Keeps view (loadRegistry directory : Task m _).run := by
  apply (asks.draw Registry.builtin).lift.task_bind
  intro registry
  apply (asks.pathExists directory).lift.task_bind
  intro present
  cases present with
  | false => exact keeps_task_pure registry
  | true =>
      apply ((asks.directoryNames directory).atPath directory).task_bind
      intro names
      exact (asks.keeps_registerFiles directory _ registry).lift

end Asks

/-! ## Giving -/

def Gives (running : Host.Running m σ) (isKind : α → Prop) (task : Task m α) : Prop :=
  ∀ state value, (running.run task.run state).1 = .ok value → isKind value

section Gives

variable {running} {isKind : α → Prop}

theorem gives_pure {value : α} (kind : isKind value) : running.Gives isKind (pure value) := by
  intro state given same
  rw [run_task_pure] at same
  cases same
  exact kind

theorem gives_throw (failure : Failure) : running.Gives isKind (throw failure) := by
  intro state given same
  rw [run_throw] at same
  cases same

theorem gives_bind {first : Task m β} {next : β → Task m α}
    (last : ∀ value, running.Gives isKind (next value)) :
    running.Gives isKind (first >>= next) := by
  intro state given same
  rw [run_task_bind] at same
  cases answered : running.run first.run state with
  | mk result after =>
      rw [answered] at same
      cases result with
      | error failure => cases same
      | ok value => exact last value after given same

end Gives

/-! ## Writing -/

/-- From a disk, a task leaves every file as it is, and what it gives is `idle`. Or it has written
one text to the path that is meant for it, and tells of it. -/
def Writes (disk : σ → Disk) (before : Disk) (path? : Option RawText) (idle : α → Prop)
    (tells : RawText → α → Prop) (task : Task m α) : Prop :=
  ∀ state, disk state = before →
    (disk (running.run task.run state).2 = before ∧
        ∀ value, (running.run task.run state).1 = .ok value → idle value) ∨
      ∃ value path text, (running.run task.run state).1 = .ok value ∧ tells path value ∧
        path? = some path ∧ before.writeText path text = .ok (disk (running.run task.run state).2)

section Writes

variable {running} {disk : σ → Disk} {before : Disk} {path? : Option RawText}

theorem Keeps.writes {task : Task m α} {idle : α → Prop} {tells : RawText → α → Prop}
    (keeps : running.Keeps disk task.run) (gives : running.Gives idle task) :
    running.Writes disk before path? idle tells task := by
  intro state same
  exact .inl ⟨(keeps state).trans same, fun value => gives state value⟩

theorem Keeps.writes_bind_of_answer {first : Task m α} {next : α → Task m γ} {idle : γ → Prop}
    {tells : RawText → γ → Prop} (keeps : running.Keeps disk first.run)
    (rest : ∀ value,
      (∃ state, disk state = before ∧ (running.run first.run state).1 = .ok value) →
        running.Writes disk before path? idle tells (next value)) :
    running.Writes disk before path? idle tells (first >>= next) := by
  intro state same
  have sameAfter := (keeps state).trans same
  rw [run_task_bind]
  cases answered : running.run first.run state with
  | mk result after =>
      rw [answered] at sameAfter
      cases result with
      | error failure => exact .inl ⟨sameAfter, nofun⟩
      | ok value => exact rest value ⟨state, same, by rw [answered]⟩ after sameAfter

theorem Keeps.writes_bind {first : Task m α} {next : α → Task m γ} {idle : γ → Prop}
    {tells : RawText → γ → Prop} (keeps : running.Keeps disk first.run)
    (rest : ∀ value, running.Writes disk before path? idle tells (next value)) :
    running.Writes disk before path? idle tells (first >>= next) :=
  keeps.writes_bind_of_answer fun value _ => rest value

theorem Writes.then_pure {first : Task m α} {result : α → γ} {idle : γ → Prop}
    {knows : RawText → α → Prop} {tells : RawText → γ → Prop}
    (writes : running.Writes disk before path? (fun _ => False) knows first)
    (told : ∀ path value, knows path value → tells path (result value)) :
    running.Writes disk before path? idle tells (first >>= fun value => pure (result value)) := by
  intro state same
  have effect := writes state same
  rw [run_task_bind]
  cases answered : running.run first.run state with
  | mk answer after =>
      rw [answered] at effect
      rcases effect with ⟨unchanged, failed⟩ | ⟨value, path, text, success, known, isTarget, wrote⟩
      · cases answer with
        | error failure => exact .inl ⟨unchanged, nofun⟩
        | ok value => exact (failed value rfl).elim
      · cases success
        dsimp only
        rw [run_task_pure]
        exact .inr ⟨_, path, text, rfl, told path value known, isTarget, wrote⟩

end Writes

namespace OnDisk

open Files

variable {running} {disk : σ → Disk} (onDisk : running.OnDisk disk) {before : Disk}

include onDisk

theorem writes_writeText (path : RawText) (text : String) :
    running.Writes disk before (some path) (fun _ => False) (fun written _ => written = path)
      (Task.writeText path text : Task m Unit) := by
  intro state same
  rw [Task.writeText, Task.atPath, run_task_bind, run_lift]
  cases answered : running.run (Host.writeText path text) state with
  | mk result after =>
      cases result with
      | ok value =>
          have wrote := onDisk.written answered
          rw [same] at wrote
          dsimp only
          rw [run_task_pure]
          exact .inr ⟨(), path, text, rfl, rfl, rfl, wrote⟩
      | error fault =>
          dsimp only
          rw [run_throw]
          exact .inl ⟨(onDisk.refused answered).trans same, nofun⟩

theorem writes_writePage (path : RawText) (html : String) :
    running.Writes disk before
      (some (if before.isDirectory path then Path.join path pageFileName else path))
      (fun _ => False) (fun written told => written = told)
      (writePage path html : Task m RawText) := by
  apply (onDisk.isDirectory path).lift.writes_bind_of_answer
  rintro told ⟨state, same, answered⟩
  cases told with
  | true =>
      rw [run_lift] at answered
      have isDirectory := onDisk.directory (Except.ok.inj answered)
      rw [same] at isDirectory
      rw [if_pos isDirectory]
      exact (onDisk.writes_writeText _ html).then_pure fun _ _ known => known
  | false =>
      -- Should a directory not be told as one, the write to it fails.
      have writes : running.Writes disk before (some path) (fun _ => False)
          (fun written told => written = told)
          (Task.writeText path html >>= fun _ => pure path : Task m RawText) :=
        (onDisk.writes_writeText path html).then_pure fun _ _ known => known
      intro state same
      rcases writes state same with unchanged | ⟨value, _, text, answer, known, isTarget, wrote⟩
      · exact .inl unchanged
      · cases isTarget
        refine .inr ⟨value, path, text, answer, known, ?_, wrote⟩
        rw [Disk.isDirectory_of_writeText wrote]
        rfl

end OnDisk

end Host.Running

/-! ## Machines in memory -/

namespace Machine

def running : Host.Running (StateM Machine) Machine where
  run computation machine := computation machine
  run_pure _ _ := rfl
  run_map _ _ _ := rfl
  run_bind _ _ _ := rfl

theorem asks_of_fixed {view : Machine → β}
    (fixed : ∀ machine ids, view { machine with ids } = view machine) : running.Asks view where
  readText _ _ := rfl
  pathExists _ _ := rfl
  isDirectory _ _ := rfl
  directoryNames _ _ := rfl
  draw _ machine := fixed machine _
  now _ := rfl

theorem onDisk : running.OnDisk disk where
  toAsks := asks_of_fixed fun _ _ => rfl
  directory told := told
  written {path text state after} wrote := by
    simp only [running, Host.writeText] at wrote
    cases done : state.disk.writeText path text with
    | ok disk =>
        rw [done] at wrote
        cases wrote
        rfl
    | error fault =>
        rw [done] at wrote
        cases wrote
  refused {path text fault state after} failed := by
    simp only [running, Host.writeText] at failed
    cases done : state.disk.writeText path text with
    | ok disk =>
        rw [done] at failed
        cases failed
    | error fault =>
        rw [done] at failed
        cases failed
        rfl

end Machine

end Bulletin
