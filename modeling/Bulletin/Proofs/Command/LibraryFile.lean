import Bulletin.Proofs.Command.Atomicity
import Bulletin.Proofs.Library.Contents
import Bulletin.Proofs.Storage.Presets
/-!
# The library file

Every library command reads the whole library from its file, and those that change it write it
back. So from one command to the next the file stands for a library that is kept in memory, to
which the same calls are made; only the times of its entries may become others.
-/

namespace Bulletin

/-! ## Calls -/

/-- What the call that an action stands for makes of a library on a machine, where there is such a
call, and it succeeds and finds something to change. -/
def LibraryAction.change? (machine : Machine) (library : Library) :
    LibraryAction → Option Library
  | .save input name description =>
      match (Files.loadDocument input).runOn machine with
      | (.ok document, _) =>
          match (library.save machine.now name description document).run machine.ids with
          | (.ok (_, next), _) => some next
          | (.error _, _) => none
      | (.error _, _) => none
  | .delete id => if (library.delete id).1 then some (library.delete id).2 else none
  | .importFrom input =>
      match machine.disk.readText input with
      | .ok text =>
          match (library.importText machine.now text).run machine.ids with
          | (.ok (_, next), _) => some next
          | (.error _, _) => none
      | .error _ => none
  | .list => none
  | .load .. => none
  | .exportTo _ => none

namespace LibraryAction

/-- The file that an action is to write beside the library, if any. -/
def output? : LibraryAction → Option RawText
  | .load _ output => some output
  | .exportTo output => some output
  | _ => none

variable {machine : Machine} {library memory next : Library}

theorem contents_change? (same : library.contents = memory.contents) (machine : Machine)
    (action : LibraryAction) :
    (action.change? machine library).map Library.contents =
      (action.change? machine memory).map Library.contents := by
  cases action with
  | save input name description =>
      rw [change?, change?]
      rcases (Files.loadDocument input).runOn machine with ⟨_ | document, after⟩
      · rfl
      · rcases Library.save_eq machine.now name description document machine.ids with
          ⟨result, rest, saves⟩
        dsimp only
        rw [saves library, saves memory]
        cases result with
        | error failure => rfl
        | ok saved => exact congrArg some (Library.contents_append same [saved])
  | delete id =>
      have told : (library.delete id).1 = (memory.delete id).1 := by
        rw [Bool.eq_iff_iff, Library.delete_told, Library.delete_told, same]
      rw [change?, change?, told]
      split
      · apply congrArg some
        rw [Library.contents_delete, Library.contents_delete, same]
      · rfl
  | importFrom input =>
      rw [change?, change?]
      cases machine.disk.readText input with
      | error fault => rfl
      | ok text =>
          rcases Library.importText_eq machine.now text machine.ids with ⟨result, rest, takes⟩
          dsimp only
          rw [takes library, takes memory]
          cases result with
          | error failure => rfl
          | ok added => exact congrArg some (Library.contents_append same added)
  | list => rfl
  | load id output => rfl
  | exportTo output => rfl

inductive Changes (machine : Machine) (library : Library) : LibraryAction → Library → Prop where
  | saved {input : RawText} {name description : String} {document : Document}
      {saved : SavedDocument} {next : Library} {rest : IdSupply}
      (read : (Files.loadDocument input).runOn machine = (.ok document, machine))
      (done : (library.save machine.now name description document).run machine.ids =
        (.ok (saved, next), rest)) : Changes machine library (.save input name description) next
  | deleted {id : String} (told : (library.delete id).1 = true) :
      Changes machine library (.delete id) (library.delete id).2
  | imported {input : RawText} {text : String} {count : Nat} {next : Library} {rest : IdSupply}
      (there : machine.disk.readText input = .ok text)
      (done : (library.importText machine.now text).run machine.ids = (.ok (count, next), rest)) :
      Changes machine library (.importFrom input) next

theorem changes_of_change? {action : LibraryAction}
    (changed : action.change? machine library = some next) :
    Changes machine library action next := by
  cases action with
  | save input name description =>
      rw [change?] at changed
      split at changed
      · rename_i document after read
        have same := Files.runOn_readJson_after Document.format input machine
        rw [← Files.loadDocument, read] at same
        cases same
        split at changed
        · rename_i done
          cases changed
          exact .saved read done
        · cases changed
      · cases changed
  | delete id =>
      rw [change?] at changed
      split at changed
      · rename_i told
        cases changed
        exact .deleted told
      · cases changed
  | importFrom input =>
      rw [change?] at changed
      split at changed
      · rename_i there
        split at changed
        · rename_i done
          cases changed
          exact .imported there done
        · cases changed
      · cases changed
  | list => cases changed
  | load id output => cases changed
  | exportTo output => cases changed

namespace Changes

variable {action : LibraryAction} (changes : Changes machine library action next)

include changes

theorem isProper (proper : library.IsProper) (clock : machine.now.IsValid) : next.IsProper := by
  cases changes with
  | saved read done =>
      rcases Files.parse_of_runOn_readJson read with ⟨text, -, parsed⟩
      exact Library.isProper_of_save proper clock (Document.yields_isProper.parse parsed) done
  | deleted told => exact Library.isProper_delete proper _
  | imported there done => exact Library.isProper_of_importText proper clock done

theorem runOn_run {path : RawText} {written : Disk}
    (wrote : machine.disk.writeText path next.toJson.pretty = .ok written) :
    ∃ outcome after, (action.run path library).runOn machine = (.ok outcome, after) ∧
      outcome.code = .success ∧ after.disk = written := by
  have saves (ids : IdSupply) :
      (Files.saveLibrary path next).runOn { machine with ids } =
        (.ok (), ⟨written, ids, machine.now⟩) := by
    rw [Files.saveLibrary, Files.writeJson, Task.runOn_writeText]
    dsimp only
    rw [wrote]
  cases changes with
  | @saved input name description document saved next rest read done =>
      refine ⟨.success [("id", .text saved.id)], ⟨written, rest, machine.now⟩, ?_, rfl, rfl⟩
      rw [run, Task.runOn_bind, read]
      dsimp only
      rw [Task.runOn_bind, Task.runOn_now]
      dsimp only
      rw [Task.runOn_bind, Task.runOn_draw, done]
      dsimp only
      rw [Task.runOn_bind, saves rest]
      rfl
  | @deleted id deleted =>
      refine ⟨.ofAnswer (Json.record [("id", .text id), ("success", .boolean true)]),
        ⟨written, machine.ids, machine.now⟩, ?_, rfl, rfl⟩
      rw [run]
      dsimp only
      rw [if_pos deleted, Task.runOn_bind, saves machine.ids, deleted]
      rfl
  | @imported input text count next rest there done =>
      refine ⟨.success [("imported", .count count)], ⟨written, rest, machine.now⟩, ?_, rfl, rfl⟩
      rw [run, Task.runOn_bind, Task.runOn_readText, there]
      dsimp only [Except.mapError]
      rw [Task.runOn_bind, Task.runOn_now]
      dsimp only
      rw [Task.runOn_bind, Task.runOn_draw, done]
      dsimp only
      rw [Task.runOn_bind, saves rest]
      rfl

end Changes

theorem same_or_written (action : LibraryAction) (path : RawText) :
    ((action.run path library).runOn machine).2.disk = machine.disk ∨
      ∃ target text, action.target? path = some target ∧
        machine.disk.writeText target text =
          .ok ((action.run path library).runOn machine).2.disk := by
  rcases action.commits_run Machine.onDisk machine.disk path library machine rfl with
    ⟨same, -⟩ | ⟨_, target, text, -, -, isTarget, wrote⟩
  · exact .inl same
  · exact .inr ⟨target, text, isTarget, wrote⟩

theorem disk_of_unchanged {action : LibraryAction} (path : RawText)
    (unchanged : action.change? machine library = none) :
    ((action.run path library).runOn machine).2.disk = machine.disk ∨
      ∃ output text, action.output? = some output ∧
        machine.disk.writeText output text =
          .ok ((action.run path library).runOn machine).2.disk := by
  cases action with
  | save input name description =>
      left
      have reads : (Files.loadDocument input).runOn machine =
          (((Files.loadDocument input).runOn machine).1, machine) :=
        Prod.ext rfl (Files.runOn_readJson_after Document.format input machine)
      rw [change?, reads] at unchanged
      rw [run, Task.runOn_bind, reads]
      cases read : ((Files.loadDocument input).runOn machine).1 with
      | error failure => rfl
      | ok document =>
          dsimp only
          rw [Task.runOn_bind, Task.runOn_now]
          dsimp only
          rw [Task.runOn_bind, Task.runOn_draw]
          rcases done : (library.save machine.now name description document).run machine.ids with
            ⟨_ | ⟨saved, next⟩, rest⟩
          · rfl
          · simp only [read, done] at unchanged
            cases unchanged
  | delete id =>
      left
      rw [change?] at unchanged
      split at unchanged
      · cases unchanged
      · rename_i untold
        rw [run]
        dsimp only
        rw [if_neg untold]
        rfl
  | importFrom input =>
      left
      rw [run, Task.runOn_bind, Task.runOn_readText]
      cases there : machine.disk.readText input with
      | error fault => rfl
      | ok text =>
          dsimp only [Except.mapError]
          rw [Task.runOn_bind, Task.runOn_now]
          dsimp only
          rw [Task.runOn_bind, Task.runOn_draw]
          rcases done : (library.importText machine.now text).run machine.ids with
            ⟨_ | ⟨count, next⟩, rest⟩
          · rfl
          · simp only [change?, there, done] at unchanged
            cases unchanged
  | list => exact .inl rfl
  | load id output => exact (load id output).same_or_written path
  | exportTo output => exact (exportTo output).same_or_written path

end LibraryAction

/-! ## The file -/

/-- Whenever the file is loaded, the library is found in it. -/
def Library.IsKeptAt (library : Library) (path : RawText) (disk : Disk) : Prop :=
  ∀ ids now, (Files.loadLibrary path).runOn ⟨disk, ids, now⟩ =
    (.ok (library.reread now), ⟨disk, ids, now⟩)

namespace Library

variable {path : RawText} {disk written : Disk} {library : Library}

theorem isKeptAt_empty (absent : disk.pathExists path = false) : empty.IsKeptAt path disk := by
  intro ids now
  rw [Files.runOn_loadLibrary, absent]
  rfl

theorem isKeptAt_of_writeText (proper : library.IsProper)
    (wrote : disk.writeText path library.toJson.pretty = .ok written) :
    library.IsKeptAt path written := by
  intro ids now
  rw [Files.runOn_loadLibrary, Disk.pathExists_of_writeText wrote, if_pos rfl]
  exact Files.runOn_readJson (Disk.readText_of_writeText wrote) (parse_pretty proper now)

theorem IsKeptAt.of_apart (kept : library.IsKeptAt path disk) {other : RawText} {text : String}
    (wrote : disk.writeText other text = .ok written) (apart : disk.Apart path other) :
    library.IsKeptAt path written := by
  intro ids now
  have loaded := kept ids now
  rw [Files.runOn_loadLibrary] at loaded ⊢
  rw [Disk.pathExists_of_apart wrote apart]
  split
  · rename_i present
    rw [if_pos present] at loaded
    rcases Files.parse_of_runOn_readJson loaded with ⟨content, there, parsed⟩
    exact Files.runOn_readJson ((Disk.readText_of_apart wrote apart).mpr there) parsed
  · rename_i absent
    rw [if_neg absent] at loaded
    rw [← (Prod.mk.inj loaded).1]

end Library

/-! ## Runs -/

/-- A library command that is run on a machine: its clock tells a time of day, and its presets can
be read, which makes it ready. Where the call that the action stands for changes the library in
memory, the file can be written; whatever else is written has another place. -/
structure LibraryRun (path : RawText) (memory : Library) (machine ready after : Machine)
    (action : LibraryAction) (outcome : Outcome) : Prop where
  clock : machine.now.IsValid
  ran : ∃ presetDirectory registry,
    (Files.loadRegistry presetDirectory).runOn machine = (.ok registry, ready) ∧
      Machine.running.run (Invocation.run ⟨presetDirectory, .library path action⟩) machine =
        (outcome, after)
  writable : action.change? ready memory ≠ none →
    ∃ text written, machine.disk.writeText path text = .ok written
  apart : ∀ output, action.output? = some output → machine.disk.Apart path output

/-- What library commands, and whoever writes other files in between, can make of a disk on which
there is no library file first, and the library in memory to which the same calls are made. -/
inductive LibrarySession (path : RawText) : Disk → Library → Prop where
  | started {disk : Disk} (absent : disk.pathExists path = false) :
      LibrarySession path disk .empty
  | ran {machine ready after : Machine} {memory : Library} {action : LibraryAction}
      {outcome : Outcome} (session : LibrarySession path machine.disk memory)
      (run : LibraryRun path memory machine ready after action outcome) :
      LibrarySession path after.disk ((action.change? ready memory).getD memory)
  | wroteElsewhere {disk written : Disk} {memory : Library} {other : RawText} {text : String}
      (session : LibrarySession path disk memory) (apart : disk.Apart path other)
      (wrote : disk.writeText other text = .ok written) : LibrarySession path written memory

namespace LibraryRun

variable {path : RawText} {memory library : Library} {machine ready after : Machine}
  {action : LibraryAction} {outcome : Outcome}
  (run : LibraryRun path memory machine ready after action outcome)

include run

theorem ready_eq : ready.disk = machine.disk ∧ ready.now = machine.now := by
  rcases run.ran with ⟨presetDirectory, registry, presets, -⟩
  have asks : Machine.running.Asks fun machine => (machine.disk, machine.now) :=
    Machine.asks_of_fixed fun _ _ => rfl
  have keeps := asks.keeps_loadRegistry presetDirectory machine
  have same : Machine.running.run (Files.loadRegistry presetDirectory).run machine =
      (.ok registry, ready) := presets
  rw [same] at keeps
  exact ⟨congrArg Prod.fst keeps, congrArg Prod.snd keeps⟩

theorem loads (kept : library.IsKeptAt path machine.disk) :
    (Files.loadLibrary path).runOn ready = (.ok (library.reread ready.now), ready) := by
  have loaded := kept ready.ids ready.now
  rw [← run.ready_eq.1] at loaded
  exact loaded

theorem result_eq (kept : library.IsKeptAt path machine.disk) :
    ((action.run path (library.reread ready.now)).runOn ready).2 = after ∧
      ∀ told, ((action.run path (library.reread ready.now)).runOn ready).1 = .ok told →
        told = outcome := by
  rcases run.ran with ⟨presetDirectory, registry, presets, ran⟩
  have does : (Invocation.task ⟨presetDirectory, .library path action⟩).runOn machine =
      (action.run path (library.reread ready.now)).runOn ready := by
    rw [Invocation.task, Task.runOn_bind, presets]
    dsimp only [Command.run]
    rw [Task.runOn_bind, run.loads kept]
  have does : Machine.running.run
      (Invocation.task ⟨presetDirectory, .library path action⟩).run machine =
        (action.run path (library.reread ready.now)).runOn ready := does
  rw [Invocation.run_eq, does] at ran
  cases answered : (action.run path (library.reread ready.now)).runOn ready with
  | mk result behind =>
      rw [answered] at ran
      cases result with
      | error failure =>
          cases ran
          exact ⟨rfl, fun _ same => by cases same⟩
      | ok told =>
          cases ran
          exact ⟨rfl, fun other same => (Except.ok.inj same).symm⟩

theorem keeps (kept : library.IsKeptAt path machine.disk)
    (same : library.contents = memory.contents) :
    (∃ next : Library, next.IsKeptAt path after.disk ∧
        next.contents = ((action.change? ready memory).getD memory).contents) ∧
      (outcome.code ≠ .success → action.change? ready memory = none) ∧
      (action.change? ready memory = none → ∀ text,
        after.disk.readText path = .ok text ↔ machine.disk.readText path = .ok text) := by
  rcases run.result_eq kept with ⟨behind, told⟩
  rcases run.ready_eq with ⟨sameDisk, sameTime⟩
  have clock : ready.now.IsValid := sameTime ▸ run.clock
  have proper : (library.reread ready.now).IsProper :=
    Library.isProper_of_loadLibrary clock (run.loads kept)
  -- The call is made to what was loaded; in memory it is made to a library of the same contents.
  have agree := LibraryAction.contents_change?
    ((library.contents_reread ready.now).trans same) ready action
  cases changed : action.change? ready (library.reread ready.now) with
  | none =>
      rw [changed] at agree
      have unchanged : action.change? ready memory = none := Option.map_eq_none_iff.mp agree.symm
      rw [unchanged]
      have written := LibraryAction.disk_of_unchanged path changed
      rw [behind, sameDisk] at written
      rcases written with unwritten | ⟨output, text, isOutput, wrote⟩
      · rw [unwritten]
        exact ⟨⟨library, kept, same⟩, fun _ => rfl, fun _ _ => Iff.rfl⟩
      · have apart := run.apart output isOutput
        exact ⟨⟨library, kept.of_apart wrote apart, same⟩, fun _ => rfl,
          fun _ _ => Disk.readText_of_apart wrote apart⟩
  | some next =>
      have changes := LibraryAction.changes_of_change? changed
      rw [changed] at agree
      rcases Option.map_eq_some_iff.mp agree.symm with ⟨nextMemory, memoryChanged, sameNext⟩
      rw [memoryChanged]
      have someText := run.writable (by rw [memoryChanged]; nofun)
      rcases someText with ⟨text, others, wroteText⟩
      rcases Disk.exists_writeText wroteText next.toJson.pretty with ⟨written, wrote⟩
      have wroteReady : ready.disk.writeText path next.toJson.pretty = .ok written :=
        sameDisk ▸ wrote
      rcases changes.runOn_run wroteReady with ⟨success, final, does, succeeded, isWritten⟩
      rw [does] at behind told
      cases behind
      cases told success rfl
      refine ⟨⟨next, ?_, sameNext.symm⟩, fun failed => absurd succeeded failed, nofun⟩
      rw [isWritten]
      exact Library.isKeptAt_of_writeText (changes.isProper proper clock) wrote

end LibraryRun

namespace LibrarySession

variable {path : RawText} {disk : Disk} {memory : Library}

theorem keeps (session : LibrarySession path disk memory) :
    ∃ library : Library, library.IsKeptAt path disk ∧ library.contents = memory.contents := by
  induction session with
  | started absent => exact ⟨.empty, Library.isKeptAt_empty absent, rfl⟩
  | ran _ run induction =>
      rcases induction with ⟨library, kept, same⟩
      exact (run.keeps kept same).1
  | wroteElsewhere _ apart wrote induction =>
      rcases induction with ⟨library, kept, same⟩
      exact ⟨library, kept.of_apart wrote apart, same⟩

/-- However often the library file is read and written, what is loaded from it is the library in
memory but for the times of the entries. A command that fails was to change nothing, and one that
is to change nothing leaves the text of the file as it is. -/
theorem loads_memory (session : LibrarySession path disk memory) :
    (∀ ids now, ∃ library,
      (Files.loadLibrary path).runOn ⟨disk, ids, now⟩ = (.ok library, ⟨disk, ids, now⟩) ∧
        library.contents = memory.contents) ∧
      ∀ machine ready after action outcome, machine.disk = disk →
        LibraryRun path memory machine ready after action outcome →
          (outcome.code ≠ .success → action.change? ready memory = none) ∧
            (action.change? ready memory = none → ∀ text,
              after.disk.readText path = .ok text ↔ disk.readText path = .ok text) := by
  rcases session.keeps with ⟨library, kept, same⟩
  constructor
  · intro ids now
    exact ⟨library.reread now, kept ids now, (library.contents_reread now).trans same⟩
  · rintro machine ready after action outcome rfl run
    exact (run.keeps kept same).2

def draftDisk : Disk :=
  ⟨[(["draft.json"], .file (.text "\x7b\x7d")),
    (["shared.json"],
      .file (.text "[\x7b\"id\":\"9\",\"name\":\"Shared\",\"config\":\x7b\x7d\x7d]"))]⟩

def numbering (disk : Disk) (drawn : Nat) : Machine :=
  ⟨disk, ⟨toString, drawn⟩, .midnight .epoch⟩

def onNumbering (disk : Disk) (drawn : Nat) (action : LibraryAction) : Outcome × Machine :=
  Machine.running.run (Invocation.run ⟨"templates", .library "kept.json" action⟩)
    (numbering disk drawn)

def diskAfter (disk : Disk) (drawn : Nat) (action : LibraryAction) : Disk :=
  (onNumbering disk drawn action).2.disk

structure IsOpen (disk : Disk) : Prop where
  noPresets : disk.pathExists "templates" = false
  apart : disk.Apart "templates" "kept.json"
  writable : ∃ written, disk.writeText "kept.json" "" = .ok written

theorem isOpen_onNumbering {disk : Disk} (isOpen : IsOpen disk) (drawn : Nat)
    {action : LibraryAction} (keeps : action.target? "kept.json" = some "kept.json") :
    IsOpen (diskAfter disk drawn action) := by
  rcases Invocation.run_cases Machine.onDisk ⟨"templates", .library "kept.json" action⟩
      (numbering disk drawn) with ⟨unchanged, -⟩ | ⟨path, text, target, -, wrote⟩
  · rw [diskAfter, onNumbering, unchanged]
    exact isOpen
  · cases Option.some.inj (target.symm.trans keeps)
    exact
      { noPresets := (Disk.pathExists_of_apart wrote isOpen.apart).trans isOpen.noPresets
        apart := fun location leads => by
          rw [diskAfter, onNumbering, Disk.place?_of_writeText wrote] at leads ⊢
          exact isOpen.apart location leads
        writable := Disk.exists_writeText_of_writeText wrote "" }

def ready (disk : Disk) (drawn : Nat) : Machine :=
  { numbering disk drawn with ids := (Registry.builtin.run ⟨toString, drawn⟩).2 }

theorem libraryRun_onNumbering {disk : Disk} {memory : Library} {drawn : Nat}
    {action : LibraryAction} (isOpen : IsOpen disk)
    (apart : ∀ output, action.output? = some output → disk.Apart "kept.json" output) :
    LibraryRun "kept.json" memory (numbering disk drawn) (ready disk drawn)
      (onNumbering disk drawn action).2 action (onNumbering disk drawn action).1 where
  clock := Timestamp.isValid_midnight .epoch
  ran := ⟨"templates", _, Files.runOn_loadRegistry_of_missing isOpen.noPresets, rfl⟩
  writable _ := ⟨"", isOpen.writable⟩
  apart := apart

theorem onNumbering_session {disk : Disk} {memory : Library}
    (session : LibrarySession "kept.json" disk memory) (isOpen : IsOpen disk) (drawn : Nat)
    (action : LibraryAction) (noOutput : action.output? = none) :
    LibrarySession "kept.json" (diskAfter disk drawn action)
      ((action.change? (ready disk drawn) memory).getD memory) :=
  session.ran (libraryRun_onNumbering isOpen fun output isOutput => by
    rw [noOutput] at isOutput
    cases isOutput)

def saved : Disk :=
  diskAfter draftDisk 0 (.save "draft.json" " Draft " "")

def savedAndTaken : Disk :=
  diskAfter saved 10 (.importFrom "shared.json")

def onlyTaken : Disk :=
  diskAfter savedAndTaken 20 (.delete "9")

theorem loads_memory_draft :
    (∃ memory library, LibrarySession "kept.json" onlyTaken memory ∧
        memory.contents = [("19", "Shared", "", Document.shape.blank)] ∧
        (Files.loadLibrary "kept.json").runOn (numbering onlyTaken 30) =
          (.ok library, numbering onlyTaken 30) ∧
        library.contents = memory.contents) ∧
      (onNumbering draftDisk 0 (.load "b" "out.json")).1.code = .failure ∧
      ∀ text,
        (diskAfter draftDisk 0 (.load "b" "out.json")).readText "kept.json" = .ok text ↔
          draftDisk.readText "kept.json" = .ok text := by
  have started : LibrarySession "kept.json" draftDisk .empty := .started (by decide +kernel)
  have apart : draftDisk.Apart "kept.json" "out.json" := by
    intro location leads
    cases leads
    nofun
  have isOpen : IsOpen draftDisk :=
    ⟨by decide +kernel, fun location leads => by cases leads; nofun, ⟨_, rfl⟩⟩
  have savedOpen : IsOpen saved := isOpen_onNumbering isOpen 0 rfl
  have takenOpen : IsOpen savedAndTaken := isOpen_onNumbering savedOpen 10 rfl
  have savedSession := onNumbering_session started isOpen 0 (.save "draft.json" " Draft " "") rfl
  have takenSession := onNumbering_session savedSession savedOpen 10 (.importFrom "shared.json") rfl
  have session := onNumbering_session takenSession takenOpen 20 (.delete "9") rfl
  rcases session.loads_memory.1 (numbering onlyTaken 30).ids (numbering onlyTaken 30).now with
    ⟨library, loads, same⟩
  refine ⟨⟨_, library, session, by decide +kernel, loads, same⟩, by decide +kernel, ?_⟩
  have fails : LibraryRun "kept.json" .empty (numbering draftDisk 0) _ _ (.load "b" "out.json") _ :=
    libraryRun_onNumbering isOpen fun output isOutput => Option.some.inj isOutput ▸ apart
  exact (started.loads_memory.2 _ _ _ _ _ rfl fails).2 rfl

end LibrarySession

end Bulletin
