import Bulletin.Proofs.Command.Agreement
import Bulletin.Proofs.Command.InPlace
import Bulletin.Proofs.Library.Removal
/-!
# Exit codes

A command tells by its code how it ended, and most commands tell it in their answer too. The two are
of one mind, but for one command: the deletion of an entry that a library does not have is told as
no success, and yet ends like one.
-/

namespace Bulletin

variable {m : Type → Type} [Host m] {σ : Type} {running : Host.Running m σ}

/-! ## Answers -/

namespace Outcome

/-- If an answer tells of success or of none, so does the code. -/
def IsHonest (outcome : Outcome) : Prop :=
  ∀ flag, outcome.told? ["success"] = some (.boolean flag) →
    (flag = true ↔ outcome.code = .success)

theorem isHonest_of_untold {outcome : Outcome} (untold : outcome.told? ["success"] = none) :
    outcome.IsHonest := by
  intro flag told
  rw [untold] at told
  cases told

theorem isHonest_of_told {outcome : Outcome}
    (told : outcome.told? ["success"] = some (.boolean true)) (success : outcome.code = .success) :
    outcome.IsHonest := by
  intro flag sameFlag
  rw [told] at sameFlag
  cases sameFlag
  exact iff_of_true rfl success

theorem isHonest_wrote (path : RawText) {details : List (String × Json)}
    (told : ∀ text : String, (success (("output", .text text) :: details)).told? ["success"] =
      some (.boolean true)) : (wrote path details).IsHonest := by
  rw [wrote]
  split
  · exact isHonest_of_told (told _) rfl
  · exact isHonest_of_untold rfl

theorem isHonest_failed {code : ExitCode} (noSuccess : code ≠ .success) (failure : Failure) :
    (failed code failure).IsHonest := by
  intro flag told
  cases told
  exact iff_of_false Bool.false_ne_true noSuccess

end Outcome

def LibraryAction.deletion (id : String) (deleted : Bool) : Outcome :=
  .ofAnswer (Json.record [("id", .text id), ("success", .boolean deleted)])

/-! ## Commands -/

open Host.Running

theorem gives_wrote {first : Task m α} {path : α → RawText} {details : α → List (String × Json)}
    (told : ∀ value (text : String),
      (Outcome.success (("output", .text text) :: details value)).told? ["success"] =
        some (.boolean true)) :
    running.Gives Outcome.IsHonest
      (first >>= fun value => pure (Outcome.wrote (path value) (details value))) :=
  gives_bind fun value => gives_pure (Outcome.isHonest_wrote (path value) (told value))

namespace LibraryAction

theorem gives_deletion (path : RawText) (library : Library) (id : String) :
    running.Gives (fun outcome => outcome = deletion id (library.delete id).1)
      (run path library (.delete id) : Task m Outcome) := by
  rw [run]
  dsimp only
  split
  · exact gives_bind fun _ => gives_pure rfl
  · exact gives_pure rfl

theorem gives_run (path : RawText) (library : Library) {action : LibraryAction}
    (noDeletion : ∀ id, action ≠ .delete id) :
    running.Gives Outcome.IsHonest (action.run path library : Task m Outcome) := by
  cases action with
  | list => exact gives_pure (Outcome.isHonest_of_untold rfl)
  | save input name description =>
      apply gives_bind
      intro document
      apply gives_bind
      intro now
      apply gives_bind
      rintro ⟨saved, library⟩
      exact gives_bind fun _ => gives_pure (Outcome.isHonest_of_told rfl rfl)
  | load id output =>
      apply gives_bind
      intro document
      exact gives_wrote fun _ _ => rfl
  | delete id => exact absurd rfl (noDeletion id)
  | exportTo output => exact gives_wrote fun _ _ => rfl
  | importFrom input =>
      apply gives_bind
      intro text
      apply gives_bind
      intro now
      apply gives_bind
      rintro ⟨count, library⟩
      exact gives_bind fun _ => gives_pure (Outcome.isHonest_of_told rfl rfl)

end LibraryAction

namespace Command

theorem gives_runNew (output : RawText) (force : Bool) :
    running.Gives Outcome.IsHonest (runNew output force : Task m Outcome) := by
  apply gives_bind
  intro present
  dsimp only
  split
  · exact gives_bind fun _ => gives_wrote fun _ _ => rfl
  · exact gives_wrote fun _ _ => rfl

theorem gives_runCompile (input output : RawText) (strict : Bool) :
    running.Gives Outcome.IsHonest (runCompile input output strict : Task m Outcome) := by
  apply gives_bind
  intro document
  cases strict with
  | true =>
      cases document.compile with
      | ok compiled => exact gives_wrote fun _ _ => rfl
      | error failure => exact gives_pure (Outcome.isHonest_failed (by decide) failure)
  | false => exact gives_wrote fun _ _ => rfl

theorem gives_run (registry : Registry) {command : Command}
    (noDeletion : ∀ path id, command ≠ .library path (.delete id)) :
    running.Gives Outcome.IsHonest (command.run registry : Task m Outcome) := by
  cases command with
  | new output force => exact gives_runNew output force
  | compile input output strict => exact gives_runCompile input output strict
  | check input => exact gives_bind fun document => gives_pure (Outcome.isHonest_of_untold rfl)
  | themes => exact gives_pure (Outcome.isHonest_of_untold rfl)
  | widgets => exact gives_pure (Outcome.isHonest_of_untold rfl)
  | applyTheme input themeId output =>
      apply gives_bind
      intro document
      apply gives_bind
      intro themed
      exact gives_wrote fun _ _ => rfl
  | addWidget input sectionId presetId =>
      apply gives_bind
      intro document
      apply gives_bind
      intro widget
      cases document.section? sectionId with
      | some part => exact gives_bind fun _ => gives_pure (Outcome.isHonest_of_told rfl rfl)
      | none => exact gives_throw _
  | library path action =>
      apply gives_bind
      intro library
      exact LibraryAction.gives_run path library fun id same => noDeletion path id (same ▸ rfl)

def DeletesNothing (running : Host.Running m σ) (command : Command) (state : σ) : Prop :=
  ∃ path id library loaded, command = .library path (.delete id) ∧
    running.run (Files.loadLibrary path : Task m _).run state = (.ok library, loaded) ∧
    ∀ saved ∈ library.entries, saved.id ≠ id

theorem run_of_deletesNothing {command : Command} {state : σ}
    (nothing : command.DeletesNothing running state) (registry : Registry) :
    ∃ id after, running.run (command.run registry : Task m Outcome).run state =
      (.ok (LibraryAction.deletion id false), after) := by
  rcases nothing with ⟨path, id, library, loaded, rfl, loads, others⟩
  have untold : (library.delete id).1 = false := by
    rw [← Bool.not_eq_true, (library.removal_delete id).told]
    rintro ⟨saved, member, same⟩
    exact others saved member same
  refine ⟨id, loaded, ?_⟩
  rw [run, run_task_bind, loads]
  dsimp only
  rw [LibraryAction.run]
  dsimp only
  rw [untold, if_neg Bool.false_ne_true, run_task_pure]
  rfl

theorem isHonest_or_deletesNothing {registry : Registry} {command : Command} {state : σ}
    {outcome : Outcome}
    (given : (running.run (command.run registry : Task m Outcome).run state).1 = .ok outcome) :
    outcome.IsHonest ∨ command.DeletesNothing running state := by
  by_cases isDeletion : ∃ path id, command = .library path (.delete id)
  · rcases isDeletion with ⟨path, id, rfl⟩
    rw [run, run_task_bind] at given
    cases loads : running.run (Files.loadLibrary path : Task m _).run state with
    | mk result loaded =>
        rw [loads] at given
        cases result with
        | error failure => cases given
        | ok library =>
            rw [LibraryAction.gives_deletion path library id loaded outcome given]
            cases told : (library.delete id).1 with
            | true => exact .inl (Outcome.isHonest_of_told rfl rfl)
            | false =>
                refine .inr ⟨path, id, library, loaded, rfl, loads, ?_⟩
                intro saved member same
                rw [(library.removal_delete id).told.mpr ⟨saved, member, same⟩] at told
                cases told
  · push Not at isDeletion
    exact .inl (gives_run registry isDeletion state outcome given)

theorem gives_runCheck (input : RawText) :
    running.Gives
      (fun outcome => ∀ valid, outcome.told? ["valid"] = some (.boolean valid) →
        outcome.code = if valid then .success else .refused)
      (runCheck input : Task m Outcome) := by
  apply gives_bind
  intro document
  apply gives_pure
  intro valid told
  cases told
  rfl

end Command

/-! ## Command lines -/

namespace Invocation

def DeletesNothing (running : Host.Running m σ) (invocation : Invocation) (state : σ) : Prop :=
  ∃ registry ready,
    running.run (Files.loadRegistry invocation.presetDirectory : Task m _).run state =
      (.ok registry, ready) ∧ invocation.command.DeletesNothing running ready

theorem failed_or_given (running : Host.Running m σ) (invocation : Invocation) (state : σ) :
    (∃ failure, (running.run (invocation.run : m Outcome) state).1 = .failed .failure failure) ∨
      ∃ registry ready,
        running.run (Files.loadRegistry invocation.presetDirectory : Task m _).run state =
          (.ok registry, ready) ∧
        (running.run (invocation.command.run registry : Task m Outcome).run ready).1 =
          .ok (running.run (invocation.run : m Outcome) state).1 := by
  rw [run_eq, task, run_task_bind]
  cases presets :
      running.run (Files.loadRegistry invocation.presetDirectory : Task m _).run state with
  | mk result ready =>
      cases result with
      | error failure => exact .inl ⟨failure, rfl⟩
      | ok registry =>
          dsimp only
          cases answered :
              running.run (invocation.command.run registry : Task m Outcome).run ready with
          | mk result after =>
              cases result with
              | error failure => exact .inl ⟨failure, rfl⟩
              | ok outcome => exact .inr ⟨registry, ready, rfl, by rw [answered]⟩

theorem outcome_of_deletesNothing {invocation : Invocation} {state : σ}
    (nothing : invocation.DeletesNothing running state) :
    ∃ id, (running.run (invocation.run : m Outcome) state).1 =
      LibraryAction.deletion id false := by
  rcases nothing with ⟨registry, ready, presets, nothing⟩
  rcases Command.run_of_deletesNothing nothing registry with ⟨id, after, ran⟩
  refine ⟨id, ?_⟩
  rw [run_eq, task, run_task_bind, presets]
  dsimp only
  rw [ran]

theorem isHonest_or_deletesNothing (running : Host.Running m σ) (invocation : Invocation)
    (state : σ) :
    (running.run (invocation.run : m Outcome) state).1.IsHonest ∨
      invocation.DeletesNothing running state := by
  rcases failed_or_given running invocation state with
    ⟨failure, failed⟩ | ⟨registry, ready, presets, given⟩
  · rw [failed]
    exact .inl (Outcome.isHonest_failed (by decide) failure)
  · rcases Command.isHonest_or_deletesNothing given with honest | nothing
    · exact .inl honest
    · exact .inr ⟨registry, ready, presets, nothing⟩

/-- An answer that tells of success comes with the code 0. One that tells of none comes with
another, unless an entry was to be deleted that its library does not have; that always ends with
the code 0 and is told as no success. A check ends with the code 0 if it tells that the document is
valid, and with the code 2 if it tells that it is not. -/
theorem code_of_answer (running : Host.Running m σ) (invocation : Invocation) (state : σ) :
    let outcome := (running.run (invocation.run : m Outcome) state).1
    (outcome.told? ["success"] = some (.boolean true) → outcome.code.value = 0) ∧
      (outcome.told? ["success"] = some (.boolean false) →
        (outcome.code.value = 0 ↔ invocation.DeletesNothing running state)) ∧
      (invocation.DeletesNothing running state →
        outcome.told? ["success"] = some (.boolean false)) ∧
      ∀ input, invocation.command = .check input →
        ∀ valid, outcome.told? ["valid"] = some (.boolean valid) →
          outcome.code.value = if valid then 0 else 2 := by
  have told (nothing : invocation.DeletesNothing running state) :
      (running.run (invocation.run : m Outcome) state).1.told? ["success"] =
          some (.boolean false) ∧
        (running.run (invocation.run : m Outcome) state).1.code = .success := by
    rcases outcome_of_deletesNothing nothing with ⟨id, deletion⟩
    rw [deletion]
    exact ⟨rfl, rfl⟩
  simp only [ExitCode.value_eq_zero_iff]
  refine ⟨?_, ?_, fun nothing => (told nothing).1, ?_⟩
  · intro success
    rcases isHonest_or_deletesNothing running invocation state with honest | nothing
    · exact (honest true success).mp rfl
    · rw [(told nothing).1] at success
      cases success
  · intro noSuccess
    constructor
    · intro code
      rcases isHonest_or_deletesNothing running invocation state with honest | nothing
      · cases (honest false noSuccess).mpr code
      · exact nothing
    · exact fun nothing => (told nothing).2
  · intro input isCheck valid verdict
    rcases failed_or_given running invocation state with
      ⟨failure, failed⟩ | ⟨registry, ready, -, given⟩
    · rw [failed] at verdict
      cases verdict
    · rw [isCheck] at given
      have code := @Command.gives_runCheck m _ σ running input ready _ given valid verdict
      rw [code]
      cases valid <;> rfl

def bareMachine : Machine :=
  ⟨⟨[]⟩, .ofSeed "", .midnight .epoch⟩

def deletion (id : String) : Invocation :=
  ⟨"templates", .library "email-templates.json" (.delete id)⟩

theorem code_of_answer_absent :
    (deletion "zz").DeletesNothing Machine.running bareMachine ∧
      (Machine.running.run (deletion "zz").run bareMachine).1.told? ["success"] =
        some (.boolean false) ∧
      (Machine.running.run (deletion "zz").run bareMachine).1.code.value = 0 := by
  -- A library file that is not there is an empty library.
  have loads (ready : Machine) (noFile : ready.disk = bareMachine.disk) :
      (Files.loadLibrary "email-templates.json").runOn ready = (.ok .empty, ready) := by
    rw [Files.runOn_loadLibrary, noFile]
    rfl
  have nothing : (deletion "zz").DeletesNothing Machine.running bareMachine :=
    ⟨_, _, rfl, "email-templates.json", "zz", .empty, _, rfl, loads _ rfl, nofun⟩
  rcases code_of_answer Machine.running (deletion "zz") bareMachine with ⟨-, code, told, -⟩
  exact ⟨nothing, told nothing, (code (told nothing)).mpr nothing⟩

end Invocation

end Bulletin
