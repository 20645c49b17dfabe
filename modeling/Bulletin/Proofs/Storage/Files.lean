import Bulletin.Proofs.Document.Accepted
import Bulletin.Proofs.Document.Layout
import Bulletin.Proofs.Document.RoundTrip
import Bulletin.Proofs.Storage.Disk
import Bulletin.Storage.Files
/-!
# Files written and read again

What a task does on a machine in memory. A value that is written to a file is read back from it,
where its format reads it back from its text.
-/

namespace Bulletin

namespace Task

def runOn (task : Task (StateM Machine) α) (machine : Machine) : Except Failure α × Machine :=
  ExceptT.run task machine

theorem runOn_bind {α β : Type} (first : Task (StateM Machine) α)
    (next : α → Task (StateM Machine) β) (machine : Machine) :
    (first >>= next).runOn machine =
      match first.runOn machine with
      | (.ok value, after) => (next value).runOn after
      | (.error failure, after) => (.error failure, after) := by
  simp only [runOn, ExceptT.run, bind, ExceptT.bind, ExceptT.mk, ExceptT.bindCont, StateT.bind]
  rcases first machine with ⟨_ | _, after⟩ <;> rfl

theorem runOn_lift {α : Type} (answer : StateM Machine α) (machine : Machine) :
    (liftM answer : Task (StateM Machine) α).runOn machine =
      (.ok (answer machine).1, (answer machine).2) := rfl

theorem runOn_now (machine : Machine) :
    (liftM (Host.now : StateM Machine Timestamp) : Task (StateM Machine) Timestamp).runOn machine =
      (.ok machine.now, machine) := rfl

theorem runOn_atPath {α : Type} (path : RawText) (answer : StateM Machine (Except FileFault α))
    (machine : Machine) :
    (atPath path answer).runOn machine =
      match answer machine with
      | (.ok value, after) => (.ok value, after)
      | (.error fault, after) => (.error (.file path fault), after) := by
  rw [atPath, runOn_bind, runOn_lift]
  rcases answer machine with ⟨_ | _, after⟩ <;> rfl

theorem runOn_readText (path : RawText) (machine : Machine) :
    (readText path).runOn machine =
      ((machine.disk.readText path).mapError (Failure.file path), machine) := by
  have answered : (Host.readText path : StateM Machine _) machine =
      (machine.disk.readText path, machine) := rfl
  rw [readText, runOn_atPath, answered]
  cases machine.disk.readText path <;> rfl

theorem runOn_writeText (path : RawText) (text : String) (machine : Machine) :
    (writeText path text).runOn machine =
      match machine.disk.writeText path text with
      | .ok disk => (.ok (), { machine with disk })
      | .error fault => (.error (.file path fault), machine) := by
  rw [writeText, runOn_atPath]
  simp only [Host.writeText]
  cases machine.disk.writeText path text <;> rfl

theorem runOn_draw {α : Type} (computation : Fresh (Except Failure α)) (machine : Machine) :
    (draw computation).runOn machine =
      ((computation.run machine.ids).1, { machine with ids := (computation.run machine.ids).2 }) :=
  rfl

theorem writeText_of_runOn {path : RawText} {text : String} {machine saved : Machine}
    (wrote : (writeText path text).runOn machine = (.ok (), saved)) :
    machine.disk.writeText path text = .ok saved.disk ∧ saved.now = machine.now := by
  rw [runOn_writeText] at wrote
  cases written : machine.disk.writeText path text with
  | ok disk =>
      rw [written] at wrote
      cases wrote
      exact ⟨rfl, rfl⟩
  | error fault =>
      rw [written] at wrote
      cases wrote

end Task

namespace Files

variable {machine saved : Machine} {path : RawText}

theorem runOn_readJson {format : Json.Format α} {text : String} {result : α}
    (there : machine.disk.readText path = .ok text) (parsed : format.parse text = .ok result) :
    (readJson format path).runOn machine = (.ok result, machine) := by
  rw [readJson, Task.runOn_bind, Task.runOn_readText, there]
  simp only [Except.mapError, parsed]
  rfl

theorem runOn_readJson_after (format : Json.Format α) (path : RawText) (machine : Machine) :
    ((readJson format path).runOn machine).2 = machine := by
  rw [readJson, Task.runOn_bind, Task.runOn_readText]
  cases machine.disk.readText path with
  | error fault => rfl
  | ok text =>
      dsimp only [Except.mapError]
      cases format.parse text <;> rfl

theorem readJson_of_writeJson {value : Json} {format : Json.Format α} {result : α}
    (wrote : (writeJson path value).runOn machine = (.ok (), saved))
    (parsed : format.parse value.pretty = .ok result) :
    (readJson format path).runOn saved = (.ok result, saved) :=
  runOn_readJson (Disk.readText_of_writeText (Task.writeText_of_runOn wrote).1) parsed

theorem runOn_loadLibrary (path : RawText) (machine : Machine) :
    (loadLibrary path).runOn machine =
      if machine.disk.pathExists path then
        (readJson (Library.format machine.now) path).runOn machine
      else (.ok .empty, machine) := by
  have asked : (Host.pathExists path : StateM Machine Bool) machine =
      (machine.disk.pathExists path, machine) := rfl
  rw [loadLibrary, Task.runOn_bind, Task.runOn_lift, asked]
  cases machine.disk.pathExists path with
  | false => rfl
  | true =>
      simp only [if_true]
      rw [Task.runOn_bind, Task.runOn_now]

theorem parse_of_runOn_readJson {format : Json.Format α} {result : α}
    (read : (readJson format path).runOn machine = (.ok result, saved)) :
    ∃ text, machine.disk.readText path = .ok text ∧ format.parse text = .ok result := by
  rw [readJson, Task.runOn_bind, Task.runOn_readText] at read
  cases there : machine.disk.readText path with
  | error fault =>
      rw [there] at read
      cases read
  | ok text =>
      simp only [there, Except.mapError] at read
      refine ⟨text, rfl, ?_⟩
      cases parsed : format.parse text with
      | ok value =>
          rw [parsed] at read
          cases read
          rfl
      | error error =>
          rw [parsed] at read
          cases read

end Files

namespace Document

/-- A document that was read from any text, or whose variants are proper, is restored from its
pretty text, from its compact text, and from every file that it is saved to. -/
theorem loadDocument_of_saveDocument {document : Document}
    (proper : (∃ text, format.parse text = .ok document) ∨ document.IsProper) :
    format.parse document.toJson.pretty = .ok document ∧
      format.parse document.toJson.compact = .ok document ∧
      ∀ path machine saved,
        (Files.saveDocument path document).runOn machine = (.ok (), saved) →
          (Files.loadDocument path).runOn saved = (.ok document, saved) := by
  have isProper : document.IsProper := by
    rcases proper with ⟨text, parsed⟩ | proper
    · exact yields_isProper.parse parsed
    · exact proper
  refine ⟨parse_pretty isProper, parse_compact isProper, ?_⟩
  intro path machine saved wrote
  exact Files.readJson_of_writeJson wrote (parse_pretty isProper)

theorem loadDocument_of_saveDocument_specimen :
    (specimen "\"\\\n\u0001").IsProper ∧
      format.parse (specimen "\"\\\n\u0001").toJson.pretty = .ok (specimen "\"\\\n\u0001") ∧
      format.parse (specimen "\"\\\n\u0001").toJson.compact = .ok (specimen "\"\\\n\u0001") ∧
      ∃ machine saved,
        (Files.saveDocument "news.json" (specimen "\"\\\n\u0001")).runOn machine =
            (.ok (), saved) ∧
          (Files.loadDocument "news.json").runOn saved =
            (.ok (specimen "\"\\\n\u0001"), saved) := by
  have proper : (specimen "\"\\\n\u0001").IsProper := by
    simp [IsProper, specimen, Section.IsProper, WidgetBody.specimens, Widget.IsProper,
      WidgetBody.IsProper, LinkButton.IsProper, ButtonVariant.IsProper, NoticeVariant.IsProper,
      HeadingLevel.IsProper]
  rcases loadDocument_of_saveDocument (.inr proper) with ⟨pretty, compact, files⟩
  have saves :
      (Files.saveDocument "news.json" (specimen "\"\\\n\u0001")).runOn
          ⟨.empty, .ofSeed "", .midnight .epoch⟩ =
        (.ok (), ⟨⟨[(["news.json"], .file (.text (specimen "\"\\\n\u0001").toJson.pretty))]⟩,
          .ofSeed "", .midnight .epoch⟩) := rfl
  exact ⟨proper, pretty, compact, _, _, saves, files _ _ _ saves⟩

end Document

end Bulletin
