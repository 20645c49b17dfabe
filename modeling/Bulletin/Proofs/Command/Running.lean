import Bulletin.Proofs.Command.Atomicity
import Bulletin.Proofs.Storage.Presets
/-!
# Commands on a machine

A command that is run on a machine in memory is run on the presets that were read before, on a
machine with the same files. Without the presets, it fails.
-/

namespace Bulletin

namespace Machine

def document? (machine : Machine) (path : RawText) : Option Document :=
  ((Files.loadDocument path).runOn machine).1.toOption

theorem document?_eq_some {machine : Machine} {path : RawText} {document : Document} :
    machine.document? path = some document ↔
      ∃ text, machine.disk.readText path = .ok text ∧
        Document.format.parse text = .ok document := by
  rw [document?, Outcome.toOption_eq_some]
  constructor
  · intro loads
    exact Files.parse_of_runOn_readJson (Prod.ext loads rfl)
  · rintro ⟨text, there, parsed⟩
    exact congrArg Prod.fst (Files.runOn_readJson there parsed)

theorem isProper_of_document? {machine : Machine} {path : RawText} {document : Document}
    (loads : machine.document? path = some document) : document.IsProper := by
  rcases document?_eq_some.mp loads with ⟨text, -, parsed⟩
  exact Document.yields_isProper.parse parsed

theorem loadDocument_ready {directory path : RawText} {machine ready : Machine}
    {registry : Registry} {document : Document}
    (presets : (Files.loadRegistry directory).runOn machine = (.ok registry, ready))
    (loads : machine.document? path = some document) :
    ready.disk = machine.disk ∧
      (Files.loadDocument path).runOn ready = (.ok document, ready) := by
  have sameDisk : ready.disk = machine.disk := by rw [(Files.loaded_eq presets).2]
  rcases document?_eq_some.mp loads with ⟨text, there, parsed⟩
  exact ⟨sameDisk, Files.runOn_readJson (sameDisk ▸ there) parsed⟩

end Machine

namespace Invocation

variable {directory : RawText} {command : Command} {machine : Machine}

def runOn (invocation : Invocation) (machine : Machine) : Outcome × Machine :=
  Machine.running.run invocation.run machine

theorem runOn_eq (invocation : Invocation) (machine : Machine) :
    invocation.runOn machine =
      match (invocation.task : Task (StateM Machine) Outcome).runOn machine with
      | (.ok outcome, after) => (outcome, after)
      | (.error failure, after) => (.failed .failure failure, after) := by
  have same : Machine.running.run (invocation.task : Task (StateM Machine) Outcome).run machine =
      (invocation.task : Task (StateM Machine) Outcome).runOn machine := rfl
  rw [runOn, run_eq, same]
  rcases (invocation.task : Task (StateM Machine) Outcome).runOn machine with ⟨_ | _, after⟩ <;> rfl

theorem runOn_of_loaded {registry : Registry} {ready : Machine}
    (presets : (Files.loadRegistry directory).runOn machine = (.ok registry, ready)) :
    runOn ⟨directory, command⟩ machine =
      match (command.run registry : Task (StateM Machine) Outcome).runOn ready with
      | (.ok outcome, after) => (outcome, after)
      | (.error failure, after) => (.failed .failure failure, after) := by
  rw [runOn_eq, task, Task.runOn_bind, presets]

theorem exists_loaded_of_code
    (noFailure : (runOn ⟨directory, command⟩ machine).1.code ≠ .failure) :
    ∃ registry ready,
      (Files.loadRegistry directory).runOn machine = (.ok registry, ready) := by
  cases presets : (Files.loadRegistry directory).runOn machine with
  | mk result ready =>
      cases result with
      | ok registry => exact ⟨registry, ready, rfl⟩
      | error failure =>
          rw [runOn_eq, task, Task.runOn_bind, presets] at noFailure
          exact absurd rfl noFailure

end Invocation

end Bulletin
