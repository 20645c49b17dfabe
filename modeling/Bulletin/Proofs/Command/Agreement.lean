import Bulletin.Proofs.Check.Unknown
import Bulletin.Proofs.Command.Running
import Bulletin.Proofs.Digest
import Mathlib.Tactic.TFAE
/-!
# Checking and compiling

A document is checked, compiled strictly and compiled plainly. The check and the strict command
give the same verdict, which is about unknown widgets alone, and both kinds of compilation write
the same page, if they write. Both crash behind the write where the path of the page is no text.
-/

namespace Bulletin

/-- The value that some keys lead to, through the first member of each. -/
def Json.at? : List String → Json → Option Json
  | [], value => some value
  | key :: keys, .object members => (members.toList.lookup key).bind (Json.at? keys)
  | _ :: _, _ => none

def Outcome.told? (outcome : Outcome) (keys : List String) : Option Json :=
  outcome.answer.bind (·.at? keys)

/-! ## Pages -/

namespace Files

variable {machine : Machine} {path : RawText} {html : String} {written : Disk}

theorem runOn_writePage (wrote : machine.disk.writeText path html = .ok written) :
    (writePage path html).runOn machine = (.ok path, { machine with disk := written }) := by
  have asked : (Host.isDirectory path : StateM Machine Bool) machine =
      (machine.disk.isDirectory path, machine) := rfl
  rw [writePage, Task.runOn_bind, Task.runOn_lift, asked, Disk.isDirectory_of_writeText wrote]
  dsimp only
  rw [if_neg Bool.false_ne_true, Task.runOn_bind, Task.runOn_writeText, wrote]
  rfl

end Files

namespace Document

variable {document : Document}

theorem html_of_compile {compiled : Compiled} (compiles : document.compile = .ok compiled) :
    compiled.html = document.html := by
  rw [compile] at compiles
  split at compiles
  · cases compiles
  · rw [← Except.ok.inj compiles]

theorem exists_compile_iff :
    (∃ compiled, document.compile = .ok compiled) ↔ document.check.hasErrors = false := by
  cases errors : document.check.hasErrors <;> simp [compile, errors]

theorem compile_of_hasErrors (errors : document.check.hasErrors = true) :
    document.compile = .error (.invalidDocument document.check.errors) :=
  if_pos errors

theorem hasErrors_of_compile {failure : Failure} (fails : document.compile = .error failure) :
    document.check.hasErrors = true := by
  rw [compile] at fails
  split at fails
  · assumption
  · cases fails

def unknownLine (place : WidgetPlace) (widget : Widget) : String :=
  "unknown_widget at " ++ place.location ++ ": " ++
    ("Widget '" ++ widget.id ++ "' has an unrecognized type")

theorem summary_unknownWidget (place : WidgetPlace) (widget : Widget) :
    (Finding.unknownWidget place widget.id).violation.summary = unknownLine place widget := by
  have rule : "unknown_widget at " = "unknown_widget" ++ " at " := by decide
  unfold unknownLine
  rw [rule, ← WidgetPlace.text_eq]
  rfl

theorem message_of_compile {failure : Failure} (fails : document.compile = .error failure) :
    failure.message =
      "Invalid document: " ++ String.intercalate "; "
        (document.placedUnknowns.map fun (place, widget) => unknownLine place widget) := by
  have lines : document.check.errors.map Violation.summary =
      document.placedUnknowns.map fun (place, widget) => unknownLine place widget := by
    rw [errors_check, unknownWidgets_eq, List.map_map, List.map_map]
    apply List.map_congr_left
    rintro ⟨place, widget⟩ -
    exact summary_unknownWidget place widget
  rw [compile] at fails
  split at fails
  · cases fails
    rw [← lines]
    rfl
  · cases fails

end Document

/-! ## Commands -/

/-- A document in a file, and where its page is to be written. -/
structure PageJob where
  presetDirectory : RawText
  input : RawText
  output : RawText
  document : Document
  machine : Machine

namespace PageJob

def run (job : PageJob) (command : Command) : Outcome × Machine :=
  Machine.running.run (Invocation.run ⟨job.presetDirectory, command⟩) job.machine

/-- The presets and the document can be read, and the output can be written. -/
structure IsReady (job : PageJob) : Prop where
  presets : ∃ registry ready,
    (Files.loadRegistry job.presetDirectory).runOn job.machine = (.ok registry, ready)
  loads : ((Files.loadDocument job.input).runOn job.machine).1 = .ok job.document
  writable : ∃ text written, job.machine.disk.writeText job.output text = .ok written

/-- A page is written to the output. The answer tells the output and the digest of the page, and
where the output is no text, there is no answer, but a crash. -/
structure Delivers (job : PageJob) (page : String) (ran : Outcome × Machine) : Prop where
  code : ran.1.code.value = if job.output.text? = none then 101 else 0
  wrote : job.machine.disk.writeText job.output page = .ok ran.2.disk
  holds : ran.2.disk.readText job.output = .ok page
  told (text : String) (isText : job.output.text? = some text) :
    ran.1.told? ["output"] = some (.text text) ∧
      ∃ digest, Sha256.IsDigest page.toUTF8.data.toList digest ∧
        ran.1.told? ["document", "content_hash"] = some (.text digest)
  untold (noText : job.output.text? = none) : ran.1.answer = none

structure Refuses (job : PageJob) (ran : Outcome × Machine) : Prop where
  code : ran.1.code.value = 2
  disk : ran.2.disk = job.machine.disk

structure Agrees (job : PageJob) : Prop where
  verdicts :
    [(job.run (.check job.input)).1.code.value = 0,
      (job.run (.compile job.input job.output true)).1.code.value =
        if job.output.text? = none then 101 else 0,
      ∃ compiled, job.document.compile = .ok compiled,
      ∀ part ∈ job.document.sections, ∀ widget ∈ part.widgets, widget.body ≠ .unknown].TFAE
  refused (failure : Failure) (fails : job.document.compile = .error failure) :
    job.Refuses (job.run (.check job.input)) ∧
      job.Refuses (job.run (.compile job.input job.output true)) ∧
      (job.run (.compile job.input job.output true)).1.told? ["error"] =
        some (.text failure.message)
  unwritten : (job.run (.check job.input)).2.disk = job.machine.disk
  plain : job.Delivers job.document.html (job.run (.compile job.input job.output false))
  strict (compiled : Compiled) (compiles : job.document.compile = .ok compiled) :
    job.Delivers compiled.html (job.run (.compile job.input job.output true)) ∧
      compiled.html = job.document.html
  /-- A refusal lists the unknown widgets in document order, each at its own place. -/
  listed (failure : Failure) (fails : job.document.compile = .error failure) :
    ∃ unknowns : List (WidgetPlace × Widget),
      (unknowns.Pairwise fun first second => first.1.Before second.1) ∧
        (∀ place widget, (place, widget) ∈ unknowns ↔
          job.document.widgetAt? place = some widget ∧ widget.body = .unknown) ∧
        failure.message =
          "Invalid document: " ++ String.intercalate "; "
            (unknowns.map fun (place, widget) => Document.unknownLine place widget)
  located (first second : WidgetPlace) (same : first.location = second.location) : first = second

section IsReady

variable {job : PageJob}

theorem delivers_wrote {page : String} {after : Machine} {details : List (String × Json)}
    (wrote : job.machine.disk.writeText job.output page = .ok after.disk)
    (told : ∀ text : String,
      (Outcome.success (("output", .text text) :: details)).told? ["output"] =
          some (.text text) ∧
        (Outcome.success (("output", .text text) :: details)).told? ["document", "content_hash"] =
          some (.text (Digest.ofText page))) :
    job.Delivers page (.wrote job.output details, after) where
  code := by
    rw [ExitCode.value_eq_told_iff]
    exact Outcome.code_wrote job.output details
  wrote := wrote
  holds := Disk.readText_of_writeText wrote
  told text isText := by
    rw [Outcome.wrote, isText]
    exact ⟨(told text).1, _, (Sha256.isDigest_iff _ _).mpr rfl, (told text).2⟩
  untold noText := by
    rw [Outcome.wrote, noText]

variable (ready : job.IsReady)

include ready

theorem IsReady.exists_run_eq :
    ∃ registry machine, machine.disk = job.machine.disk ∧
      (Files.loadDocument job.input).runOn machine = (.ok job.document, machine) ∧
      ∀ command outcome after,
        (command.run registry : Task (StateM Machine) Outcome).runOn machine =
            (.ok outcome, after) → job.run command = (outcome, after) := by
  rcases ready.presets with ⟨registry, machine, presets⟩
  have loads : job.machine.document? job.input = some job.document :=
    congrArg Except.toOption ready.loads
  rcases Machine.loadDocument_ready presets loads with ⟨sameDisk, loadsReady⟩
  refine ⟨registry, machine, sameDisk, loadsReady, ?_⟩
  intro command outcome after ran
  have runs : job.run command = _ := Invocation.runOn_of_loaded presets
  rw [runs, ran]

theorem IsReady.check_code :
    (job.run (.check job.input)).1.code =
        (if job.document.check.valid then .success else .refused) ∧
      (job.run (.check job.input)).2.disk = job.machine.disk := by
  rcases ready.exists_run_eq with ⟨registry, machine, sameDisk, loads, runs⟩
  rw [runs (.check job.input) ⟨_, _⟩ machine]
  · exact ⟨rfl, sameDisk⟩
  · rw [Command.run, Command.runCheck, Task.runOn_bind, loads]
    rfl

theorem IsReady.delivers_plain :
    job.Delivers job.document.html (job.run (.compile job.input job.output false)) := by
  rcases ready.exists_run_eq with ⟨registry, machine, sameDisk, loads, runs⟩
  rcases ready.writable with ⟨text, others, wroteText⟩
  rcases Disk.exists_writeText wroteText job.document.html with ⟨written, wrote⟩
  rw [runs (.compile job.input job.output false)
    (.wrote job.output [("document", job.document.pageSummary)]) { machine with disk := written }]
  · exact delivers_wrote wrote fun text => ⟨rfl, rfl⟩
  · rw [← sameDisk] at wrote
    rw [Command.run, Command.runCompile, Task.runOn_bind, loads]
    dsimp only
    rw [if_neg Bool.false_ne_true, Task.runOn_bind, Files.runOn_writePage wrote]
    rfl

theorem IsReady.delivers_strict {compiled : Compiled}
    (compiles : job.document.compile = .ok compiled) :
    job.Delivers compiled.html (job.run (.compile job.input job.output true)) := by
  rcases ready.exists_run_eq with ⟨registry, machine, sameDisk, loads, runs⟩
  rcases ready.writable with ⟨text, others, wroteText⟩
  rcases Disk.exists_writeText wroteText compiled.html with ⟨written, wrote⟩
  rw [runs (.compile job.input job.output true)
    (.wrote job.output [("document", compiled.manifest)]) { machine with disk := written }]
  · exact delivers_wrote wrote fun text => ⟨rfl, rfl⟩
  · rw [← sameDisk] at wrote
    rw [Command.run, Command.runCompile, Task.runOn_bind, loads]
    dsimp only
    rw [if_pos rfl, compiles]
    dsimp only
    rw [Task.runOn_bind, Files.runOn_writePage wrote]
    rfl

theorem IsReady.refuses_strict {failure : Failure}
    (fails : job.document.compile = .error failure) :
    job.Refuses (job.run (.compile job.input job.output true)) ∧
      (job.run (.compile job.input job.output true)).1.told? ["error"] =
        some (.text failure.message) := by
  rcases ready.exists_run_eq with ⟨registry, machine, sameDisk, loads, runs⟩
  rw [runs (.compile job.input job.output true) (.failed .refused failure) machine]
  · exact ⟨⟨rfl, sameDisk⟩, rfl⟩
  · rw [Command.run, Command.runCompile, Task.runOn_bind, loads]
    dsimp only
    rw [if_pos rfl, fails]
    rfl

theorem IsReady.check_passes_iff :
    (job.run (.check job.input)).1.code.value = 0 ↔
      ∃ compiled, job.document.compile = .ok compiled := by
  rw [ready.check_code.1, Document.exists_compile_iff, Document.valid_check]
  cases job.document.check.hasErrors <;> decide

theorem IsReady.strict_passes_iff :
    ((job.run (.compile job.input job.output true)).1.code.value =
        if job.output.text? = none then 101 else 0) ↔
      ∃ compiled, job.document.compile = .ok compiled := by
  constructor
  · intro passes
    cases compiles : job.document.compile with
    | ok compiled => exact ⟨compiled, rfl⟩
    | error failure =>
        have refusal := (ready.refuses_strict compiles).1.code
        rw [passes] at refusal
        split at refusal <;> cases refusal
  · rintro ⟨compiled, compiles⟩
    exact (ready.delivers_strict compiles).code

/-- The verdict on a document is the same whoever gives it, and is about unknown widgets alone; the
page is the same whoever writes it. -/
theorem commands_agree : job.Agrees where
  verdicts := by
    tfae_have 1 ↔ 3 := ready.check_passes_iff
    tfae_have 2 ↔ 3 := ready.strict_passes_iff
    tfae_have 3 ↔ 4 := Document.exists_compile_iff.trans Document.hasErrors_check_iff
    tfae_finish
  refused failure fails := by
    have invalid : job.document.check.valid = false := by
      rw [Document.valid_check, Document.hasErrors_of_compile fails, Bool.not_true]
    have code := ready.check_code.1
    rw [invalid] at code
    exact ⟨⟨congrArg ExitCode.value code, ready.check_code.2⟩, ready.refuses_strict fails⟩
  unwritten := ready.check_code.2
  plain := ready.delivers_plain
  strict compiled compiles := ⟨ready.delivers_strict compiles, Document.html_of_compile compiles⟩
  listed failure fails :=
    ⟨job.document.placedUnknowns, (job.document.pairwise_placedWidgets).filter _,
      fun _ _ => Document.mem_placedUnknowns, Document.message_of_compile fails⟩
  located first second same := WidgetPlace.text_injective <| by
    rw [WidgetPlace.text_eq, WidgetPlace.text_eq, same]

end IsReady

def newsMachine (text : String) : Machine :=
  ⟨⟨[(["news.json"], .file (.text text))]⟩, .ofSeed "", .midnight .epoch⟩

def ofWidget (widget : Widget) (output : RawText) : PageJob :=
  let document := { Document.shape.blank with sections := [⟨"", "", [widget], none, none⟩] }
  ⟨"templates", "news.json", output, document, newsMachine document.toJson.compact⟩

theorem isReady_ofWidget {widget : Widget} {output : RawText} (proper : widget.IsProper)
    (writable : ∀ text, ∃ written, (newsMachine text).disk.writeText output "" = .ok written) :
    (ofWidget widget output).IsReady := by
  have presets (text : String) : ∃ registry ready,
      (Files.loadRegistry "templates").runOn (newsMachine text) = (.ok registry, ready) :=
    ⟨_, _, rfl⟩
  have there (text : String) : (newsMachine text).disk.readText "news.json" = .ok text := rfl
  have isProper : (ofWidget widget output).document.IsProper := by
    simpa [ofWidget, Document.IsProper, Section.IsProper] using proper
  have loads := Files.runOn_readJson (there _) (Document.parse_compact isProper)
  exact ⟨presets _, congrArg Prod.fst loads, "", writable _⟩

theorem commands_agree_poll :
    let poll := ofWidget ⟨"p", .unknown⟩ "page.html"
    let rule := ofWidget ⟨"d", .divider⟩ "page.html"
    let unnamed := ofWidget ⟨"d", .divider⟩ Invocation.latinName
    poll.IsReady ∧ poll.Agrees ∧
      (poll.run (.compile poll.input poll.output true)).1.told? ["error"] =
        some (.text ("Invalid document: unknown_widget at sections[0].widgets[0]: " ++
          "Widget 'p' has an unrecognized type")) ∧
      rule.IsReady ∧ rule.Agrees ∧
      (rule.run (.compile rule.input rule.output true)).1.code.value = 0 ∧
      unnamed.IsReady ∧ unnamed.Agrees ∧
      (unnamed.run (.compile unnamed.input unnamed.output true)).1.code.value = 101 := by
  intro poll rule unnamed
  have pollReady : poll.IsReady := isReady_ofWidget trivial fun _ => ⟨_, rfl⟩
  have ruleReady : rule.IsReady := isReady_ofWidget trivial fun _ => ⟨_, rfl⟩
  have unnamedReady : unnamed.IsReady := isReady_ofWidget trivial fun _ => ⟨_, rfl⟩
  have pollAgrees := commands_agree pollReady
  have ruleAgrees := commands_agree ruleReady
  have unnamedAgrees := commands_agree unnamedReady
  have refuses : poll.document.check.hasErrors = true := by decide +kernel
  have passes : rule.document.check.hasErrors = false := by decide +kernel
  have message : (Failure.invalidDocument poll.document.check.errors).message =
      "Invalid document: unknown_widget at sections[0].widgets[0]: " ++
        "Widget 'p' has an unrecognized type" := by decide +kernel
  have told := (pollAgrees.refused _ (Document.compile_of_hasErrors refuses)).2.2
  rcases Document.exists_compile_iff.mpr passes with ⟨compiled, compiles⟩
  refine ⟨pollReady, pollAgrees, ?_, ruleReady, ruleAgrees, ?_, unnamedReady, unnamedAgrees, ?_⟩
  · rw [told, message]
  · rw [(ruleAgrees.strict compiled compiles).1.code]
    decide +kernel
  · rw [(unnamedAgrees.strict compiled compiles).1.code]
    decide +kernel

end PageJob

end Bulletin
