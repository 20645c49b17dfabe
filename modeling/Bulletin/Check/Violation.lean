import Bulletin.Json.Format
/-!
# Violations

What a check reports: a rule that a document breaks, how severe that is, where it happens and what
to do about it. A report is valid when nothing in it is an error.
-/

namespace Bulletin

open Json (Choice Format RecordShape)

inductive Severity where
  | error
  | warning
  | info
deriving DecidableEq, Repr

namespace Severity

def name : Severity → String
  | .error => "error"
  | .warning => "warning"
  | .info => "info"

def choice : Choice Severity where
  names := [.error, .warning, .info].map fun severity => (severity.name, severity)

end Severity

structure Violation where
  rule : String
  severity : Severity
  message : String
  location : String
  remediation : List String
deriving DecidableEq, Repr

namespace Violation

def isError (violation : Violation) : Bool :=
  violation.severity = .error

def summary (violation : Violation) : String :=
  violation.rule ++ " at " ++ violation.location ++ ": " ++ violation.message

def shape : RecordShape Violation where
  name := "struct ValidationViolation"
  blank := ⟨"", .error, "", "", []⟩
  fields :=
    [.required "rule" .text fun rule violation => { violation with rule },
      .required "severity" Severity.choice.format fun severity violation =>
        { violation with severity },
      .required "message" .text fun message violation => { violation with message },
      .required "location" .text fun location violation => { violation with location },
      .required "remediation" (.list .text) fun remediation violation =>
        { violation with remediation }]

def toJson (violation : Violation) : Json :=
  .record
    [("rule", .text violation.rule), ("severity", .text violation.severity.name),
      ("message", .text violation.message), ("location", .text violation.location),
      ("remediation", .list (violation.remediation.map .text))]

end Violation

structure Report where
  valid : Bool
  violations : List Violation
deriving DecidableEq, Repr

namespace Report

def ofViolations (violations : List Violation) : Report :=
  ⟨!violations.any Violation.isError, violations⟩

def errors (report : Report) : List Violation :=
  report.violations.filter Violation.isError

def hasErrors (report : Report) : Bool :=
  !report.errors.isEmpty

def shape : RecordShape Report where
  name := "struct ValidationResult"
  blank := ⟨false, []⟩
  fields :=
    [.required "valid" .flag fun valid report => { report with valid },
      .required "violations" (.list Violation.shape.format) fun violations report =>
        { report with violations }]

def toJson (report : Report) : Json :=
  .record
    [("valid", .boolean report.valid),
      ("violations", .list (report.violations.map Violation.toJson))]

end Report

end Bulletin
