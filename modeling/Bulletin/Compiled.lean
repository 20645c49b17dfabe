import Bulletin.Check.Rules
import Bulletin.Document.Format
import Bulletin.Failure
import Bulletin.Page.Document
/-!
# Compiled documents

A checked page with the manifest that describes it. A document with errors is refused; warnings
are carried along.
-/

namespace Bulletin

def engineVersion : String := "1.0.0"

structure Compiled where
  html : String
  documentFingerprint : String
  sectionCount : Nat
  widgetCount : Nat
  report : Report
deriving DecidableEq, Repr

namespace Compiled

def fingerprint (compiled : Compiled) : String :=
  Digest.ofText compiled.html

/-- The manifest: everything but the page itself. -/
def manifest (compiled : Compiled) : Json :=
  .record
    [("engine_version", .text engineVersion),
      ("config_hash", .text compiled.documentFingerprint),
      ("content_hash", .text compiled.fingerprint),
      ("section_count", .count compiled.sectionCount),
      ("widget_count", .count compiled.widgetCount), ("validation", compiled.report.toJson)]

end Compiled

def Document.compile (document : Document) : Except Failure Compiled :=
  let report := document.check
  if report.hasErrors then .error (.invalidDocument report.errors)
  else
    .ok
      { html := document.html
        documentFingerprint := document.fingerprint
        sectionCount := document.sections.length
        widgetCount := document.widgetCount
        report }

end Bulletin
