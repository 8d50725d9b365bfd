import SourceAudit.Json
import SourceAudit.Report

/-!
# The report as JSON

The machine-readable report: the three counts, the messages of each file in the order the files
were added, and whether the run passed. The failure of a rule also names the rule.
-/

namespace SourceAudit

open Text (Spelled)

variable {σ : Type} [Spelled σ]

def Message.toJson (m : Message σ) : Json :=
  .object <|
    ("kind", .string m.finding.label) ::
    ("severity", .string m.severity.label) ::
    ("path", .string (Spelled.glyphs m.path)) ::
    ("line", Json.ofInt? m.line) ::
    ("column", Json.ofInt? m.column) ::
    ("text", .string (Spelled.glyphs m.text)) ::
    match m.finding with
    | .rule name => [("rule", Json.ofValue name)]
    | _ => []

namespace Report

def summaryJson (r : Report σ) : Json :=
  .object
    [("files", .int r.numberOfFiles), ("errors", .int r.errorCount),
     ("warnings", .int r.warningCount)]

def toJson (r : Report σ) : Json :=
  .object
    [("summary", r.summaryJson),
     ("files", .object (r.entries.map fun e =>
       (Spelled.glyphs e.1, .array (e.2.map Message.toJson)))),
     ("passed", .bool r.passed)]

/-- The text of the machine-readable report. -/
def payload (r : Report σ) : String :=
  r.toJson.text

end Report

end SourceAudit
