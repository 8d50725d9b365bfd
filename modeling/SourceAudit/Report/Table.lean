import SourceAudit.Report

/-!
# The summary table

The report as text for the console: the counts by severity, the status, the number of files, and
the first messages with their places. When messages are left out, the last line says how many. Lines
and columns are taken to have no more digits than are written (`maxDigits`).
-/

namespace SourceAudit.Report

/-- The text with spaces before it, at least `width` characters wide. -/
def padLeft (width : Nat) (s : String) : String :=
  String.ofList (List.replicate (width - s.length) ' ') ++ s

/-- The text with spaces behind it, at least `width` characters wide. -/
def padRight (width : Nat) (s : String) : String :=
  s ++ String.ofList (List.replicate (width - s.length) ' ')

def ruler (n : Nat) (c : Char) : String :=
  String.ofList (List.replicate n c)

def countRow (label count : String) : String :=
  padRight 10 label ++ " | " ++ padLeft 5 count

def countHeader : String :=
  countRow "Severity" "Count"

/-- Where a message's token stands: the path, with line and column when there is a token. -/
def location (m : Message) : String :=
  match m.token with
  | none => m.path
  | some t => m.path ++ ":" ++ intText t.line ++ ":" ++ intText t.column

def messageLines (m : Message) : List String :=
  ["[" ++ m.severity.label ++ "] " ++ location m ++ " (" ++ m.finding.label ++ ")", "  " ++ m.text]

/-- The first `limit` elements; a negative limit leaves out as many at the end. -/
def takeLimit {α : Type} (limit : Int) (xs : List α) : List α :=
  if limit < 0 then xs.take (xs.length - limit.natAbs) else xs.take limit.toNat

/-- The line about the messages that are left out. -/
def remainder (count : Nat) (limit : Int) : List String :=
  let remaining : Int := count - limit
  if remaining > 0 then ["... " ++ intText remaining ++ " more"] else []

/-- The lines about messages: none for a report without messages. -/
def messageSection (limit : Int) (messages : List Message) : List String :=
  if messages.isEmpty then []
  else
    ["", "Messages", ruler 40 '-'] ++ (takeLimit limit messages).flatMap messageLines ++
      remainder messages.length limit

/-- The lines of the table, with at most `limit` messages. -/
def tableLines (r : Report) (limit : Int) : List String :=
  ["Analysis Summary",
   ruler 40 '=',
   countHeader,
   ruler countHeader.length '-',
   countRow Severity.error.label (natText r.errorCount),
   countRow Severity.warning.label (natText r.warningCount),
   ruler countHeader.length '-',
   "Status    : " ++ (if r.passed then "PASS" else "FAIL"),
   "Files     : " ++ natText r.numberOfFiles] ++ messageSection limit r.allMessages

def defaultLimit : Int := 20

/-- Whether the messages in the table are told in characters, so that it can be printed. -/
def isPrintable {σ : Type} [Text.Spelled σ] (r : Report σ) (limit : Int) : Bool :=
  (takeLimit limit r.allMessages).all fun m =>
    Text.Glyph.areChars (Text.Spelled.glyphs m.path) &&
      Text.Glyph.areChars (Text.Spelled.glyphs m.text)

def table (r : Report) (limit : Int) : String :=
  String.intercalate "\n" (r.tableLines limit)

end SourceAudit.Report
