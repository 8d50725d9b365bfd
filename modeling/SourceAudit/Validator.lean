import SourceAudit.Fault
import SourceAudit.Log
import SourceAudit.Text.Blank

/-!
# The syntax check

Before rules see a file, an external validator has to accept it. Here the outside world is a table:
which programs the search path holds, and what the validator's process does for each file. The
check turns a process outcome into a verdict: accepted exactly when the process ends with code
zero in time, with the stripped error output, or else the stripped plain output, as diagnostics.
-/

namespace SourceAudit

/-- What a validator process does. -/
structure Subprocess where
  exitCode : Int := 0
  stdout : String := ""
  stderr : String := ""
  duration : Quantity := .int 0
  deriving Repr

/-- What the validator can reach. -/
structure World where
  tree : FileTree := {}
  programs : List (String × String) := []
  /-- The processes, by the file that is checked; others do nothing and accept. -/
  processes : List (String × Subprocess) := []
  deriving Repr

/-- The process for a file. -/
def World.process (w : World) (path : String) : Subprocess :=
  ((w.processes.find? (·.1 == path)).map (·.2)).getD {}

/-- The place of a program on the search path. -/
def World.program? (w : World) (name : String) : Option String :=
  (w.programs.find? (·.1 == name)).map (·.2)

/-- The outcome of a syntax check. -/
structure Verdict where
  passed : Bool
  output : Option String := none
  /-- The time limit, when it was exceeded. -/
  timedOut : Option Quantity := none
  deriving DecidableEq, Repr

namespace Verdict

/-- The text of the message about a file that is not accepted. -/
def complaint (v : Verdict) : String :=
  match v.output with
  | some s => if s.isEmpty then "Lint check failed" else s
  | none => "Lint check failed"

/-- What is logged about a check. -/
def log (path : String) (v : Verdict) : LogEntry :=
  match v.timedOut with
  | some limit =>
    ⟨.warning, "rulecheck.linter",
      "Lint check of " ++ path ++ " timed out after " ++ limit.text ++ "s"⟩
  | none =>
    ⟨.debug, "rulecheck.linter",
      "Lint check of " ++ path ++ (if v.passed then " passed" else " failed")⟩

end Verdict

/-- A validator that has been found. -/
structure Validator where
  executable : String
  timeout : Option Quantity := none
  deriving DecidableEq, Repr

namespace Validator

/-- Finds the program of a name: a file, or else a program on the search path. -/
def resolve (w : World) (executable : String) : Except Fault String :=
  if Text.isBlankText executable then .error (.refused .blankValidator)
  else
    match w.tree.find? (Path.ofString executable) with
    | .error e => .error (.file e)
    | .ok place =>
      if place.any w.tree.isFileAt then .ok executable
      else
        match w.program? executable with
        | some found => .ok found
        | none => .error (.refused (.validatorNotFound executable))

/-- Finds the program for a validator; a broken wording names none. -/
def resolveWording (w : World) : Text.Wording → Except Fault String
  | .text executable => resolve w executable
  | name => .error (.refused (.validatorNotFound name.display))

/-- What the process runs: it compiles the file that its argument names. -/
def script : String :=
  "import sys; compile(open(sys.argv[1], 'rb').read(), sys.argv[1], 'exec')"

/-- The arguments of the process for a file. -/
def arguments (path : String) : List String :=
  ["-c", script, path]

/-- The text, unless it is empty. -/
def nonempty (s : String) : Option String :=
  if s.isEmpty then none else some s

/-- The diagnostics of a process. -/
def diagnostics (p : Subprocess) : Option String :=
  nonempty (Text.strip (if p.stderr.isEmpty then p.stdout else p.stderr))

/-- The verdict about a process that ended in time. -/
def ended (p : Subprocess) : Verdict where
  passed := p.exitCode == 0
  output := diagnostics p

/-- The verdict about a process that exceeded the limit, which is shown as `text`. -/
def overdue (limit : Quantity) (text : String) : Verdict where
  passed := false
  output := some ("Lint check timed out after " ++ text ++ "s")
  timedOut := some limit

/-- The verdict about a process under a time limit. There is none when the limit was exceeded and
cannot be shown. -/
def judge (timeout : Option Quantity) (p : Subprocess) : Except DigitLimit Verdict :=
  match timeout with
  | some limit =>
    if p.duration.gt limit then limit.shown.map (overdue limit) else .ok (ended p)
  | none => .ok (ended p)

/-- Checks a file. -/
def check (v : Validator) (w : World) (path : String) : Except DigitLimit Verdict :=
  judge v.timeout (w.process path)

end Validator

end SourceAudit
