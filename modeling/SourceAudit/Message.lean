import SourceAudit.Token
import SourceAudit.Value

/-!
# Messages

A message is one finding about a file, with the token it is about when there is one. Four sorts
exist: errors and warnings that rules report, failures of the syntax check, and failures of a rule
itself, which carry the rule's name. All but warnings are errors. Paths and texts are of type `σ`:
those of a run are texts, those that other code puts in may be any glyphs.
-/

namespace SourceAudit

/-- How grave a message is. -/
inductive Severity where
  | error
  | warning
  deriving DecidableEq, Repr

namespace Severity

def label : Severity → String
  | .error => "ERROR"
  | .warning => "WARNING"

/-- The exit code that a message of this severity calls for. -/
def exitPriority : Severity → Nat
  | .error => 2
  | .warning => 1

/-- The severity that a word names, if any. -/
def ofLabel? (s : String) : Option Severity :=
  if s = error.label then some .error else if s = warning.label then some .warning else none

theorem ofLabel?_label (s : Severity) : ofLabel? s.label = some s := by
  cases s <;> decide

end Severity

/-- What a message reports. -/
inductive Finding where
  | error
  | warning
  /-- The file failed the syntax check. -/
  | lint
  /-- The named rule failed on the file. -/
  | rule (name : Value)
  deriving Repr

namespace Finding

def label : Finding → String
  | .error => "error"
  | .warning => "warning"
  | .lint => "lint"
  | .rule _ => "rule"

def severity : Finding → Severity
  | .warning => .warning
  | _ => .error

end Finding

/-- One finding about a file. -/
structure Message (σ : Type := String) where
  finding : Finding
  path : σ
  text : σ
  token : Option Token := none
  deriving Repr

namespace Message

variable {σ τ : Type}

def severity (m : Message σ) : Severity :=
  m.finding.severity

def isError (m : Message σ) : Bool :=
  m.severity == .error

def isWarning (m : Message σ) : Bool :=
  m.severity == .warning

def line (m : Message σ) : Option Int :=
  m.token.map Token.line

def column (m : Message σ) : Option Int :=
  m.token.map Token.column

def error (path text : σ) (token : Option Token) : Message σ :=
  ⟨.error, path, text, token⟩

def warning (path text : σ) (token : Option Token) : Message σ :=
  ⟨.warning, path, text, token⟩

/-- A failed syntax check. -/
def lint (path text : σ) : Message σ :=
  ⟨.lint, path, text, none⟩

/-- A failure of a rule. -/
def rule (path text : σ) (name : Value) : Message σ :=
  ⟨.rule name, path, text, none⟩

/-- The message with other strings. -/
def map (f : σ → τ) (m : Message σ) : Message τ where
  finding := m.finding
  path := f m.path
  text := f m.text
  token := m.token

@[simp] theorem isWarning_eq_not_isError (m : Message σ) : m.isWarning = !m.isError := by
  unfold isWarning isError
  cases m.severity <;> rfl

end Message

end SourceAudit
