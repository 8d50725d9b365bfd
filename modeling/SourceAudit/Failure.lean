import SourceAudit.Raised
import SourceAudit.Report
import SourceAudit.TokenFile

/-!
# Failures of rules

What can go wrong while code that is not the analyzer's own runs: a custom rule raises, moves the
cursor out of range, reports on an unknown file, or is no rule at all. A failure is recorded in the
report and the run goes on, unless it is one that interrupts the program.
-/

namespace SourceAudit

/-- Why a rule failed. -/
inductive Failure where
  | raised (e : Raised)
  | access (e : AccessError)
  | unknownFile (e : UnknownFile)
  /-- The rule was used while it was checking no file. -/
  | unbound (rule : Value)
  | noCheck (className : String)
  /-- The rule's check is a value of this type, which cannot be called. -/
  | notCallable (typeName : String)
  /-- The rule does not say what to check. -/
  | notImplemented
  deriving Repr

namespace Failure

def message : Failure → String
  | .raised e => e.message
  | .access e => e.message
  | .unknownFile e => e.message
  | .unbound rule =>
    if rule.isShowable then "Rule " ++ rule.display ++ " is not checking a file"
    else DigitLimit.writing.message
  | .noCheck className => "'" ++ className ++ "' object has no attribute 'check'"
  | .notCallable typeName => "'" ++ typeName ++ "' object is not callable"
  | .notImplemented => ""

/-- What asking for the text of the failure raises. -/
def telling : Failure → Option Raised
  | .raised e => e.telling
  | _ => none

def isTold (f : Failure) : Bool :=
  f.telling.isNone

def interrupts : Failure → Bool
  | .raised e => e.interrupts
  | _ => false

end Failure

end SourceAudit
