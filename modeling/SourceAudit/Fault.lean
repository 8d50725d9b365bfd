import SourceAudit.Progress
import SourceAudit.Refusal
import SourceAudit.SourceText

/-!
# Faults

Everything that can end an operation of the analyzer: a refusal, a source that cannot be read or
has no tokens, a failure that is not recorded, an observer that fails, a settings value that has no
meaning, a number that cannot be shown, a text that cannot be printed, or a value of the wrong
type.
-/

namespace SourceAudit

/-- Why a scalar in a settings file has no value. -/
inductive ScalarError where
  | badValue (reason : String)
  | unknownWord
  | noDate
  | noDigits
  | overflow
  /-- A date whose text is not written as a scalar. -/
  | notScalar
  deriving DecidableEq, Repr

/-- What ends an operation. -/
inductive Fault where
  | refused (r : Refusal)
  | lexical (e : LexError)
  | source (e : SourceError)
  /-- A failure that is not recorded in the report. -/
  | failure (f : Failure)
  | observer (e : ObserverFailure)
  | file (e : FileError)
  /-- A settings file is not UTF-8. -/
  | undecodable
  | scalar (e : ScalarError)
  | tooDeep
  | digits (l : DigitLimit)
  /-- A text to print has halves of pairs in it. -/
  | unencodable
  /-- A rule file is no program library of the machine, though it should be one. -/
  | notLinked
  | wrongType
  deriving Repr

namespace Fault

/-- The exception of custom code, of a fault that is one. -/
def raised? : Fault → Option Raised
  | .failure (.raised e) | .observer (.raised e) => some e
  | _ => none

/-- The exit code, of a fault by which custom code asks the program to end. -/
def exitCode? (f : Fault) : Option Value :=
  f.raised?.bind Raised.exitCode?

/-- Whether the fault counts as a refusal: the analyzer refuses, or custom code raises one of the
classes by which it does. -/
def isRefusal : Fault → Bool
  | .refused _ => true
  | f => f.raised?.any Raised.isRefusal

end Fault

end SourceAudit
