/-!
# Decimal text of integers

An integer is written as its decimal digits, after a minus sign when it is negative. Integers with
very many digits are neither written where a user could see them nor read from decimal digits.
-/

namespace SourceAudit

def natText (n : Nat) : String :=
  String.ofList (Nat.toDigits 10 n)

def intText (n : Int) : String :=
  if n < 0 then "-" ++ natText n.natAbs else natText n.natAbs

/-- The greatest number of digits that are written or read. -/
def maxDigits : Nat := 4300

/-- Why an integer is not written or read. -/
inductive DigitLimit where
  /-- It would be written with too many digits. -/
  | writing
  /-- It would be read from this number of digits. -/
  | reading (digits : Nat)
  deriving DecidableEq, Repr

def DigitLimit.message (l : DigitLimit) : String :=
  "Exceeds the limit (" ++ natText maxDigits ++ " digits) for integer string conversion" ++
    (match l with
      | .writing => ""
      | .reading digits => ": value has " ++ natText digits ++ " digits") ++
    "; use sys.set_int_max_str_digits() to increase the limit"

/-- The text of an integer that a user sees. -/
def shownInt (n : Int) : Except DigitLimit String :=
  if n.natAbs < Nat.pow 10 maxDigits then .ok (intText n) else .error .writing

example : intText (-12) = "-12" := by decide +kernel

end SourceAudit
