import SourceAudit.Number.Integer
import SourceAudit.Number.Shortest
import SourceAudit.Text.Digit

/-!
# Decimal text of numbers

Writing and reading of numbers. A floating-point number is written with its shortest digits:
positionally, with at least one digit after the point, when its leading digit stands at a power of
ten from -4 to 15, and with a signed exponent of at least two digits otherwise. Reading accepts
digits with single underscores between them, an optional fraction and an optional exponent, and the
words for infinities and for no number.
-/

namespace SourceAudit

namespace Double

/-- The exponents of ten of the leading digit that are written positionally. -/
def isPositional (magnitude : Int) : Bool :=
  -4 ≤ magnitude && magnitude < 16

def trimZeros (cs : List Char) : List Char :=
  Text.dropRight (· == '0') cs

/-- Digits with the point after the place of 10 ^ 0; `magnitude` is the place of the first one. -/
def positional (digits : List Char) (magnitude : Int) : List Char :=
  if magnitude < 0 then
    '0' :: '.' :: List.replicate ((-magnitude).toNat - 1) '0' ++ digits
  else
    let whole := magnitude.toNat + 1
    let left := digits.take whole ++ List.replicate (whole - digits.length) '0'
    let right := digits.drop whole
    left ++ '.' :: (if right.isEmpty then ['0'] else right)

def scientific (digits : List Char) (magnitude : Int) : List Char :=
  let lead := digits.take 1 ++ (if digits.length ≤ 1 then [] else '.' :: digits.drop 1)
  let power := Nat.toDigits 10 magnitude.natAbs
  lead ++ 'e' :: (if magnitude < 0 then '-' else '+') ::
    (List.replicate (2 - power.length) '0' ++ power)

def text : Double → String
  | .nan => "nan"
  | .infinite negative => if negative then "-inf" else "inf"
  | .finite negative mantissa exponent =>
    let body :=
      if mantissa = 0 then ['0', '.', '0']
      else
        let d := shortest mantissa exponent
        let all := Nat.toDigits 10 d.digits
        let magnitude := d.exponent + all.length - 1
        let digits := trimZeros all
        if isPositional magnitude then positional digits magnitude
        else scientific digits magnitude
    String.ofList (if negative then '-' :: body else body)

/-! ## Reading -/

def digitValue (c : Char) : Nat :=
  c.toNat - '0'.toNat

/-- Digits with single underscores between them: the digits, and what follows. -/
def takeDigits : List Char → List Char × List Char
  | [] => ([], [])
  | c :: cs =>
    if c.isDigit then
      match cs with
      | '_' :: d :: rest =>
        if d.isDigit then
          let (ds, rest) := takeDigits (d :: rest)
          (c :: ds, rest)
        else ([c], cs)
      | cs =>
        let (ds, rest) := takeDigits cs
        (c :: ds, rest)
    else ([], c :: cs)

def natOfDigits (ds : List Char) : Nat :=
  ds.foldl (fun n c => 10 * n + digitValue c) 0

/-- An optional exponent mark with its digits: the exponent, and what follows. -/
def takeExponent : List Char → Option (Int × List Char)
  | c :: cs =>
    if c = 'e' ∨ c = 'E' then
      let (negative, cs) :=
        match cs with
        | '-' :: cs => (true, cs)
        | '+' :: cs => (false, cs)
        | cs => (false, cs)
      let (ds, rest) := takeDigits cs
      if ds.isEmpty then none
      else
        let n : Int := natOfDigits ds
        some (if negative then -n else n, rest)
    else some (0, c :: cs)
  | [] => some (0, [])

/-- The number `± digits · 10 ^ exponent`; far outside the format it is not even computed. -/
def ofDecimal (negative : Bool) (digits : Nat) (exponent : Int) : Double :=
  let magnitude : Int := exponent + (Nat.toDigits 10 digits).length
  if digits = 0 then zero negative
  else if magnitude > 400 then .infinite negative
  else if magnitude < -400 then zero negative
  else if exponent < 0 then ofRatio negative digits (tenTo (-exponent).toNat)
  else ofRatio negative (digits * tenTo exponent.toNat) 1

/-- The number that an unsigned text denotes. -/
def readUnsigned (negative : Bool) (cs : List Char) : Option Double :=
  let word := String.ofList (cs.map Char.toLower)
  if word = "inf" ∨ word = "infinity" then some (.infinite negative)
  else if word = "nan" then some .nan
  else
    let (whole, rest) := takeDigits cs
    let (fraction, rest) :=
      match rest with
      | '.' :: rest => takeDigits rest
      | rest => ([], rest)
    if whole.isEmpty && fraction.isEmpty then none
    else
      match takeExponent rest with
      | some (e, []) =>
        some (ofDecimal negative (natOfDigits (whole ++ fraction)) (e - fraction.length))
      | _ => none

/-- The number that a text denotes in the digits of any script, white space around it apart. -/
def read? (s : String) : Option Double :=
  match Text.plainNumeral s.toList with
  | '-' :: cs => readUnsigned true cs
  | '+' :: cs => readUnsigned false cs
  | cs => readUnsigned false cs

end Double

/-- A number as settings and process tables give it: an integer of any size, or a floating-point
number. -/
inductive Quantity where
  | int (n : Int)
  | double (d : Double)
  deriving DecidableEq, Repr, Inhabited

namespace Quantity

def text : Quantity → String
  | .int n => intText n
  | .double d => d.text

def shown : Quantity → Except DigitLimit String
  | .int n => shownInt n
  | .double d => .ok d.text

/-- Whether the first number is greater; exact for integers of any size. -/
def gt : Quantity → Quantity → Bool
  | .int a, .int b => b < a
  | .double d, .double e => d.gt e
  | .int a, .double (.finite s m e) =>
    let (x, y, _) := Double.align a 0 (Double.signed s m) e
    y < x
  | .int _, .double (.infinite s) => s
  | .int _, .double .nan => false
  | .double (.finite s m e), .int b =>
    let (x, y, _) := Double.align (Double.signed s m) e b 0
    y < x
  | .double (.infinite s), .int _ => !s
  | .double .nan, .int _ => false

end Quantity

end SourceAudit
