/-!
# Binary floating-point numbers

A number of the usual 64-bit binary format, kept as what it denotes: a sign and `mantissa · 2 ^
exponent`, an infinity, or no number at all. `Double.ofRatio` rounds a quotient of natural numbers
to the nearest such number, an exact tie going to the even mantissa; comparison and arithmetic
work on the exact values and round once.
-/

namespace SourceAudit

/-- A 64-bit binary floating-point number. -/
inductive Double where
  | nan
  | infinite (negative : Bool)
  /-- The number `± mantissa · 2 ^ exponent`. -/
  | finite (negative : Bool) (mantissa : Nat) (exponent : Int)
  deriving DecidableEq, Repr, Inhabited

namespace Double

def minExponent : Int := -1074

def maxExponent : Int := 971

def twoTo (n : Nat) : Nat :=
  Nat.pow 2 n

def tenTo (n : Nat) : Nat :=
  Nat.pow 10 n

def zero (negative : Bool) : Double :=
  .finite negative 0 minExponent

/-- `num · 2 ^ (-e) / den` as a quotient of natural numbers. -/
def scaleDown (num den : Nat) (e : Int) : Nat × Nat :=
  if e < 0 then (num * twoTo (-e).toNat, den) else (num, den * twoTo e.toNat)

/-- The quotient rounded to the nearest natural number, a tie to the even one. -/
def roundDiv (num den : Nat) : Nat :=
  let q := num / den
  let r := num % den
  if 2 * r > den ∨ (2 * r = den ∧ q % 2 = 1) then q + 1 else q

/-- The exponent at which `num / den` has a mantissa of 53 bits, or the least one. -/
def exponentFor (num den : Nat) : Int :=
  let e : Int := (num.log2 : Int) - (den.log2 : Int) - 52
  let (n, d) := scaleDown num den e
  max minExponent (if n / d < twoTo 52 then e - 1 else e)

/-- The number nearest to `± num / den`. -/
def ofRatio (negative : Bool) (num den : Nat) : Double :=
  if num = 0 then zero negative
  else
    let e := exponentFor num den
    let (n, d) := scaleDown num den e
    let m := roundDiv n d
    let (m, e) := if m = twoTo 53 then (twoTo 52, e + 1) else (m, e)
    if e > maxExponent then .infinite negative else .finite negative m e

/-- The number nearest to an integer. -/
def ofInt (n : Int) : Double :=
  ofRatio (n < 0) n.natAbs 1

/-- A finite number's integer multiple of `2 ^ exponent`. -/
def signed (negative : Bool) (mantissa : Nat) : Int :=
  if negative then -(mantissa : Int) else mantissa

/-- Two numbers `a · 2 ^ e` and `b · 2 ^ f` as multiples of one power of two. -/
def align (a e b f : Int) : Int × Int × Int :=
  if e ≤ f then (a, b * twoTo (f - e).toNat, e) else (a * twoTo (e - f).toNat, b, f)

def gt : Double → Double → Bool
  | .nan, _ | _, .nan => false
  | .infinite s, .infinite t => !s && t
  | .infinite s, .finite .. => !s
  | .finite .., .infinite t => t
  | .finite s m e, .finite t n f =>
    let (a, b, _) := align (signed s m) e (signed t n) f
    b < a

/-- The exact value `n · 2 ^ e`, rounded; `negative` is the sign of a zero. -/
def ofScaled (negative : Bool) (n e : Int) : Double :=
  if n = 0 then zero negative
  else if e < 0 then ofRatio (n < 0) n.natAbs (twoTo (-e).toNat)
  else ofRatio (n < 0) (n.natAbs * twoTo e.toNat) 1

def add : Double → Double → Double
  | .nan, _ | _, .nan => .nan
  | .infinite s, .infinite t => if s = t then .infinite s else .nan
  | .infinite s, .finite .. => .infinite s
  | .finite .., .infinite t => .infinite t
  | .finite s m e, .finite t n f =>
    let (a, b, g) := align (signed s m) e (signed t n) f
    ofScaled (s && t) (a + b) g

/-- The rounded product. -/
def mul : Double → Double → Double
  | .nan, _ | _, .nan => .nan
  | .infinite s, .infinite t => .infinite (s != t)
  | .infinite s, .finite t n _ => if n = 0 then .nan else .infinite (s != t)
  | .finite s m _, .infinite t => if m = 0 then .nan else .infinite (s != t)
  | .finite s m e, .finite t n f => ofScaled (s != t) (signed s m * signed t n) (e + f)

/-- The number with the other sign. -/
def neg : Double → Double
  | .nan => .nan
  | .infinite s => .infinite (!s)
  | .finite s m e => .finite (!s) m e

/-- Whether the number is one of the two zeros. -/
def isZero : Double → Bool
  | .finite _ 0 _ => true
  | _ => false

example : ofRatio false 1 2 = .finite false (twoTo 52) (-53) := by decide +kernel
example : ofRatio false (twoTo 53 + 1) 1 = .finite false (twoTo 52) 1 := by decide +kernel

end Double

end SourceAudit
