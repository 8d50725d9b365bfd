import SourceAudit.Text.LowerCase
import SourceAudit.Value
import SourceAudit.Yaml.Tag

/-!
# Values of scalars

What the text of a scalar denotes once its tag is known. Numbers may have underscores, a base, and
parts of sixty; dates have to exist; octets are written in base 64.
-/

namespace SourceAudit.Yaml

open Text (Glyph)

/-- An error for a text that is no value of its type. -/
def noValue {α : Type} (reason : String) : Except Error α :=
  .error (.scalar (.badValue reason))

/-! ## Numbers -/

/-- The digits without the mark of their base. -/
def withoutBase (base : Nat) : List Char → List Char
  | '0' :: c :: cs =>
    let mark := if base = 2 then 'b' else if base = 8 then 'o' else 'x'
    if base != 10 && c.toLower == mark then cs else '0' :: c :: cs
  | cs => cs

/-- The value of a digit below the base. -/
def digitBelow (base : Nat) (c : Char) : Option Nat :=
  (hexValue? c).filter (· < base)

/-- The integer that a sign and digits of a base denote. -/
def integer? (base : Nat) (negative : Bool) (ds : List Char) : Option Int :=
  if ds.isEmpty then none
  else
    (ds.mapM (digitBelow base)).map fun ns =>
      let n : Nat := ns.foldl (fun n d => base * n + d) 0
      if negative then -(n : Int) else n

/-- How much of a text a message about an integer quotes. -/
def quoteWidth : Nat := 200

/-- The glyphs without a sign at their start. -/
def unsigned : List Glyph → List Glyph
  | .char '-' :: gs => gs
  | .char '+' :: gs => gs
  | gs => gs

/-- Whether glyphs start with a minus sign. -/
def isNegative (gs : List Glyph) : Bool :=
  gs.head? = some (.char '-')

/-- The glyphs without underscores. -/
def withoutUnderscores (gs : List Glyph) : List Glyph :=
  gs.filter (· != .char '_')

/-- The integer that glyphs denote in a base, or an error that quotes them. Only a limited number of
digits is read, unless the base is a power of two. -/
def integerIn (base : Nat) (gs : List Glyph) : Except Error Int :=
  let numeral := Text.plainNumeral (gs.map Glyph.shown)
  let ds := withoutBase base (Tag.unsigned numeral)
  let run := ds.takeWhile fun c => (digitBelow base c).isSome
  if base = 10 && maxDigits < run.length then .error (.digits (.reading run.length))
  else
    match integer? base (numeral.head? = some '-') ds with
    | some n => .ok n
    | none =>
      noValue ("invalid literal for int() with base " ++ natText base ++ ": " ++
        String.ofList ((Glyph.quote gs).take quoteWidth))

/-- The value of parts of sixty. -/
def inSixties (parts : List Int) : Int :=
  parts.foldl (fun n d => 60 * n + d) 0

/-- The integer that unsigned glyphs denote. -/
def unsignedInteger (gs : List Glyph) : Except Error Int :=
  match gs with
  | [] => .error (.scalar .noDigits)
  | [.char '0'] => .ok 0
  | .char '0' :: .char 'b' :: ds => integerIn 2 ds
  | .char '0' :: .char 'x' :: ds => integerIn 16 ds
  | .char '0' :: _ => integerIn 8 gs
  | _ =>
    if gs.contains (.char ':') then
      ((Tag.parts (.char ':') gs).mapM (integerIn 10)).map inSixties
    else integerIn 10 gs

def readInteger (gs : List Glyph) : Except Error Int :=
  let gs := withoutUnderscores gs
  (unsignedInteger (unsigned gs)).map fun n => if isNegative gs then -n else n

/-- The floating-point number that glyphs denote, or an error that quotes them. -/
def floatOf (gs : List Glyph) : Except Error Double :=
  match Double.read? (String.ofList (gs.map Glyph.shown)) with
  | some d => .ok d
  | none =>
    noValue ("could not convert string to float: " ++ String.ofList (Glyph.quote gs))

/-- The sum of parts of sixty, the last part first; `unit` is the weight of the next one. -/
def floatInSixties (unit : Nat) (total : Double) : List Double → Except Error Double
  | [] => .ok total
  | d :: ds =>
    match Double.ofInt unit with
    | .infinite _ => .error (.scalar .overflow)
    | weight => floatInSixties (60 * unit) (total.add (d.mul weight)) ds

/-- The floating-point number that unsigned glyphs denote. -/
def unsignedFloat (gs : List Glyph) : Except Error Double :=
  if gs = ".inf".toList.map .char then .ok (.infinite false)
  else if gs = ".nan".toList.map .char then .ok .nan
  else if gs.contains (.char ':') then do
    let parts ← (Tag.parts (.char ':') gs).mapM floatOf
    floatInSixties 1 (.zero false) parts.reverse
  else floatOf gs

/-- The lower case of glyphs behind `before`, which is read backwards; `cs` are the characters they
are shown as. A half has no case and ends a word. -/
def lowerFrom (before : List Char) : List Glyph → (cs : List Char) → List Glyph
  | .char c :: gs, cs =>
    (Text.lowerBetween before c cs.tail).map .char ++ lowerFrom (c :: before) gs cs.tail
  | g :: gs, cs => g :: lowerFrom (g.shown :: before) gs cs.tail
  | [], _ => []

def lower (gs : List Glyph) : List Glyph :=
  lowerFrom [] gs (gs.map Glyph.shown)

def readFloat (gs : List Glyph) : Except Error Double :=
  let gs := lower (withoutUnderscores gs)
  if gs.isEmpty then .error (.scalar .noDigits)
  else (unsignedFloat (unsigned gs)).map fun d => if isNegative gs then d.neg else d

/-! ## Truth values -/

/-- The truth value of a word in any case. -/
def readTruth (s : String) : Except Error Bool :=
  let word := String.ofList (s.toList.map Char.toLower)
  if ["yes", "true", "on"].contains word then .ok true
  else if ["no", "false", "off"].contains word then .ok false
  else .error (.scalar .unknownWord)

/-! ## Dates -/

/-- A natural number from its digits. -/
def decimal (ds : List Char) : Nat :=
  ds.foldl (fun n d => 10 * n + (d.toNat - '0'.toNat)) 0

def isLeapYear (y : Nat) : Bool :=
  y % 4 == 0 && (y % 100 != 0 || y % 400 == 0)

def daysInMonth (y m : Nat) : Nat :=
  if m = 2 then (if isLeapYear y then 29 else 28)
  else if m = 4 ∨ m = 6 ∨ m = 9 ∨ m = 11 then 30
  else 31

def checkDay (y m d : Nat) : Except Error Unit :=
  if y = 0 then noValue "year 0 is out of range"
  else if m = 0 ∨ m > 12 then noValue "month must be in 1..12"
  else if d = 0 ∨ d > daysInMonth y m then noValue "day is out of range for month"
  else .ok ()

def checkTime (h m s : Nat) : Except Error Unit :=
  if h > 23 then noValue "hour must be in 0..23"
  else if m > 59 then noValue "minute must be in 0..59"
  else if s > 59 then noValue "second must be in 0..59"
  else .ok ()

/-- Days and seconds as a message tells a span of time. -/
def spanText (seconds : Int) : String :=
  let days := seconds.fdiv 86400
  let rest := seconds.fmod 86400
  "datetime.timedelta(days=" ++ intText days ++
    (if rest = 0 then "" else ", seconds=" ++ intText rest) ++ ")"

/-- Checks that the distance from universal time is less than a day. -/
def checkDistance : Option (Char × List Char × List Char) → Except Error Unit
  | none => .ok ()
  | some (sign, hours, minutes) =>
    let seconds : Int := 3600 * decimal hours + 60 * decimal minutes
    if seconds < 86400 then .ok ()
    else
      noValue ("offset must be a timedelta strictly between -timedelta(hours=24) and " ++
        "timedelta(hours=24), not " ++ spanText (if sign = '-' then -seconds else seconds) ++ ".")

def checkDate (s : String) : Except Error Unit :=
  let all := s.toList
  let cs := if all.getLast? = some '\n' then all.dropLast else all
  match DateParts.ofChars? cs with
  | none => .error (.scalar .noDate)
  | some p => do
    checkDistance p.distance
    checkDay (decimal p.year) (decimal p.month) (decimal p.day)
    match p.time with
    | none => return
    | some (h, m, s) => checkTime (decimal h) (decimal m) (decimal s)

/-! ## Octets -/

/-- The six bits that a character of base 64 stands for. -/
def sixBits? (c : Char) : Option Nat :=
  if 'A' ≤ c ∧ c ≤ 'Z' then some (c.toNat - 'A'.toNat)
  else if 'a' ≤ c ∧ c ≤ 'z' then some (c.toNat - 'a'.toNat + 26)
  else if c.isDigit then some (c.toNat - '0'.toNat + 52)
  else if c = '+' then some 62
  else if c = '/' then some 63
  else none

/-- Reads base 64: `place` characters of a group of four have been read, of which `left` is left
over, and `pads` signs of padding. Other characters are passed over. -/
def octetsFrom : List Char → (place left pads : Nat) → Option (List UInt8)
  | [], place, _, _ => if place = 0 then some [] else none
  | c :: cs, place, left, pads =>
    if c = '=' then
      if place ≥ 2 ∧ place + pads + 1 ≥ 4 then some []
      else octetsFrom cs place left (if place ≥ 2 then pads + 1 else pads)
    else
      match sixBits? c with
      | none => octetsFrom cs place left pads
      | some b =>
        if place = 0 then octetsFrom cs 1 b 0
        else if place = 1 then
          (octetsFrom cs 2 (b % 16) 0).map ((left * 4 + b / 16).toUInt8 :: ·)
        else if place = 2 then
          (octetsFrom cs 3 (b % 4) 0).map ((left * 16 + b / 4).toUInt8 :: ·)
        else (octetsFrom cs 0 0 0).map ((left * 64 + b).toUInt8 :: ·)

/-- The octets that a text stands for. -/
def readOctets (s : String) : Except Error (List UInt8) :=
  if s.toList.any fun c => c.toNat ≥ 128 then .error .malformed
  else
    match octetsFrom s.toList 0 0 0 with
    | some octets => .ok octets
    | none => .error .malformed

/-- The value of a scalar with a tag; collections have none. A broken wording is no truth value,
date or base 64. -/
def scalarValue (tag : Tag) (w : Text.Wording) : Except Error Value :=
  match tag, w with
  | .null, _ => .ok .null
  | .int, w => (readInteger w.glyphs).map .int
  | .float, w => (readFloat w.glyphs).map .double
  | .text, w => .ok (.ofWording w)
  | .bool, .text s => (readTruth s).map .bool
  | .bool, .broken _ => .error (.scalar .unknownWord)
  | .timestamp, .text s => (checkDate s).map fun _ => .stamp s
  | .timestamp, .broken _ => .error (.scalar .noDate)
  | .binary, .text s => (readOctets s).map .bytes
  | _, _ => .error .malformed

example : (integerIn 16 ("0X1f".toList.map .char)).toOption = some 31 := by decide +kernel
example : (readInteger ("-1:30".toList.map .char)).toOption = some (-90) := by decide +kernel
example : (readOctets "aGk=").toOption = some [104, 105] := by decide +kernel

end SourceAudit.Yaml
