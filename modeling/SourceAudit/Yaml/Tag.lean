import SourceAudit.Yaml.ScalarText

/-!
# Tags

Every node of a document has a tag, which says what sort of value it is. A node may carry its tag;
otherwise a collection has the tag of its shape, and a plain scalar the first tag whose form its
text has.
-/

namespace SourceAudit.Yaml

/-- The sorts of values. -/
inductive Tag where
  | null
  | bool
  | int
  | float
  | binary
  | timestamp
  /-- A list of single entries with different keys. -/
  | orderedMapping
  /-- A list of single entries. -/
  | pairs
  | set
  | text
  | sequence
  | mapping
  /-- The key whose value is merged into the mapping. -/
  | merge
  /-- The key of a mapping's main value. -/
  | standard
  /-- Any other sort, for which there are no values. -/
  | unknown
  deriving DecidableEq, Repr, Inhabited

namespace Tag

/-- What the tags of the format begin with. -/
def root : String := "tag:yaml.org,2002:"

def names : List (String × Tag) :=
  [("null", .null), ("bool", .bool), ("int", .int), ("float", .float), ("binary", .binary),
   ("timestamp", .timestamp), ("omap", .orderedMapping), ("pairs", .pairs), ("set", .set),
   ("str", .text), ("seq", .sequence), ("map", .mapping), ("merge", .merge), ("value", .standard)]

/-- The tag with a full name. -/
def ofName (s : String) : Tag :=
  ((names.find? fun n => root ++ n.1 = s).map (·.2)).getD .unknown

/-! ## Forms of plain scalars -/

def truthWords : List String :=
  ["yes", "Yes", "YES", "no", "No", "NO", "true", "True", "TRUE", "false", "False", "FALSE",
   "on", "On", "ON", "off", "Off", "OFF"]

def nullWords : List String :=
  ["~", "null", "Null", "NULL"]

/-- The characters without a sign at their start. -/
def unsigned : List Char → List Char
  | '-' :: cs => cs
  | '+' :: cs => cs
  | cs => cs

/-- Whether the character is a decimal digit or an underscore. -/
def isDigitChar (c : Char) : Bool :=
  c.isDigit || c == '_'

/-- The parts between marks. -/
def parts {α : Type} [DecidableEq α] (mark : α) : List α → List (List α)
  | [] => [[]]
  | c :: cs =>
    if c = mark then [] :: parts mark cs
    else
      match parts mark cs with
      | p :: ps => (c :: p) :: ps
      | [] => [[c]]

/-- The parts between colons. -/
def colonParts (cs : List Char) : List (List Char) :=
  parts ':' cs

/-- Whether the characters are a number below sixty. -/
def isSixtieth : List Char → Bool
  | [a] => a.isDigit
  | [a, b] => a.isDigit && a ≤ '5' && b.isDigit
  | _ => false

/-- Whether the characters are digits and underscores behind a digit that `first` allows. -/
def isNumber (first : Char → Bool) : List Char → Bool
  | [] => false
  | c :: cs => c.isDigit && first c && cs.all isDigitChar

def isInteger (cs : List Char) : Bool :=
  let cs := unsigned cs
  match cs with
  | ['0'] => true
  | '0' :: 'b' :: ds => !ds.isEmpty && ds.all fun c => c == '0' || c == '1' || c == '_'
  | '0' :: 'x' :: ds => !ds.isEmpty && ds.all fun c => (hexValue? c).isSome || c == '_'
  | '0' :: ds => ds.all fun c => ('0' ≤ c && c ≤ '7') || c == '_'
  | cs =>
    match colonParts cs with
    | whole :: rest => isNumber (· != '0') whole && rest.all isSixtieth
    | [] => false

/-- Whether the characters are nothing, or a signed exponent. -/
def isExponent : List Char → Bool
  | [] => true
  | e :: sign :: ds =>
    (e == 'e' || e == 'E') && (sign == '-' || sign == '+') && !ds.isEmpty && ds.all Char.isDigit
  | _ => false

/-- Whether the characters are digits and underscores, and perhaps an exponent. -/
def isFraction (cs : List Char) : Bool :=
  isExponent (cs.dropWhile isDigitChar)

/-- Whether the characters are a number with parts of sixty, of which the last has a fraction. -/
def isSixtiethFraction (cs : List Char) : Bool :=
  let before := cs.takeWhile (· != '.')
  let behind := cs.dropWhile (· != '.')
  match colonParts before, behind with
  | whole :: part :: rest, _ :: fraction =>
    isNumber (fun _ => true) whole && (part :: rest).all isSixtieth && fraction.all isDigitChar
  | _, _ => false

def isFloat (cs : List Char) : Bool :=
  let bare := unsigned cs
  let whole := bare.takeWhile (· != '.')
  (match bare.dropWhile (· != '.') with
    | _ :: fraction => isNumber (fun _ => true) whole && isFraction fraction
    | [] => false) ||
  (match cs with
    | '.' :: d :: rest => d.isDigit && isFraction rest
    | _ => false) ||
  isSixtiethFraction bare ||
  [".inf", ".Inf", ".INF"].contains (String.ofList bare) ||
  [".nan", ".NaN", ".NAN"].contains (String.ofList cs)

end Tag

/-! ## Dates -/

/-- The parts of a date, perhaps with a time of day and a distance from universal time. -/
structure DateParts where
  year : List Char
  month : List Char
  day : List Char
  /-- Hour, minute and second. -/
  time : Option (List Char × List Char × List Char) := none
  /-- Sign, hours and minutes of the distance. -/
  distance : Option (Char × List Char × List Char) := none

namespace DateParts

/-- A run of between `least` and `most` digits, as many as there are. -/
def digits? (least most : Nat) (cs : List Char) : Option (List Char × List Char) :=
  let ds := (cs.take most).takeWhile Char.isDigit
  if ds.length < least then none else some (ds, cs.drop ds.length)

/-- What follows a character. -/
def after? (c : Char) : List Char → Option (List Char)
  | d :: cs => if d = c then some cs else none
  | [] => none

/-- What follows a letter T or blanks. -/
def afterGap? : List Char → Option (List Char)
  | [] => none
  | c :: cs =>
    if c = 'T' ∨ c = 't' then some cs
    else if isTabOrSpace c then some (cs.dropWhile isTabOrSpace)
    else none

/-- The distance from universal time at the end, if one is written; nothing for other text. -/
def distance? (cs : List Char) : Option (Option (Char × List Char × List Char)) :=
  match cs, cs.dropWhile isTabOrSpace with
  | [], _ => some none
  | _, ['Z'] => some none
  | _, sign :: rest =>
    if sign != '-' && sign != '+' then none
    else
      match digits? 1 2 rest with
      | some (hours, []) => some (some (sign, hours, ['0']))
      | some (hours, ':' :: rest) =>
        match digits? 2 2 rest with
        | some (minutes, []) => some (some (sign, hours, minutes))
        | _ => none
      | _ => none
  | _, [] => none

/-- The parts of a date. -/
def ofChars? (cs : List Char) : Option DateParts := do
  let (year, cs) ← digits? 4 4 cs
  let cs ← after? '-' cs
  let (month, cs) ← digits? 1 2 cs
  let cs ← after? '-' cs
  let (day, cs) ← digits? 1 2 cs
  if cs.isEmpty then return { year, month, day }
  let cs ← afterGap? cs
  let (hour, cs) ← digits? 1 2 cs
  let cs ← after? ':' cs
  let (minute, cs) ← digits? 2 2 cs
  let cs ← after? ':' cs
  let (second, cs) ← digits? 2 2 cs
  let cs := match cs with
    | '.' :: cs => cs.dropWhile Char.isDigit
    | cs => cs
  let distance ← distance? cs
  return { year, month, day, time := some (hour, minute, second), distance }

end DateParts

namespace Tag

def isDate (cs : List Char) : Bool :=
  match DateParts.ofChars? cs with
  | some d => d.time.isSome || (d.month.length = 2 && d.day.length = 2)
  | none => false

/-- The tag of a plain scalar. One newline at its end does not count. -/
def ofPlain (s : String) : Tag :=
  let all := s.toList
  let cs := if all.getLast? = some '\n' then all.dropLast else all
  let word := String.ofList cs
  if truthWords.contains word then .bool
  else if isFloat cs then .float
  else if isInteger cs then .int
  else if word = "<<" then .merge
  else if nullWords.contains word || s.isEmpty then .null
  else if isDate cs then .timestamp
  else if word = "=" then .standard
  else if word = "!" || word = "&" || word = "*" then .unknown
  else .text

/-- The tag of what stands in place of a plain scalar; a broken wording is like a text. -/
def ofWording : Text.Wording → Tag
  | .text s => ofPlain s
  | .broken _ => .text

example : ofPlain "1:30" = .int := by decide +kernel
example : ofPlain "1e5" = .text := by decide +kernel
example : ofPlain "1.e+5" = .float := by decide +kernel
example : ofPlain "2001-12-14" = .timestamp := by decide +kernel
example : ofPlain "0o17" = .text := by decide +kernel

end Tag

end SourceAudit.Yaml
