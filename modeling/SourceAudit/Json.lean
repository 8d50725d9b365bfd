import SourceAudit.Value

/-!
# JSON text

JSON values and their indented text. An object keeps the order of its fields. A string consists of
glyphs, so it may hold halves of pairs. Every glyph outside printable ASCII is written as one or two
escapes of a UTF-16 unit, so the text is ASCII. Integers are taken to have no more digits than are
written (`maxDigits`).
-/

namespace SourceAudit

open Text (Glyph)

/-- A JSON value. -/
inductive Json where
  | null
  | bool (b : Bool)
  | int (n : Int)
  | double (d : Double)
  | string (s : List Glyph)
  | array (items : List Json)
  | object (fields : List (List Glyph × Json))
  deriving Repr

namespace Json

/-- A four-digit escape of a UTF-16 unit. -/
def unitEscape (n : Nat) : List Char :=
  '\\' :: 'u' :: Text.hexDigits 4 n

/-- The UTF-16 units of a glyph. -/
def units (g : Glyph) : List Nat :=
  let n := g.code
  if n < 0x10000 then [n]
  else [0xD800 + (n - 0x10000) / 0x400, 0xDC00 + (n - 0x10000) % 0x400]

def escapeChar (c : Char) : List Char :=
  if c = '"' then ['\\', '"']
  else if c = '\\' then ['\\', '\\']
  else if c = '\n' then ['\\', 'n']
  else if c = '\r' then ['\\', 'r']
  else if c = '\t' then ['\\', 't']
  else if c = '\x08' then ['\\', 'b']
  else if c = '\x0c' then ['\\', 'f']
  else if 0x20 ≤ c.toNat ∧ c.toNat < 0x7F then [c]
  else (units (.char c)).flatMap unitEscape

def escape : Glyph → List Char
  | .char c => escapeChar c
  | .half u => unitEscape (Glyph.half u).code

/-- A string between its quotes. -/
def stringText (s : List Glyph) : String :=
  String.ofList ('"' :: s.flatMap escape ++ ['"'])

/-- The text of a floating-point number. -/
def doubleText : Double → String
  | .nan => "NaN"
  | .infinite negative => if negative then "-Infinity" else "Infinity"
  | d => d.text

/-- A line break and the indentation at a depth. -/
def lineBreak (depth : Nat) : String :=
  "\n" ++ String.ofList (List.replicate (2 * depth) ' ')

/-- Parts on lines of their own between two brackets; nothing at all stands on one line. -/
def enclose (opening closing : String) (depth : Nat) (parts : List String) : String :=
  if parts.isEmpty then opening ++ closing
  else
    opening ++ lineBreak (depth + 1) ++
      String.intercalate ("," ++ lineBreak (depth + 1)) parts ++ lineBreak depth ++ closing

mutual

/-- The text of a value whose first line stands at the given depth. -/
def render (depth : Nat) : Json → String
  | .null => "null"
  | .bool b => if b then "true" else "false"
  | .int n => intText n
  | .double d => doubleText d
  | .string s => stringText s
  | .array items => enclose "[" "]" depth (renderItems (depth + 1) items)
  | .object fields => enclose "\x7b" "\x7d" depth (renderFields (depth + 1) fields)

def renderItems (depth : Nat) : List Json → List String
  | [] => []
  | v :: vs => render depth v :: renderItems depth vs

def renderFields (depth : Nat) : List (List Glyph × Json) → List String
  | [] => []
  | (k, v) :: fs => (stringText k ++ ": " ++ render depth v) :: renderFields depth fs

end

/-- The indented text of a value. -/
def text (j : Json) : String :=
  render 0 j

mutual

/-- A value of a data format as JSON; a key that is no string becomes its literal. -/
def ofValue : Value → Json
  | .null => .null
  | .bool b => .bool b
  | .int n => .int n
  | .double d => .double d
  | .text s => .string (Glyph.ofString s)
  | .broken gs => .string gs
  | .list items => .array (ofValues items)
  | .mapping entries => .object (ofEntries entries)
  | .set items => .array (ofValues items)
  | .bytes octets => .array (octets.map fun b => .int b.toNat)
  | .stamp written => .string (Glyph.ofString written)
  | .cycle => .null

def ofValues : List Value → List Json
  | [] => []
  | v :: vs => ofValue v :: ofValues vs

def ofEntries : List (Value × Value) → List (List Glyph × Json)
  | [] => []
  | (k, v) :: rest =>
    ((k.wording?.map Text.Wording.glyphs).getD (Glyph.ofString k.literal), ofValue v) ::
      ofEntries rest

end

/-- A number or null. -/
def ofInt? : Option Int → Json
  | some n => .int n
  | none => .null

end Json

end SourceAudit
