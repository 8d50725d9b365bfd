import SourceAudit.Number.Decimal
import SourceAudit.Text.Wording

/-!
# Dynamic values

Settings files, rule names and the attributes of custom rules may hold any value of a data
format. `Value` is the one type of such values; this module gives their truth, their written form
in messages, the name of their type and the elements of those that can be iterated.
-/

namespace SourceAudit

/-- A value of a data format. -/
inductive Value where
  | null
  | bool (b : Bool)
  | int (n : Int)
  | double (d : Double)
  | text (s : String)
  /-- Glyphs that are no text, because a half of a pair is among them. -/
  | broken (gs : List Text.Glyph)
  | list (items : List Value)
  | mapping (entries : List (Value × Value))
  | set (items : List Value)
  | bytes (octets : List UInt8)
  /-- A date, possibly with a time of day, as it was written. -/
  | stamp (written : String)
  /-- A collection that contains the place where it stands. -/
  | cycle
  deriving Repr, BEq, Inhabited

namespace Value

/-- Whether the value counts as true: all but the absent value, false, zero and what is empty. -/
def truthy : Value → Bool
  | .null => false
  | .bool b => b
  | .int n => n != 0
  | .double d => !d.isZero
  | .text s => !s.isEmpty
  | .broken gs => !gs.isEmpty
  | .list items => !items.isEmpty
  | .mapping entries => !entries.isEmpty
  | .set items => !items.isEmpty
  | .bytes octets => !octets.isEmpty
  | .stamp _ => true
  | .cycle => true

def typeName : Value → String
  | .null => "NoneType"
  | .bool _ => "bool"
  | .int _ => "int"
  | .double _ => "float"
  | .text _ | .broken _ => "str"
  | .list _ => "list"
  | .mapping _ => "dict"
  | .set _ => "set"
  | .bytes _ => "bytes"
  | .stamp _ => "datetime.date"
  | .cycle => "dict"

/-- One octet of a quoted literal between quotes `q`. -/
def octetLiteral (q : Char) (b : UInt8) : List Char :=
  if b.toNat < 128 then Text.escapeChar q (Char.ofNat b.toNat)
  else '\\' :: 'x' :: Text.hexDigits 2 b.toNat

/-- The quoted literal of octets, with its mark. -/
def octetsLiteral (octets : List UInt8) : String :=
  let q := Text.quoteFor (octets.map fun b => Char.ofNat b.toNat)
  String.ofList ('b' :: q :: octets.flatMap (octetLiteral q) ++ [q])

mutual

/-- The value as a message quotes it, integers with all their digits. -/
def literal : Value → String
  | .null => "None"
  | .bool b => if b then "True" else "False"
  | .int n => intText n
  | .double d => d.text
  | .text s => Text.quoted s
  | .broken gs => String.ofList (Text.Glyph.quote gs)
  | .list items => "[" ++ literalItems items ++ "]"
  | .mapping entries => "\x7b" ++ literalEntries entries ++ "\x7d"
  | .set items => "\x7b" ++ literalItems items ++ "\x7d"
  | .bytes octets => octetsLiteral octets
  | .stamp written => written
  | .cycle => "..."

/-- Literals with commas between them. -/
def literalItems : List Value → String
  | [] => ""
  | [v] => literal v
  | v :: vs => literal v ++ ", " ++ literalItems vs

/-- Literals of keys and values with commas between the entries. -/
def literalEntries : List (Value × Value) → String
  | [] => ""
  | [(k, v)] => literal k ++ ": " ++ literal v
  | (k, v) :: rest => literal k ++ ": " ++ literal v ++ ", " ++ literalEntries rest

end

mutual

/-- Whether a message may quote the value: no integer in it has too many digits to be shown. -/
def isShowable : Value → Bool
  | .int n => (shownInt n).isOk
  | .list items => areShowable items
  | .mapping entries => haveShowable entries
  | .set items => areShowable items
  | _ => true

/-- Whether a message may quote the values. -/
def areShowable : List Value → Bool
  | [] => true
  | v :: vs => isShowable v && areShowable vs

/-- Whether a message may quote the keys and the values. -/
def haveShowable : List (Value × Value) → Bool
  | [] => true
  | (k, v) :: rest => isShowable k && isShowable v && haveShowable rest

end

/-- The value of a wording. -/
def ofWording : Text.Wording → Value
  | .text s => .text s
  | .broken gs => .broken gs

/-- The wording, of a value that is one. -/
def wording? : Value → Option Text.Wording
  | .text s => some (.text s)
  | .broken gs => some (.broken gs)
  | _ => none

/-- The value as running text: a wording is itself, anything else its literal. -/
def display (v : Value) : String :=
  (v.wording?.map Text.Wording.display).getD v.literal

/-- The elements of a value that can be iterated: characters, items or keys. -/
def elements? : Value → Option (List Value)
  | .text s => some (s.toList.map fun c => .text c.toString)
  | .broken gs => some (gs.map fun g => ofWording (.ofGlyphs [g]))
  | .list items => some items
  | .set items => some items
  | .mapping entries => some (entries.map (·.1))
  | .bytes octets => some (octets.map fun b => .int b.toNat)
  | _ => none

/-- The text, of a value that is one. -/
def text? : Value → Option String
  | .text s => some s
  | _ => none

/-- The wordings, of a value that is a list of wordings only. -/
def wordings? : Value → Option (List Text.Wording)
  | .list items => items.mapM wording?
  | _ => none

/-- The number, of a value that is one; truth values are not. -/
def quantity? : Value → Option Quantity
  | .int n => some (.int n)
  | .double d => some (.double d)
  | _ => none

/-- The number a key stands for: truth values count as zero and one. -/
def keyQuantity? : Value → Option Quantity
  | .bool b => some (.int (if b then 1 else 0))
  | v => v.quantity?

/-- Whether two values are one key of a mapping. -/
def sameKey (a b : Value) : Bool :=
  match a.keyQuantity?, b.keyQuantity? with
  | some x, some y => x != .double .nan && y != .double .nan && !x.gt y && !y.gt x
  | none, none => a == b
  | _, _ => false

/-- Sets a key's value: in its place when the mapping has the key, at the end otherwise. -/
def insertEntry (entries : List (Value × Value)) (k v : Value) : List (Value × Value) :=
  if entries.any fun e => e.1.sameKey k then
    entries.map fun e => if e.1.sameKey k then (e.1, v) else e
  else entries ++ [(k, v)]

/-- A mapping's value for a text key. -/
def lookup? (entries : List (Value × Value)) (key : String) : Option Value :=
  entries.findSome? fun e => match e.1 with
    | .text s => if s = key then some e.2 else none
    | _ => none

end Value

end SourceAudit
