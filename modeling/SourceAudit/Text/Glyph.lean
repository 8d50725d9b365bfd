import SourceAudit.Text.Quoted

/-!
# Glyphs

A settings file can spell out every code point by an escape, halves of pairs of 16-bit units
included. A glyph is such a code point. Glyphs in a row read as text once the pairs among them are
joined; a half that is left alone reads as U+FFFD. In a quoted literal every half stays an escape.
A type is spelled by glyphs (`Spelled`) when every value has glyphs of its own, as texts have.
-/

namespace SourceAudit.Text

/-- A character, or half of a pair of 16-bit units. -/
inductive Glyph where
  | char (c : Char)
  /-- A half; the first 1024 are upper halves. -/
  | half (unit : Fin 0x800)
  deriving DecidableEq, Repr

namespace Glyph

def code : Glyph → Nat
  | .char c => c.toNat
  | .half unit => 0xD800 + unit.val

/-- The glyph with a code point; there is none beyond U+10FFFF. -/
def ofCode? (n : Nat) : Option Glyph :=
  if valid : n.isValidChar then some (.char (Char.ofNatAux n valid))
  else if inside : n - 0xD800 < 0x800 then some (.half ⟨n - 0xD800, inside⟩)
  else none

def char? : Glyph → Option Char
  | .char c => some c
  | .half _ => none

/-- The character that stands for a half which is left alone. -/
def replacement : Char := '\ufffd'

/-- The character; a half is replaced. -/
def shown (g : Glyph) : Char :=
  g.char?.getD replacement

/-- The character of an upper and a lower half. -/
def pair? (upper lower : Fin 0x800) : Option Char :=
  if upper.val < 0x400 ∧ 0x400 ≤ lower.val then
    some (Char.ofNat (0x10000 + 0x400 * upper.val + (lower.val - 0x400)))
  else none

/-- The text that glyphs read as: pairs are joined, and other halves are replaced. -/
def join : List Glyph → List Char
  | .half a :: .half b :: gs =>
    match pair? a b with
    | some c => c :: join gs
    | none => replacement :: join (.half b :: gs)
  | .half _ :: gs => replacement :: join gs
  | .char c :: gs => c :: join gs
  | [] => []

def ofString (s : String) : List Glyph :=
  s.toList.map .char

instance : Coe String (List Glyph) where
  coe := ofString

/-- Whether the glyphs are those of a text. -/
def areChars (gs : List Glyph) : Bool :=
  gs.all fun g => g.char?.isSome

/-- One glyph of a quoted literal between quotes `q`. -/
def escape (q : Char) : Glyph → List Char
  | .char c => escapeChar q c
  | g => '\\' :: 'u' :: hexDigits 4 g.code

def quote (gs : List Glyph) : List Char :=
  let q := quoteFor (gs.map shown)
  q :: gs.flatMap (escape q) ++ [q]

example : (ofCode? 0xD83D).map code = some 0xD83D := by decide +kernel
example : join ((ofCode? 0xD83D).toList ++ (ofCode? 0xDE00).toList) = ['😀'] := by decide +kernel
example : quote (ofCode? 0xDE00).toList = "'\\ude00'".toList := by decide +kernel

@[simp] theorem ofString_inj {s t : String} : ofString s = ofString t ↔ s = t := by
  rw [ofString, ofString, List.map_inj_right fun _ _ => Glyph.char.inj, String.toList_inj]

end Glyph

/-- The types whose values are spelled by glyphs, each in its own way. -/
class Spelled (σ : Type) where
  glyphs : σ → List Glyph
  /-- No two values are spelled alike. -/
  inj : ∀ {s t : σ}, glyphs s = glyphs t → s = t

namespace Spelled

instance : Spelled String where
  glyphs := Glyph.ofString
  inj := Glyph.ofString_inj.1

instance : Spelled (List Glyph) where
  glyphs := id
  inj := id

/-- The text that a value reads as. -/
def display {σ : Type} [Spelled σ] (s : σ) : String :=
  String.ofList (Glyph.join (glyphs s))

end Spelled

end SourceAudit.Text
