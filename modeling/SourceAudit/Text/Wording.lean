import SourceAudit.Text.Blank
import SourceAudit.Text.Glyph

/-!
# Wordings

What a settings file gives where a text is asked for: a text, or glyphs that are none because a half
of a pair is among them. No file, program or rule has such a name, so a broken wording is shown in
messages and names nothing.
-/

namespace SourceAudit.Text

/-- A text, or glyphs that are none. -/
inductive Wording where
  | text (s : String)
  /-- Glyphs with a half among them. -/
  | broken (gs : List Glyph)
  deriving DecidableEq, Repr, Inhabited

namespace Wording

def ofGlyphs (gs : List Glyph) : Wording :=
  match gs.mapM Glyph.char? with
  | some cs => .text (String.ofList cs)
  | none => .broken gs

def glyphs : Wording → List Glyph
  | .text s => s.toList.map .char
  | .broken gs => gs

def text? : Wording → Option String
  | .text s => some s
  | .broken _ => none

/-- The wording in running text. -/
def display : Wording → String
  | .text s => s
  | .broken gs => String.ofList (Glyph.join gs)

/-- Whether the wording is empty or holds only white space, which no half is. -/
def isBlank : Wording → Bool
  | .text s => isBlankText s
  | .broken _ => false

/-- Whether code points come before others or equal them: the first that differ decide, and what
ends first comes first. -/
def codesLe : List Nat → List Nat → Bool
  | [], _ => true
  | _ :: _, [] => false
  | a :: as, b :: bs => if a = b then codesLe as bs else a < b

/-- Whether a wording comes before another one or equals it, by code points. -/
def le (a b : Wording) : Bool :=
  codesLe (a.glyphs.map Glyph.code) (b.glyphs.map Glyph.code)

end Wording

end SourceAudit.Text
