import SourceAudit.Text.Utf8
import SourceAudit.Yaml.ScalarText

/-!
# Properties and directives

The tokens that start with a mark and a name: anchors and references to them, tags, and the
directives in front of a document.
-/

namespace SourceAudit.Yaml

/-- A name that is not empty: the name and the place behind it. -/
def name (c : Cursor) : Except Error (String × Cursor) :=
  let (run, c) := c.span isNameChar
  if run.isEmpty then c.fail .malformed else .ok (String.ofList run, c)

/-- Whether an anchor's name may end before the character. -/
def endsAnchor (c : Option Char) : Bool :=
  atBlank c || c.any fun ch => "?:,]\x7d%@\x60".toList.contains ch

/-- The name behind the mark of an anchor or of a reference to one. -/
def anchorName (c : Cursor) : Except Error (String × Cursor) :=
  match name c.next with
  | .error e => .error e
  | .ok (n, c) => if endsAnchor c.peek then .ok (n, c) else c.fail .malformed

/-! ## Tags -/

/-- Whether the character may stand in a tag, the percent sign of an escape apart. -/
def isTagChar (c : Char) : Bool :=
  c.isAlphanum || "-;/?:@&=+$,_.!~*'()[]".toList.contains c

/-- The octets of escapes with a percent sign. -/
def tagOctets : Nat → Cursor → List UInt8 → Except Error (List UInt8 × Cursor)
  | 0, c, acc => .ok (acc, c)
  | fuel + 1, c, acc =>
    if c.peek == some '%' then
      match hexAt 2 c.next with
      | .error e => .error e
      | .ok (n, c) => tagOctets fuel (c.forward 2) (acc ++ [n.toUInt8])
    else .ok (acc, c)

/-- The characters of escapes with a percent sign, which are UTF-8. -/
def tagEscapes (c : Cursor) : Except Error (List Char × Cursor) :=
  match tagOctets (c.rest.length + 1) c [] with
  | .error e => .error e
  | .ok (octets, c) =>
    match Text.Utf8.decode octets with
    | none => c.fail .malformed
    | some cs => .ok (cs, c)

/-- The rest of a tag's text. -/
def tagTextRest : Nat → Cursor → List Char → Except Error (List Char × Cursor)
  | 0, c, acc => .ok (acc, c)
  | fuel + 1, c, acc =>
    match c.peek with
    | some '%' =>
      match tagEscapes c with
      | .error e => .error e
      | .ok (cs, c) => tagTextRest fuel c (acc ++ cs)
    | some ch => if isTagChar ch then tagTextRest fuel c.next (acc ++ [ch]) else .ok (acc, c)
    | none => .ok (acc, c)

/-- A tag's text, which is not empty. -/
def tagText (c : Cursor) : Except Error (String × Cursor) :=
  match tagTextRest (c.rest.length + 1) c [] with
  | .error e => .error e
  | .ok (cs, after) =>
    if after.index = c.index then after.fail .malformed else .ok (String.ofList cs, after)

/-- A handle: a mark, or a name between two. -/
def tagHandle (c : Cursor) : Except Error (String × Cursor) :=
  if c.peek != some '!' then c.fail .malformed
  else if c.peekAt 1 == some ' ' then .ok ("!", c.next)
  else
    let (run, after) := c.next.span isNameChar
    if after.peek == some '!' then .ok (String.ofList ('!' :: run ++ ['!']), after.next)
    else after.fail .malformed

/-- Whether a second mark stands in the word at the place, and the place after somebody has looked
for it. -/
def hasHandle (c : Cursor) : Bool × Cursor :=
  let word := (c.rest.drop 1).takeWhile fun ch => !atSpace (some ch) && ch != '!'
  (c.peekAt (word.length + 1) == some '!', c.look (word.length + 2))

/-- A tag without what has to follow it. -/
def tagParts (c : Cursor) : Except Error (Option String × String × Cursor) :=
  if c.peekAt 1 == some '<' then
    match tagText (c.forward 2) with
    | .error e => .error e
    | .ok (t, c) => if c.peek == some '>' then .ok (none, t, c.next) else c.fail .malformed
  else if atBlank (c.peekAt 1) then .ok (none, "!", c.next)
  else
    let (handled, c) := hasHandle c
    match (if handled then tagHandle c else .ok ("!", c.next)) with
    | .error e => .error e
    | .ok (h, c) => (tagText c).map fun r => (some h, r.1, r.2)

/-- The tag at the place. -/
def tagToken (c : Cursor) : Except Error (Token × Cursor) :=
  match tagParts c with
  | .error e => .error e
  | .ok (h, t, c) => if atSpace c.peek then .ok (.tag h t, c) else c.fail .malformed

/-! ## Directives -/

/-- A number of decimal digits. -/
def number (c : Cursor) : Except Error (Nat × Cursor) :=
  let (run, c) := c.span Char.isDigit
  if run.isEmpty then c.fail .malformed
  else if maxDigits < run.length then c.fail (.digits (.reading run.length))
  else .ok (run.foldl (fun n d => 10 * n + (d.toNat - '0'.toNat)) 0, c)

/-- The version behind the word for it. -/
def versionDirective (c : Cursor) : Except Error (Directive × Cursor) :=
  match number (c.skip (· == ' ')) with
  | .error e => .error e
  | .ok (major, c) =>
    if c.peek != some '.' then c.fail .malformed
    else
      match number c.next with
      | .error e => .error e
      | .ok (_, c) => if atSpace c.peek then .ok (.version major, c) else c.fail .malformed

/-- The abbreviation behind the word for it. -/
def abbreviationDirective (c : Cursor) : Except Error (Directive × Cursor) :=
  match tagHandle (c.skip (· == ' ')) with
  | .error e => .error e
  | .ok (handle, c) =>
    if c.peek != some ' ' then c.fail .malformed
    else
      match tagText (c.skip (· == ' ')) with
      | .error e => .error e
      | .ok (t, c) => if atSpace c.peek then .ok (.abbreviation handle t, c) else c.fail .malformed

def directive (c : Cursor) : Except Error (Directive × Cursor) :=
  match name c.next with
  | .error e => .error e
  | .ok (word, c) =>
    if !atSpace c.peek then c.fail .malformed
    else
      let parsed :=
        if word = "YAML" then versionDirective c
        else if word = "TAG" then abbreviationDirective c
        else .ok (.other, c.skip (!isBreak ·))
      match parsed with
      | .error e => .error e
      | .ok (d, c) => c.endOfLine.map fun c => (d, c)

end SourceAudit.Yaml
