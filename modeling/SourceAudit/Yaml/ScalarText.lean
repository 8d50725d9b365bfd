import SourceAudit.Yaml.Cursor

/-!
# The text of scalars

A scalar is written plainly, between quotes, or as an indented block. In the first two forms a line
break reads as a space and further breaks as themselves; a block keeps its breaks, or folds those
between lines that start with no blank.
-/

namespace SourceAudit.Yaml

def isTabOrSpace (c : Char) : Bool :=
  c == ' ' || c == '\t'

/-- What a break followed by further breaks reads as. -/
def foldBreak (first breaks : List Char) : List Char :=
  if first != ['\n'] then first ++ breaks
  else if breaks.isEmpty then [' ']
  else breaks

/-! ## Quoted scalars -/

/-- The characters that an escape letter stands for. -/
def escapes : List (Char × Char) :=
  [('0', '\x00'), ('a', '\x07'), ('b', '\x08'), ('t', '\t'), ('\t', '\t'), ('n', '\n'),
   ('v', '\x0b'), ('f', '\x0c'), ('r', '\r'), ('e', '\x1b'), (' ', ' '), ('"', '"'), ('\\', '\\'),
   ('/', '/'), ('N', '\u0085'), ('_', '\u00a0'), ('L', '\u2028'), ('P', '\u2029')]

/-- The number of hexadecimal digits after an escape letter. -/
def escapeWidth? (c : Char) : Option Nat :=
  if c = 'x' then some 2
  else if c = 'u' then some 4
  else if c = 'U' then some 8
  else none

def hexValue? (c : Char) : Option Nat :=
  if c.isDigit then some (c.toNat - '0'.toNat)
  else if 'a' ≤ c ∧ c ≤ 'f' then some (c.toNat - 'a'.toNat + 10)
  else if 'A' ≤ c ∧ c ≤ 'F' then some (c.toNat - 'A'.toNat + 10)
  else none

def hexNumber? (cs : List Char) : Option Nat :=
  (cs.mapM hexValue?).map fun ds => ds.foldl (fun n d => 16 * n + d) 0

/-- The glyph with a code point. -/
def glyphOf (n : Nat) : Except Error Text.Glyph :=
  match Text.Glyph.ofCode? n with
  | some g => .ok g
  | none =>
    .error (.scalar (if n ≥ 0x80000000 then .overflow
      else .badValue "chr() arg not in range(0x110000)"))

/-- The number that hexadecimal digits at the place denote, and the place with all of them looked
at. Nobody looks behind a character that is no such digit. -/
def hexAt (width : Nat) (c : Cursor) : Except Error (Nat × Cursor) :=
  let digits := (c.rest.take width).takeWhile fun ch => (hexValue? ch).isSome
  let c := c.look (min width (digits.length + 1))
  if digits.length < width then c.fail .malformed
  else
    match hexNumber? digits with
    | some n => .ok (n, c)
    | none => c.fail .malformed

/-- The breaks at the place, with blanks around them. No document may start or end there. -/
def quotedBreaks : Nat → Cursor → List Char → Except Error (List Char × Cursor)
  | 0, c, _ => c.fail .malformed
  | fuel + 1, c, acc =>
    let c := c.lookForSeparator
    if c.atSeparator then c.fail .malformed
    else
      let c := c.skip isTabOrSpace
      if c.peek.any isBreak then
        let (b, c) := c.lineBreak
        quotedBreaks fuel c (acc ++ b)
      else .ok (acc, c)

/-- What characters stand for that are not escaped. -/
def unescaped (cs : List Char) : List Text.Glyph :=
  cs.map .char

/-- What an escape stands for; the cursor is behind the backslash. -/
def escape (c : Cursor) : Except Error (List Text.Glyph × Cursor) :=
  match c.peek with
  | none => c.fail .malformed
  | some ch =>
    match escapes.lookup ch, escapeWidth? ch with
    | some r, _ => .ok (unescaped [r], c.next)
    | none, some width =>
      match hexAt width c.next with
      | .error e => .error e
      | .ok (n, c) =>
        match glyphOf n with
        | .ok g => .ok ([g], c.forward width)
        | .error e => c.fail e
    | none, none =>
      if isBreak ch then
        (quotedBreaks (c.rest.length + 1) c.lineBreak.2 []).map fun r => (unescaped r.1, r.2)
      else c.fail .malformed

/-- Blanks inside quotes: themselves, or what the break among them reads as. -/
def quotedSpaces (c : Cursor) : Except Error (List Char × Cursor) :=
  let (blanks, c) := c.span isTabOrSpace
  match c.peek with
  | none => c.fail .malformed
  | some ch =>
    if isBreak ch then
      let (first, c) := c.lineBreak
      match quotedBreaks (c.rest.length + 1) c [] with
      | .error e => .error e
      | .ok (breaks, c) => .ok (foldBreak first breaks, c)
    else .ok (blanks, c)

/-- The rest of a scalar between quotes, up to the place behind the closing one. -/
def quotedRest (quote : Char) :
    Nat → Cursor → List Text.Glyph → Except Error (List Text.Glyph × Cursor)
  | 0, c, _ => c.fail .malformed
  | fuel + 1, c, acc =>
    match c.peek with
    | none => c.fail .malformed
    | some ch =>
      if ch = quote then
        let c := c.look (if quote = '\'' then 2 else 1)
        if quote = '\'' && c.peekAt 1 == some '\'' then
          quotedRest quote fuel (c.forward 2) (acc ++ unescaped ['\''])
        else .ok (acc, c.next)
      else if quote = '"' && ch = '\\' then
        match escape c.next with
        | .error e => .error e
        | .ok (r, c) => quotedRest quote fuel c (acc ++ r)
      else if isTabOrSpace ch || isBreak ch then
        match quotedSpaces c with
        | .error e => .error e
        | .ok (r, c) => quotedRest quote fuel c (acc ++ unescaped r)
      else
        let (run, c) := c.span fun x => x != quote && x != '\\' && !isTabOrSpace x && !isBreak x
        if run.isEmpty then quotedRest quote fuel c.next (acc ++ unescaped [ch])
        else quotedRest quote fuel c (acc ++ unescaped run)

def quoted (c : Cursor) (quote : Char) : Except Error (Text.Wording × Cursor) :=
  (quotedRest quote (c.rest.length + 1) c.next []).map fun r => (.ofGlyphs r.1, r.2)

/-! ## Plain scalars -/

/-- Brackets, braces and the comma. -/
def isFlowMark (c : Char) : Bool :=
  c == ',' || c == '[' || c == ']' || c == '\x7b' || c == '\x7d'

/-- Whether a plain run ends at the character before `following`. -/
def endsRun (flow : Bool) (c : Char) (following : Option Char) : Bool :=
  atBlank (some c) ||
    (c == ':' && (atBlank following || (flow && following.any isFlowMark))) ||
    (flow && (isFlowMark c || c == '?'))

/-- The length of the plain run without blanks. -/
def runLength (flow : Bool) : List Char → Nat
  | [] => 0
  | c :: cs => if endsRun flow c cs.head? then 0 else runLength flow cs + 1

/-- What stands between two plain runs. -/
structure Gap where
  /-- What it reads as; nothing when no run may follow. -/
  text : List Char
  cursor : Cursor
  /-- Whether it has a line break. -/
  broke : Bool

/-- The breaks at the place, with spaces around them; nothing at the mark of a document. -/
def plainBreaks : Nat → Cursor → List Char → Option (List Char) × Cursor
  | 0, c, acc => (some acc, c)
  | fuel + 1, c, acc =>
    match c.peek with
    | some ' ' => plainBreaks fuel c.next acc
    | some ch =>
      if isBreak ch then
        let (b, c) := c.lineBreak
        let c := c.lookForSeparator
        if c.atSeparator then (none, c) else plainBreaks fuel c (acc ++ b)
      else (some acc, c)
    | none => (some acc, c)

/-- What stands between two plain runs. -/
def plainGap (c : Cursor) : Gap :=
  let (spaces, c) := c.span (· == ' ')
  if c.peek.any isBreak then
    let (first, c) := c.lineBreak
    let c := c.lookForSeparator
    if c.atSeparator then ⟨[], c, true⟩
    else
      match plainBreaks (c.rest.length + 1) c [] with
      | (none, c) => ⟨[], c, true⟩
      | (some breaks, c) => ⟨foldBreak first breaks, c, true⟩
  else ⟨spaces, c, false⟩

/-- The rest of a plain scalar: its text, the place behind it, and whether a break came last. -/
def plainRest (flow : Bool) (indent : Int) :
    Nat → Cursor → List Char → List Char → Bool → List Char × Cursor × Bool
  | 0, c, acc, _, broke => (acc, c, broke)
  | fuel + 1, c, acc, spaces, broke =>
    let n := runLength flow c.rest
    if c.peek == some '#' then (acc, c, broke)
    else
      let c := c.look (if c.peekAt n == some ':' then n + 2 else n + 1)
      if n = 0 then (acc, c, broke)
      else
        let acc := acc ++ spaces ++ c.rest.take n
        let gap := plainGap (c.forward n)
        let c := gap.cursor
        if gap.text.isEmpty || c.peek == some '#' || (!flow && (c.column : Int) < indent) then
          (acc, c, gap.broke)
        else plainRest flow indent fuel c acc gap.text gap.broke

/-- The plain scalar at the place; its lines are indented by at least `indent` outside brackets. -/
def plain (flow : Bool) (indent : Int) (c : Cursor) : String × Cursor × Bool :=
  let (text, c, broke) := plainRest flow indent (c.rest.length + 1) c [] [] false
  (String.ofList text, c, broke)

/-! ## Block scalars -/

/-- What happens to the breaks at the end of a block. -/
inductive Chomping where
  /-- None is kept. -/
  | strip
  /-- One is kept. -/
  | clip
  /-- All are kept. -/
  | keep
  deriving DecidableEq, Repr

/-- The chomping that a sign asks for. -/
def chomping? : Option Char → Option Chomping
  | some '+' => some .keep
  | some '-' => some .strip
  | _ => none

/-- The digit at the place. -/
def digit? (c : Option Char) : Option Nat :=
  c.bind fun ch => if ch.isDigit then some (ch.toNat - '0'.toNat) else none

/-- The digit for the indentation of a block, if there is one; it is not zero. -/
def blockDigit (c : Cursor) : Except Error (Option Nat × Cursor) :=
  match digit? c.peek with
  | some 0 => c.fail .malformed
  | some d => .ok (some d, c.next)
  | none => .ok (none, c)

/-- The signs behind the mark of a block: chomping, and the digit for the indentation. -/
def blockSigns (c : Cursor) : Except Error (Chomping × Option Nat × Cursor) := do
  let (chomp, increment, c) ←
    match chomping? c.peek with
    | some chomp => do
      let (increment, c) ← blockDigit c.next
      pure (chomp, increment, c)
    | none => do
      let (increment, c) ← blockDigit c
      match increment, chomping? c.peek with
      | some d, some chomp => pure (chomp, some d, c.next)
      | _, _ => pure (Chomping.clip, increment, c)
  if atSpace c.peek then return (chomp, increment, c) else c.fail .malformed

/-- Leading breaks and spaces of a block: the breaks, the greatest column, and the place. -/
def blockLead : Nat → Cursor → List Char → Nat → List Char × Nat × Cursor
  | 0, c, acc, width => (acc, width, c)
  | fuel + 1, c, acc, width =>
    match c.peek with
    | some ' ' => blockLead fuel c.next acc (max width c.next.column)
    | some ch =>
      if isBreak ch then
        let (b, c) := c.lineBreak
        blockLead fuel c (acc ++ b) width
      else (acc, width, c)
    | none => (acc, width, c)

/-- The place after at most as many spaces as lead to the column. -/
def indentTo (column : Nat) (c : Cursor) : Cursor :=
  c.forward ((c.rest.take (column - c.column)).takeWhile (· == ' ')).length

/-- Breaks of a block, with the indentation before each. -/
def blockBreaks (column : Nat) : Nat → Cursor → List Char → List Char × Cursor
  | 0, c, acc => (acc, c)
  | fuel + 1, c, acc =>
    let c := indentTo column c
    if c.peek.any isBreak then
      let (b, c) := c.lineBreak
      blockBreaks column fuel c (acc ++ b)
    else (acc, c)

/-- The lines of a block: its text, the last line's break, the breaks behind it, and the place. -/
def blockLines (folded : Bool) (column : Nat) :
    Nat → Cursor → List Char → List Char → List Char × List Char × List Char × Cursor
  | 0, c, acc, breaks => (acc, [], breaks, c)
  | fuel + 1, c, acc, breaks =>
    let inside (c : Cursor) : Bool := c.column == column && c.peek.isSome
    if !inside c then (acc, [], breaks, c)
    else
      let startsBlank := c.peek.any isTabOrSpace
      let (run, c) := c.span (!isBreak ·)
      let (lineEnd, c) := c.lineBreak
      let acc := acc ++ breaks ++ run
      let (breaks, c) := blockBreaks column (c.rest.length + 1) c []
      if inside c then
        let folds := folded && lineEnd == ['\n'] && !startsBlank && !c.peek.any isTabOrSpace
        let joint := if folds then (if breaks.isEmpty then [' '] else []) else lineEnd
        blockLines folded column fuel c (acc ++ joint) breaks
      else (acc, lineEnd, breaks, c)

/-- The block at the place, inside a block that is indented by `indent`. -/
def block (indent : Int) (c : Cursor) : Except Error (String × Cursor) :=
  let folded := c.peek == some '>'
  match blockSigns c.next with
  | .error e => .error e
  | .ok (chomp, increment, c) =>
    match c.endOfLine with
    | .error e => .error e
    | .ok c =>
      let least := (max (indent + 1) 1).toNat
      let (column, breaks, c) :=
        match increment with
        | none =>
          let (breaks, width, c) := blockLead (c.rest.length + 1) c [] 0
          (max least width, breaks, c)
        | some d =>
          let column := least + d - 1
          let (breaks, c) := blockBreaks column (c.rest.length + 1) c []
          (column, breaks, c)
      let (text, lineEnd, breaks, c) := blockLines folded column (c.rest.length + 1) c [] breaks
      let tail :=
        match chomp with
        | .strip => []
        | .clip => lineEnd
        | .keep => lineEnd ++ breaks
      .ok (String.ofList (text ++ tail), c)

end SourceAudit.Yaml
