import SourceAudit.Yaml.Token

/-!
# A place in a text

The cursor keeps what is still to be read, how many characters came before, and the line and column
it stands at. A byte order mark takes no column. Line breaks are the newline, U+0085, U+2028 and
U+2029; the first two read as a newline, the others as themselves.

A text need not end where its characters do: an error may stand there, because what follows cannot
be read. Whoever looks that far gets the error, and nobody else. So the cursor also keeps how far
its owner has looked, and an error of the owner's own counts only if that is not too far.
-/

namespace SourceAudit.Yaml

def isBreak (c : Char) : Bool :=
  c == '\n' || c == '\r' || c == '\u0085' || c == '\u2028' || c == '\u2029'

/-- Whether the text ends or its next character ends a line. -/
def atBreak : Option Char → Bool
  | none => true
  | some c => isBreak c

/-- Whether the text ends or its next character is a space or ends a line. -/
def atSpace : Option Char → Bool
  | some ' ' => true
  | c => atBreak c

/-- Whether the text ends or its next character is a space, a tab or ends a line. -/
def atBlank : Option Char → Bool
  | some '\t' => true
  | c => atSpace c

def byteOrderMark : Char := '\ufeff'

/-- The characters a text may hold. -/
def isPrintable (c : Char) : Bool :=
  let n := c.toNat
  c == '\t' || c == '\n' || c == '\r' || (0x20 ≤ n && n ≤ 0x7E) || n == 0x85 ||
    (0xA0 ≤ n && n ≤ 0xD7FF) || (0xE000 ≤ n && n ≤ 0xFFFD) || 0x10000 ≤ n

/-- Whether the character may stand in the name of an anchor, handle or instruction. -/
def isNameChar (c : Char) : Bool :=
  c.isAlphanum || c == '-' || c == '_'

/-- The error that stands where the characters of a text end. -/
structure Obstacle where
  /-- The number of characters before it. -/
  index : Nat
  error : Error
  deriving Repr

/-- A place in a text. -/
structure Cursor where
  rest : List Char
  index : Nat := 0
  line : Nat := 0
  column : Nat := 0
  /-- The number of characters that have been looked at, those before the place included. -/
  seen : Nat := 0
  /-- What stands at the end, unless the text ends there. -/
  obstacle : Option Obstacle := none
  deriving Repr, Inhabited

namespace Cursor

/-- The place after `n` characters have been looked at. -/
def look (c : Cursor) (n : Nat) : Cursor :=
  { c with seen := max c.seen (c.index + n) }

/-- The error at the end, when somebody has come or looked that far. -/
def blocked? (c : Cursor) : Option Error :=
  (c.obstacle.filter fun o => o.index ≤ c.index || o.index < c.seen).map Obstacle.error

/-- Gives up with an error, or with the one at the end of the text. -/
def fail {α : Type} (c : Cursor) (e : Error) : Except Error α :=
  .error (c.blocked?.getD e)

/-- The place, unless it is blocked. -/
def checked (c : Cursor) : Except Error Cursor :=
  match c.blocked? with
  | some e => .error e
  | none => .ok c

def peek (c : Cursor) : Option Char :=
  c.rest.head?

def peekAt (c : Cursor) (k : Nat) : Option Char :=
  c.rest[k]?

def next (c : Cursor) : Cursor :=
  match c.rest with
  | [] => c
  | ch :: rest =>
    if isBreak ch then
      { c with rest := rest, index := c.index + 1, line := c.line + 1, column := 0 }
    else if ch = byteOrderMark then { c with rest := rest, index := c.index + 1 }
    else { c with rest := rest, index := c.index + 1, column := c.column + 1 }

def forward (c : Cursor) : Nat → Cursor
  | 0 => c
  | n + 1 => c.next.forward n

/-- The longest run of characters of a class: the run and the place after it. -/
def span (c : Cursor) (p : Char → Bool) : List Char × Cursor :=
  let run := c.rest.takeWhile p
  (run, c.forward run.length)

/-- The place after the longest run of characters of a class. -/
def skip (c : Cursor) (p : Char → Bool) : Cursor :=
  (c.span p).2

/-- A line break as it reads, and the place after it; nothing where there is none. -/
def lineBreak (c : Cursor) : List Char × Cursor :=
  match c.peek with
  | some ch =>
    if ch == '\u2028' || ch == '\u2029' then ([ch], c.next)
    else if isBreak ch then (['\n'], c.next)
    else ([], c)
  | none => ([], c)

/-- Whether three equal characters stand here. -/
def isTriple (c : Cursor) (ch : Char) : Bool :=
  c.rest.take 3 == [ch, ch, ch]

/-- Whether three equal characters stand here with a blank after them. -/
def atTriple (c : Cursor) (ch : Char) : Bool :=
  c.isTriple ch && atBlank (c.peekAt 3)

/-- Whether the mark of a document's start or end stands here. -/
def atSeparator (c : Cursor) : Bool :=
  c.atTriple '-' || c.atTriple '.'

/-- The place after somebody has looked for the mark of a document's start or end. -/
def lookForSeparator (c : Cursor) : Cursor :=
  c.look (if c.isTriple '-' || c.isTriple '.' then 4 else 3)

/-- The place after spaces, a comment and the break behind them; nothing else may stand there. -/
def endOfLine (c : Cursor) : Except Error Cursor :=
  let c := c.skip (· == ' ')
  let c := if c.peek == some '#' then c.skip (!isBreak ·) else c
  if atBreak c.peek then .ok c.lineBreak.2 else c.fail .malformed

/-- The place of the next token: spaces, comments and breaks are passed. Whether a break was
passed comes with it. -/
def toToken : Nat → Cursor → Bool → Cursor × Bool
  | 0, c, broke => (c, broke)
  | fuel + 1, c, broke =>
    let c := c.skip (· == ' ')
    let c := if c.peek == some '#' then c.skip (!isBreak ·) else c
    if c.peek.any isBreak then toToken fuel c.lineBreak.2 true else (c, broke)

/-- The place of the next token, and whether it is on another line. -/
def nextToken (c : Cursor) : Cursor × Bool :=
  let c := if c.index = 0 && c.peek == some byteOrderMark then c.next else c
  toToken (c.rest.length + 1) c false

end Cursor

end SourceAudit.Yaml
