import SourceAudit.Yaml.Property
import SourceAudit.Yaml.Supply

/-!
# From text to tokens

Tokens are read one after the other, and no further than they are asked for. Between them the
reader keeps the open indentations, the number of open brackets, and for each bracket depth the
place where a mapping key may have started. When the colon of a key comes, the mark of the key is
put in front of what was read since; a key has to end on its line and within 1024 characters. So
the next token is known only once it can no longer be the start of a key.
-/

namespace SourceAudit.Yaml

/-- A place where a mapping key may have started. -/
structure PendingKey where
  depth : Nat
  /-- The number of tokens before. -/
  position : Nat
  /-- Whether the text is malformed when it is no key. -/
  required : Bool
  index : Nat
  line : Nat
  column : Nat
  deriving Repr

/-- What is kept between two tokens. -/
structure Scan where
  cursor : Cursor
  size : Nat
  tokens : Array Token := #[]
  used : Nat := 0
  /-- The column of the innermost open block; -1 when none is open. -/
  indent : Int := -1
  /-- The columns of the blocks around it. -/
  outer : List Int := []
  depth : Nat := 0
  /-- Whether a key may start here. -/
  keyAllowed : Bool := true
  /-- Where keys may have started. -/
  pending : List PendingKey := []
  finished : Bool := false
  deriving Repr

namespace Scan

def inFlow (s : Scan) : Bool :=
  s.depth != 0

def push (s : Scan) (t : Token) : Scan :=
  { s with tokens := s.tokens.push t }

/-- Adds a token of some characters and passes them. -/
def take (s : Scan) (t : Token) (n : Nat) : Scan :=
  { s.push t with cursor := s.cursor.forward n }

/-- Drops the keys that can no longer end; a required one may not be dropped. -/
def dropStale (s : Scan) : Except Error Scan :=
  let stale (k : PendingKey) : Bool :=
    k.line != s.cursor.line || s.cursor.index - k.index > 1024
  if s.pending.any fun k => stale k && k.required then .error .malformed
  else .ok { s with pending := s.pending.filter fun k => !stale k }

/-- Drops the key at the present depth; a required one may not be dropped. -/
def dropKey (s : Scan) : Except Error Scan :=
  if s.pending.any fun k => k.depth = s.depth && k.required then .error .malformed
  else .ok { s with pending := s.pending.filter fun k => k.depth != s.depth }

/-- Notes that a key may start here, where one is allowed. -/
def saveKey (s : Scan) : Except Error Scan :=
  if !s.keyAllowed then .ok s
  else
    s.dropKey.map fun s =>
      { s with
        pending := s.pending ++
          [{ depth := s.depth, position := s.tokens.size
             required := !s.inFlow && s.indent == s.cursor.column
             index := s.cursor.index, line := s.cursor.line, column := s.cursor.column }] }

/-- Closes the blocks right of a column. -/
def unwind (column : Int) : List Int → Scan → Scan
  | [], s => s
  | i :: outer, s =>
    if s.indent > column then
      unwind column outer { s.push .blockEnd with indent := i, outer := outer }
    else s

/-- Closes the blocks right of a column; brackets hide indentation. -/
def unwindTo (s : Scan) (column : Int) : Scan :=
  if s.inFlow then s else unwind column s.outer s

/-- Opens a block at a column right of the present one, or nothing. -/
def openBlock (s : Scan) (column : Nat) : Option Scan :=
  if s.indent < column then
    some { s with indent := column, outer := s.indent :: s.outer }
  else none

/-- Opens a block at the present column with its start token, where it is right of the open one. -/
def openHere (s : Scan) (start : Token) : Scan :=
  match s.openBlock s.cursor.column with
  | some s => s.push start
  | none => s

/-! ## Single tokens -/

def fetchEnd (s : Scan) : Except Error Scan :=
  (s.unwindTo (-1)).dropKey.map fun s =>
    { s.push .streamEnd with keyAllowed := false, pending := [], finished := true }

def fetchDirective (s : Scan) : Except Error Scan := do
  let s ← (s.unwindTo (-1)).dropKey
  let (d, c) ← directive s.cursor
  return { s.push (.directive d) with cursor := c, keyAllowed := false }

def fetchSeparator (s : Scan) (t : Token) : Except Error Scan :=
  (s.unwindTo (-1)).dropKey.map fun s => { s.take t 3 with keyAllowed := false }

def fetchOpen (s : Scan) (t : Token) : Except Error Scan :=
  s.saveKey.map fun s => { s.take t 1 with depth := s.depth + 1, keyAllowed := true }

def fetchClose (s : Scan) (t : Token) : Except Error Scan :=
  if s.depth = 0 then s.cursor.next.fail .malformed
  else s.dropKey.map fun s => { s.take t 1 with depth := s.depth - 1, keyAllowed := false }

def fetchComma (s : Scan) : Except Error Scan :=
  s.dropKey.map fun s => { s.take .flowEntry 1 with keyAllowed := true }

def fetchEntry (s : Scan) : Except Error Scan :=
  if !s.inFlow && !s.keyAllowed then .error .malformed
  else
    let s := if s.inFlow then s else s.openHere .blockSequenceStart
    s.dropKey.map fun s => { s.take .blockEntry 1 with keyAllowed := true }

/-- The question mark of a key. -/
def fetchKey (s : Scan) : Except Error Scan :=
  if !s.inFlow && !s.keyAllowed then .error .malformed
  else
    let s := if s.inFlow then s else s.openHere .blockMappingStart
    s.dropKey.map fun s => { s.take .key 1 with keyAllowed := !s.inFlow }

/-- The colon behind a key that started earlier: the key is marked there. -/
def markKey (s : Scan) (k : PendingKey) : Scan :=
  let s := { s with pending := s.pending.filter fun p => p.depth != s.depth, keyAllowed := false }
  let opened := if s.inFlow then none else s.openBlock k.column
  let marks := if opened.isSome then [Token.blockMappingStart, .key] else [.key]
  let s := opened.getD s
  { s with
    tokens := s.tokens.extract 0 k.position ++ marks.toArray ++
      s.tokens.extract k.position s.tokens.size }

/-- The colon of a value. -/
def fetchValue (s : Scan) : Except Error Scan :=
  match s.pending.find? fun k => k.depth = s.depth with
  | some k => .ok ((s.markKey k).take .value 1)
  | none =>
    if !s.inFlow && !s.keyAllowed then .error .malformed
    else
      let s := if s.inFlow then s else s.openHere .blockMappingStart
      s.dropKey.map fun s => { s.take .value 1 with keyAllowed := !s.inFlow }

/-- A token that may start a key. -/
def fetchWith (s : Scan) (read : Cursor → Except Error (Token × Cursor)) : Except Error Scan := do
  let s ← s.saveKey
  let (t, c) ← read s.cursor
  return { s.push t with cursor := c, keyAllowed := false }

def fetchBlock (s : Scan) : Except Error Scan := do
  let s ← s.dropKey
  let (t, c) ← block s.indent s.cursor
  return { s.push (.scalar (.text t) false) with cursor := c, keyAllowed := true }

/-- A plain scalar; a key may follow when it ended with a break. -/
def fetchPlain (s : Scan) : Except Error Scan :=
  s.saveKey.map fun s =>
    let (t, c, broke) := plain s.inFlow (s.indent + 1) s.cursor
    { s.push (.scalar (.text t) true) with cursor := c, keyAllowed := broke }

/-- Whether a plain scalar starts here. -/
def atPlain (s : Scan) (ch : Char) : Bool :=
  !(atBlank (some ch) || "-?:,[]\x7b\x7d#&*!|>'\"%@\x60".toList.contains ch) ||
    (!atBlank (s.cursor.peekAt 1) && (ch == '-' || (!s.inFlow && (ch == '?' || ch == ':'))))

/-- The number of characters that have to be looked at to tell what starts with the character at the
place. -/
def clue (s : Scan) (ch : Char) : Nat :=
  let atStart := s.cursor.column = 0
  if atStart && (ch == '-' || ch == '.') then (if s.cursor.isTriple ch then 4 else 3)
  else if ch == '-' || ch == '@' || ch == '\x60' || ch == '\t' then 2
  else if ch == '%' then (if atStart then 1 else 2)
  else if ch == '?' || ch == ':' then (if s.inFlow then 1 else 2)
  else if ch == '|' || ch == '>' then (if s.inFlow then 2 else 1)
  else 1

/-- The token that starts with the character at the place. -/
def fetchAt (s : Scan) (ch : Char) : Except Error Scan :=
  let followed := atBlank (s.cursor.peekAt 1)
  let atStart := s.cursor.column = 0
  if ch == '%' && atStart then s.fetchDirective
  else if atStart && s.cursor.atTriple '-' then s.fetchSeparator .documentStart
  else if atStart && s.cursor.atTriple '.' then s.fetchSeparator .documentEnd
  else if ch == '[' then s.fetchOpen .flowSequenceStart
  else if ch == '\x7b' then s.fetchOpen .flowMappingStart
  else if ch == ']' then s.fetchClose .flowSequenceEnd
  else if ch == '\x7d' then s.fetchClose .flowMappingEnd
  else if ch == ',' then s.fetchComma
  else if ch == '-' && followed then s.fetchEntry
  else if ch == '?' && (s.inFlow || followed) then s.fetchKey
  else if ch == ':' && (s.inFlow || followed) then s.fetchValue
  else if ch == '*' then s.fetchWith fun c => (anchorName c).map fun r => (.reference r.1, r.2)
  else if ch == '&' then s.fetchWith fun c => (anchorName c).map fun r => (.anchor r.1, r.2)
  else if ch == '!' then s.fetchWith tagToken
  else if (ch == '|' || ch == '>') && !s.inFlow then s.fetchBlock
  else if ch == '\'' || ch == '"' then
    s.fetchWith fun c => (quoted c ch).map fun r => (.scalar r.1 false, r.2)
  else if s.atPlain ch then s.fetchPlain
  else .error .malformed

/-- Reads the next token. -/
def fetch (s : Scan) : Except Error Scan :=
  let (c, broke) := s.cursor.nextToken
  let s := { s with cursor := c, keyAllowed := s.keyAllowed || (broke && !s.inFlow) }
  match c.checked, s.dropStale with
  | .error e, _ | .ok _, .error e => .error e
  | .ok _, .ok s =>
    let s := s.unwindTo s.cursor.column
    match s.cursor.peek with
    | none => s.fetchEnd
    | some ch => do
      let c ← (s.cursor.look (s.clue ch)).checked
      let s ← fetchAt { s with cursor := c } ch
      let _ ← s.cursor.checked
      return s

def isUndecided (s : Scan) : Bool :=
  s.pending.any fun k => k.position == s.used

/-- Reads tokens until the next one is known. -/
def settle : Nat → Scan → Except Error Scan
  | 0, s => .ok s
  | fuel + 1, s =>
    if s.finished then .ok s
    else
      match (if s.used < s.tokens.size then s.dropStale else .ok s) with
      | .error e => .error e
      | .ok s =>
        if s.used < s.tokens.size && !s.isUndecided then .ok s
        else
          match s.fetch with
          | .error e => .error e
          | .ok s => settle fuel s

/-- Reads on until the next token is known, and gives it. -/
def next (s : Scan) : Except Error (Token × Scan) :=
  match settle (s.size - s.cursor.index + 2) s with
  | .error e => .error e
  | .ok s => .ok ((s.tokens[s.used]?).getD .streamEnd, s)

/-- The beginning of a text. -/
def ofSupply (s : Supply) : Scan :=
  let size := s.chars.length
  { cursor := { rest := s.chars, obstacle := s.error.map fun e => ⟨size, e⟩ }, size := size }

end Scan

end SourceAudit.Yaml
