import SourceAudit.Text.Identifier
import SourceAudit.Text.Lines
import SourceAudit.Token
import SourceAudit.Token.Lexeme

/-!
# From source text to tokens

The lexer reads one physical line after the other. Between lines it keeps the bracket depth, the
open blocks' indentations, whether a backslash continued the line, and a string that is still open.
`Lexer.scan` reads the inside of a line, `Lexer.step` one whole line, and `tokenize` a source. A
source is refused when it ends inside a string or statement, or when a line's indentation falls
between those of the open blocks.
-/

namespace SourceAudit

/-- Why a source has no tokens. -/
inductive LexError where
  /-- The source ends inside a string that starts at the given place. -/
  | openString (line column : Nat)
  /-- The source ends inside a statement; the line is the one after the last. -/
  | openStatement (line : Nat)
  /-- A line's indentation is that of no open block. -/
  | unindent (line : Nat)
  deriving DecidableEq, Repr

namespace LexError

def message : LexError → String
  | .openString line column =>
    "('EOF in multi-line string', (" ++ natText line ++ ", " ++ natText column ++ "))"
  | .openStatement line => "('EOF in multi-line statement', (" ++ natText line ++ ", 0))"
  | .unindent line =>
    "unindent does not match any outer indentation level (<tokenize>, line " ++ natText line ++ ")"

end LexError

namespace Lexer

/-- A string whose end has not been read yet. -/
structure OpenString where
  line : Nat
  column : Nat
  /-- What has been read of it. -/
  text : List Char
  /-- The physical lines read so far, from their starts. -/
  sourceLine : List Char
  quote : Char
  triple : Bool
  deriving DecidableEq, Repr

/-- How far it is to the end of the string on a line. -/
def OpenString.close (o : OpenString) (line : List Char) : Option Nat :=
  if o.triple then Lexeme.closeTriple o.quote line else Lexeme.closeQuote o.quote line

/-- What the lexer keeps from one line to the next. -/
structure State where
  /-- Opening minus closing brackets read so far. -/
  depth : Int := 0
  /-- Whether the last line ended in a backslash. -/
  continued : Bool := false
  /-- The indentations of the open blocks, the innermost first, without the outermost zero. -/
  indents : List Nat := []
  pending : Option OpenString := none
  /-- Whether a string opened on one line needs a backslash at the end of each line; it stays set
  until a string is closed. -/
  needsBackslash : Bool := false
  deriving DecidableEq, Repr

/-- A token with its text as characters. -/
def token (kind : Kind) (text : List Char) (line column : Nat) (sourceLine : List Char) :
    Token where
  kind := kind
  text := String.ofList text
  line := line
  column := column
  sourceLine := String.ofList sourceLine

/-- Whether `c` may stand before a token inside a line. -/
def isInnerBlank (c : Char) : Bool :=
  c == ' ' || c == '\x0c' || c == '\t'

/-- The change of bracket depth at an operator. -/
def depthChange : Char → Int
  | '(' | '[' | '\x7b' => 1
  | ')' | ']' | '\x7d' => -1
  | _ => 0

/-- The kind of a run of word characters. -/
def wordKind (text : List Char) : Kind :=
  if text.head?.any Text.isNameStart then Kind.name else Kind.op

/-- Puts a token before those that are read after it. -/
def emit (t : Token) (r : State × List Token) : State × List Token :=
  (r.1, t :: r.2)

/-- The tokens of a line from column `column` on, where `rest` is what is left of it. -/
def scan (no : Nat) (line : List Char) (s : State) (column : Nat) :
    List Char → State × List Token
  | [] => (s, [])
  | c :: cs =>
    let blanks := ((c :: cs).takeWhile isInnerBlank).length
    let here := (c :: cs).drop blanks
    let start := column + blanks
    let tok := fun kind n => token kind (here.take n) no start line
    match Lexeme.match? here with
    | none => emit (token Kind.errorToken [c] no column line) (scan no line s (column + 1) cs)
    | some .done => (s, [])
    | some (.continuation n) =>
      scan no line { s with continued := true } (start + n) (cs.drop (blanks + n - 1))
    | some (.comment n) =>
      emit (tok Kind.comment n) (scan no line s (start + n) (cs.drop (blanks + n - 1)))
    | some (.number n) =>
      emit (tok Kind.number n) (scan no line s (start + n) (cs.drop (blanks + n - 1)))
    | some (.lineEnd n) =>
      emit (tok (if s.depth > 0 then Kind.nl else Kind.newline) n)
        (scan no line s (start + n) (cs.drop (blanks + n - 1)))
    | some (.operator n) =>
      let depth := s.depth + (here.head?.map depthChange).getD 0
      emit (tok Kind.op n)
        (scan no line { s with depth := depth } (start + n) (cs.drop (blanks + n - 1)))
    | some (.word n) =>
      emit (tok (wordKind (here.take n)) n)
        (scan no line s (start + n) (cs.drop (blanks + n - 1)))
    | some (.string n q) =>
      if (here.take n).getLast? = some '\n' then
        let o := OpenString.mk no start here line q false
        ({ s with pending := some o, needsBackslash := true }, [])
      else
        emit (tok Kind.string n) (scan no line s (start + n) (cs.drop (blanks + n - 1)))
    | some (.triple n q) =>
      match Lexeme.closeTriple q (here.drop n) with
      | some m =>
        emit (tok Kind.string (n + m))
          (scan no line s (start + n + m) (cs.drop (blanks + n + m - 1)))
      | none => ({ s with pending := some (OpenString.mk no start here line q true) }, [])
termination_by rest => rest.length

/-- The column that leading white space reaches: a tab goes to the next multiple of eight and a
form feed back to zero. -/
def indentColumn (blanks : List Char) : Nat :=
  blanks.foldl
    (fun n c => if c = ' ' then n + 1 else if c = '\t' then (n / 8 + 1) * 8 else 0) 0

/-- The indentation of the innermost open block. -/
def State.indent (s : State) : Nat :=
  s.indents.headD 0

/-- Opens or closes blocks for a statement that starts after `blanks`. -/
def adjustIndent (no : Nat) (line blanks : List Char) (s : State) :
    Except LexError (State × List Token) :=
  let column := indentColumn blanks
  if s.indent < column then
    .ok ({ s with indents := column :: s.indents }, [token Kind.indent blanks no 0 line])
  else if column = s.indent then .ok (s, [])
  else if column = 0 ∨ column ∈ s.indents then
    let closed := s.indents.takeWhile (column < ·)
    .ok ({ s with indents := s.indents.drop closed.length },
      closed.map fun _ => token Kind.dedent [] no blanks.length line)
  else .error (.unindent no)

/-- Reads a line that starts a statement, a comment line or a blank line. -/
def startStatement (no : Nat) (line : List Char) (s : State) :
    Except LexError (State × List Token) :=
  let blanks := line.takeWhile isInnerBlank
  let rest := line.drop blanks.length
  let column := blanks.length
  match rest with
  | [] => .ok (s, [])
  | c :: _ =>
    if c = '#' then
      let text := Text.dropLineEnd rest
      .ok (s, [token Kind.comment text no column line,
        token Kind.nl (rest.drop text.length) no (column + text.length) line])
    else if c = '\r' ∨ c = '\n' then .ok (s, [token Kind.nl rest no column line])
    else
      match adjustIndent no line blanks s with
      | .error e => .error e
      | .ok (s, blocks) =>
        let (s, tokens) := scan no line s column rest
        .ok (s, blocks ++ tokens)

/-- Whether the line ends in a backslash before its line end. -/
def endsInBackslash (line : List Char) : Bool :=
  ['\\', '\n'].isSuffixOf line || ['\\', '\r', '\n'].isSuffixOf line

def State.atStatement (s : State) : Bool :=
  s.depth == 0 && !s.continued

/-- Reads one line inside an open string. -/
def continueString (no : Nat) (line : List Char) (s : State) (o : OpenString) :
    State × List Token :=
  match o.close line with
  | some n =>
    emit (token Kind.string (o.text ++ line.take n) o.line o.column (o.sourceLine ++ line))
      (scan no line { s with pending := none, needsBackslash := false } n (line.drop n))
  | none =>
    if s.needsBackslash && !endsInBackslash line then
      ({ s with pending := none },
        [token Kind.errorToken (o.text ++ line) o.line o.column o.sourceLine])
    else
      let o := { o with text := o.text ++ line, sourceLine := o.sourceLine ++ line }
      ({ s with pending := some o }, [])

/-- Reads one physical line. -/
def step (no : Nat) (line : List Char) (s : State) : Except LexError (State × List Token) :=
  match s.pending with
  | some o => .ok (continueString no line s o)
  | none =>
    if s.atStatement then startStatement no line s
    else .ok (scan no line { s with continued := false } 0 line)

/-- Whether a source whose last line is `last` owes a line end. -/
def owesNewline (last : List Char) : Bool :=
  match last.getLast? with
  | none => false
  | some c => !Text.isLineEnd c && (Text.stripChars last).head? != some '#'

/-- The tokens that close a source: `no` is the number of the line after the last. -/
def closing (no : Nat) (last : List Char) (s : State) : List Token :=
  (if owesNewline last then [token Kind.newline [] (no - 1) last.length []] else []) ++
    s.indents.map (fun _ => token Kind.dedent [] no 0 []) ++ [token Kind.endMarker [] no 0 []]

/-- Ends the source after its last line. -/
def finish (no : Nat) (last : List Char) (s : State) : Except LexError (List Token) :=
  match s.pending with
  | some o => .error (.openString o.line o.column)
  | none => if s.atStatement then .ok (closing no last s) else .error (.openStatement no)

/-- Whether a line that would start a statement holds nothing at all; only the last line can. -/
def isBareLine (s : State) (line : List Char) : Bool :=
  s.pending.isNone && s.atStatement && line.all isInnerBlank

/-- The tokens of the lines from number `no` on, where `last` is the line before them. -/
def lexLines (no : Nat) (last : List Char) (s : State) :
    List (List Char) → Except LexError (List Token)
  | [] => finish no last s
  | line :: lines =>
    if isBareLine s line then .ok (closing no last s)
    else
      match step no line s with
      | .error e => .error e
      | .ok (s, tokens) =>
        match lexLines (no + 1) line s lines with
        | .error e => .error e
        | .ok more => .ok (tokens ++ more)

end Lexer

/-- The tokens of a source. -/
def tokenize (source : String) : Except LexError (List Token) :=
  Lexer.lexLines 1 [] {} (Text.physicalLines source.toList)

end SourceAudit
