import SourceAudit.Text.Quoted
import SourceAudit.Token.Lexer

/-!
# Token files

The tokens of one source file with a cursor. Indexing, counting and slicing see the whole sequence;
the cursor is a position between zero and the number of tokens that rules move as they read. Every
movement gives a new file and leaves path, source and tokens as they are.
-/

namespace SourceAudit

/-- A token sequence with a cursor. -/
structure TokenFile where
  /-- The path the file is reported under. -/
  path : String
  source : String
  tokens : Array Token
  position : Nat := 0
  deriving DecidableEq, Repr

/-- Why an access to a token file fails. -/
inductive AccessError where
  /-- The cursor was sent to an index that has no token. -/
  | seek (index : Int) (path : String)
  | outOfRange
  /-- A token was asked for at an index beyond all that can be addressed. -/
  | unaddressable
  | zeroStep
  /-- A token was searched for that the file does not hold. -/
  | missing
  deriving DecidableEq, Repr

namespace AccessError

def message : AccessError → String
  | .seek index path =>
    match shownInt index with
    | .ok shown => "Token index " ++ shown ++ " out of range for " ++ path
    | .error limit => limit.message
  | .outOfRange => "tuple index out of range"
  | .unaddressable => "cannot fit 'int' into an index-sized integer"
  | .zeroStep => "slice step cannot be zero"
  | .missing => ""

end AccessError

namespace TokenFile

/-- The file of a source, with the cursor at the start. -/
def ofSource (path source : String) : Except LexError TokenFile :=
  match tokenize source with
  | .ok tokens => .ok { path := path, source := source, tokens := tokens.toArray }
  | .error e => .error e

def size (f : TokenFile) : Nat :=
  f.tokens.size

/-! ## The cursor -/

def rewind (f : TokenFile) : TokenFile :=
  { f with position := 0 }

def valid (f : TokenFile) : Bool :=
  f.position < f.tokens.size

def current (f : TokenFile) : Option Token :=
  f.tokens[f.position]?

/-- The token at an index, which may be any integer. -/
def at? (f : TokenFile) (index : Int) : Option Token :=
  if index < 0 then none else f.tokens[index.toNat]?

/-- Moves the cursor one token on, unless it is at the end already. -/
def advance (f : TokenFile) : TokenFile :=
  if f.position < f.tokens.size then { f with position := f.position + 1 } else f

/-- The token `offset` places from the cursor; there is none before the first. -/
def peek (f : TokenFile) (offset : Int) : Option Token :=
  f.at? (f.position + offset)

/-- Moves the cursor to the token at `index`. -/
def seek (f : TokenFile) (index : Int) : Except AccessError TokenFile :=
  if 0 ≤ index ∧ index < f.tokens.size then .ok { f with position := index.toNat }
  else .error (.seek index f.path)

/-- Moves the cursor past the last token. -/
def drain (f : TokenFile) : TokenFile :=
  { f with position := f.tokens.size }

/-! ## The sequence -/

/-- Whether an index can be addressed: it is an integer of 64 bits. -/
def isAddressable (index : Int) : Bool :=
  -0x8000000000000000 ≤ index && index < 0x8000000000000000

/-- The token at an index; negative indices count from the end. -/
def get (f : TokenFile) (index : Int) : Except AccessError Token :=
  if !isAddressable index then .error .unaddressable
  else
    match f.at? (if index < 0 then index + f.tokens.size else index) with
    | some t => .ok t
    | none => .error .outOfRange

def indexOf (f : TokenFile) (t : Token) : Except AccessError Nat :=
  match f.tokens.toList.findIdx? (· == t) with
  | some i => .ok i
  | none => .error .missing

def count (f : TokenFile) (t : Token) : Nat :=
  f.tokens.toList.countP (· == t)

def contains (f : TokenFile) (t : Token) : Bool :=
  f.tokens.toList.any (· == t)

/-- A slice bound brought into the range from `low` to `high`; negative bounds count from the
end. -/
def clampBound (size low high : Int) (bound : Int) : Int :=
  let b := if bound < 0 then bound + size else bound
  max low (min high b)

/-- The indices `start`, `start + step`, … before `stop`, at most `fuel` of them. -/
def progression (start stop step : Int) : Nat → List Int
  | 0 => []
  | fuel + 1 =>
    if (0 < step ∧ start < stop) ∨ (step < 0 ∧ stop < start) then
      start :: progression (start + step) stop step fuel
    else []

/-- The tokens of a slice. Absent bounds are the ends in the direction of the step. -/
def slice (f : TokenFile) (start stop step : Option Int) : Except AccessError (List Token) :=
  let size : Int := f.tokens.size
  let stride := step.getD 1
  if stride = 0 then .error .zeroStep
  else
    let low : Int := if stride < 0 then -1 else 0
    let high : Int := if stride < 0 then size - 1 else size
    let first := (start.map (clampBound size low high)).getD (if stride < 0 then high else low)
    let last := (stop.map (clampBound size low high)).getD (if stride < 0 then low else high)
    .ok ((progression first last stride f.tokens.size).filterMap f.at?)

/-! ## The source -/

/-- The lines of the source without their line ends. -/
def lines (f : TokenFile) : List String :=
  (Text.lineTexts f.source.toList).map String.ofList

/-- The first token on a line, looking no further than the first token on a later line. -/
def firstOnLine (line : Int) : List Token → Option Token
  | [] => none
  | t :: ts => if t.line = line then some t else if line < t.line then none else firstOnLine line ts

/-- The first token that starts on line `line`. -/
def firstTokenOnLine (f : TokenFile) (line : Int) : Option Token :=
  firstOnLine line f.tokens.toList

/-- The file as a message shows it. -/
def summary (f : TokenFile) : String :=
  "File(" ++ Text.quoted f.path ++ ", tokens=" ++ natText f.tokens.size ++ ")"

/-! ## What the operations do to the cursor -/

@[simp] theorem path_advance (f : TokenFile) : f.advance.path = f.path := by
  unfold advance; split <;> rfl

theorem current_isSome_iff (f : TokenFile) : f.current.isSome = f.valid := by
  by_cases h : f.position < f.tokens.size <;> simp [current, valid, h]

end TokenFile

end SourceAudit
