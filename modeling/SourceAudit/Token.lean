import SourceAudit.Number.Integer

/-!
# Tokens

A token is a piece of source text with its kind, its place and the physical line it was read from.
Kinds are numbered; the lexer uses a few of them, and tokens made by hand may carry any number, so
a kind is the number itself with names for the numbers in use.
-/

namespace SourceAudit

/-- The kind of a token, by number. -/
structure Kind where
  code : Int
  deriving DecidableEq, Repr, Inhabited

namespace Kind

def endMarker : Kind := ⟨0⟩
def name : Kind := ⟨1⟩
def number : Kind := ⟨2⟩
def string : Kind := ⟨3⟩
/-- The end of a logical line. -/
def newline : Kind := ⟨4⟩
/-- White space that opens a block. -/
def indent : Kind := ⟨5⟩
/-- The end of a block. -/
def dedent : Kind := ⟨6⟩
def op : Kind := ⟨54⟩
/-- A piece of text that is no token. -/
def errorToken : Kind := ⟨60⟩
def comment : Kind := ⟨61⟩
/-- The end of a physical line that ends no logical line. -/
def nl : Kind := ⟨62⟩

/-- The labels of the kinds numbered from zero. -/
def labels : List String :=
  ["ENDMARKER", "NAME", "NUMBER", "STRING", "NEWLINE", "INDENT", "DEDENT", "LPAR", "RPAR", "LSQB",
   "RSQB", "COLON", "COMMA", "SEMI", "PLUS", "MINUS", "STAR", "SLASH", "VBAR", "AMPER", "LESS",
   "GREATER", "EQUAL", "DOT", "PERCENT", "LBRACE", "RBRACE", "EQEQUAL", "NOTEQUAL", "LESSEQUAL",
   "GREATEREQUAL", "TILDE", "CIRCUMFLEX", "LEFTSHIFT", "RIGHTSHIFT", "DOUBLESTAR", "PLUSEQUAL",
   "MINEQUAL", "STAREQUAL", "SLASHEQUAL", "PERCENTEQUAL", "AMPEREQUAL", "VBAREQUAL",
   "CIRCUMFLEXEQUAL", "LEFTSHIFTEQUAL", "RIGHTSHIFTEQUAL", "DOUBLESTAREQUAL", "DOUBLESLASH",
   "DOUBLESLASHEQUAL", "AT", "ATEQUAL", "RARROW", "ELLIPSIS", "COLONEQUAL", "OP", "AWAIT", "ASYNC",
   "TYPE_IGNORE", "TYPE_COMMENT", "SOFT_KEYWORD", "ERRORTOKEN", "COMMENT", "NL", "ENCODING",
   "N_TOKENS"]

/-- The label of a kind: its name, or its number when it has none. -/
def label (k : Kind) : String :=
  if k.code = 256 then "NT_OFFSET"
  else if k.code < 0 then intText k.code
  else (labels[k.code.toNat]?).getD (intText k.code)

example : op.label = "OP" := by decide +kernel
example : (⟨99⟩ : Kind).label = "99" := by decide +kernel

end Kind

/-- A token with its place in the source. -/
structure Token where
  kind : Kind
  text : String
  /-- The line it starts on, counted from one. -/
  line : Int
  /-- The column it starts at, counted from zero. -/
  column : Int
  /-- The physical lines it stands on. -/
  sourceLine : String := ""
  deriving DecidableEq, Repr, Inhabited

namespace Token

/-- Whether the token has the given kind and, when one is given, the given text. -/
def isA (t : Token) (kind : Kind) (text : Option String) : Bool :=
  t.kind == kind && text.all (· == t.text)

theorem isA_some_iff (t : Token) (kind : Kind) (text : String) :
    t.isA kind (some text) = true ↔ t.kind = kind ∧ t.text = text := by
  simp only [isA, Bool.and_eq_true, beq_iff_eq, Option.all_some, and_congr_right_iff]
  exact fun _ => eq_comm

end Token

end SourceAudit
