import SourceAudit.Text.Quoted

/-!
# Paths

A path is a root and a list of parts. Reading a path drops empty parts and single dots, and keeps
double dots, which only a file tree can resolve. The last part is the name; its suffix starts at the
last dot, unless that dot is the first or the last character of the name.
-/

namespace SourceAudit

/-- A path. -/
structure Path where
  /-- The slashes of an absolute path. -/
  root : String := ""
  parts : List String := []
  deriving DecidableEq, Repr

namespace Path

/-- The pieces of a text between slashes. -/
def pieces (cs : List Char) : List (List Char) :=
  cs.splitOn '/'

/-- The root that leading slashes stand for: two of them are kept, more count as one. -/
def rootOf : List Char → String
  | '/' :: '/' :: '/' :: _ => "/"
  | '/' :: '/' :: _ => "//"
  | '/' :: _ => "/"
  | _ => ""

/-- Whether a piece is a part of the path. -/
def isPart (piece : List Char) : Bool :=
  !piece.isEmpty && piece != ['.']

/-- The path that a text denotes. -/
def ofString (s : String) : Path where
  root := rootOf s.toList
  parts := ((pieces s.toList).filter isPart).map String.ofList

/-- The text of a path; the path without parts is a dot. -/
def text (p : Path) : String :=
  if p.root.isEmpty && p.parts.isEmpty then "."
  else p.root ++ String.intercalate "/" p.parts

def join (p : Path) (parts : List String) : Path :=
  { p with parts := p.parts ++ parts }

def parent (p : Path) : Path :=
  { p with parts := p.parts.dropLast }

/-- The text in the form that `ofString` and `text` give it. -/
def normalize (s : String) : String :=
  (ofString s).text

/-! ## Names -/

/-- Where the suffix of a name starts, counted from the end; zero when there is none. -/
def suffixLength (name : List Char) : Nat :=
  let tail := (name.reverse.takeWhile (· != '.')).length
  if 0 < tail ∧ tail + 1 < name.length then tail + 1 else 0

def suffixOf (name : String) : String :=
  let cs := name.toList
  String.ofList (cs.drop (cs.length - suffixLength cs))

def stemOf (name : String) : String :=
  let cs := name.toList
  String.ofList (cs.take (cs.length - suffixLength cs))

def name (p : Path) : String :=
  p.parts.getLast?.getD ""

def suffix (p : Path) : String :=
  suffixOf p.name

def stem (p : Path) : String :=
  stemOf p.name

example : normalize "./a//b/../c/" = "a/b/../c" := by decide +kernel
example : suffixOf ".py" = "" ∧ suffixOf "..py" = ".py" ∧ suffixOf "dot." = "" := by
  decide +kernel

/-! ## Order -/

/-- Whether one list of parts comes before another or equals it: part by part, each by code
points. -/
def partsLe : List String → List String → Bool
  | [], _ => true
  | _ :: _, [] => false
  | a :: as, b :: bs => if a = b then partsLe as bs else decide (a < b)

end Path

end SourceAudit
