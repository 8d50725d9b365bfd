import SourceAudit.FileTree
import SourceAudit.Text.Lines
import SourceAudit.Text.Utf8

/-!
# Reading source text

A source file may declare its encoding in a comment on the first line, or on the second when the
first is blank or a comment; a byte order mark declares UTF-8, and UTF-8 is also the default. The
text is decoded strictly and its line ends are unified.
-/

namespace SourceAudit

/-- The encodings of source text. A file that declares any other counts as one whose encoding is
not known, though there are many more that could be read. -/
inductive Encoding where
  | utf8
  /-- Every octet is the character of that number. -/
  | latin1
  /-- Octets below 0x80 only. -/
  | ascii
  deriving DecidableEq, Repr

/-- Why a source text cannot be read. -/
inductive SourceError where
  | file (e : FileError)
  /-- A line that could declare the encoding is not UTF-8. -/
  | badDeclaration (path : String)
  | unknownEncoding (path name : String)
  /-- The byte order mark contradicts the declaration. -/
  | markConflict (path : String)
  | undecodable
  deriving DecidableEq, Repr

namespace SourceError

def message : SourceError → String
  | .badDeclaration path => "invalid or missing encoding declaration for " ++ Text.quoted path
  | .unknownEncoding path name => "unknown encoding for " ++ Text.quoted path ++ ": " ++ name
  | .markConflict path => "encoding problem for " ++ Text.quoted path ++ ": utf-8"
  | .file _ | .undecodable => ""

end SourceError

namespace SourceText

def byteOrderMark : List UInt8 := [0xEF, 0xBB, 0xBF]

/-- The first line with its line feed, and the rest. -/
def splitLine : List UInt8 → List UInt8 × List UInt8
  | [] => ([], [])
  | b :: bs =>
    if b = 0x0A then ([b], bs)
    else
      let (line, rest) := splitLine bs
      (b :: line, rest)

/-- Whether `c` may stand before a comment. -/
def isLead (c : Char) : Bool :=
  c == ' ' || c == '\t' || c == '\x0c'

def isEncodingChar (c : Char) : Bool :=
  c.isAlphanum || c == '_' || c == '-' || c == '.'

/-- The name behind the word `coding` and a colon or equals sign, if it is here. -/
def declarationHere (cs : List Char) : Option (List Char) :=
  if "coding".toList.isPrefixOf cs then
    match cs.drop 6 with
    | c :: rest =>
      let name := (rest.dropWhile fun c => c == ' ' || c == '\t').takeWhile isEncodingChar
      if (c = ':' ∨ c = '=') ∧ name ≠ [] then some name else none
    | [] => none
  else none

/-- The first declaration in a comment; it does not go beyond the line. -/
def findDeclaration : List Char → Option (List Char)
  | [] => none
  | c :: cs =>
    match declarationHere (c :: cs) with
    | some name => some name
    | none => if c = '\n' then none else findDeclaration cs

/-- The encoding a line declares. -/
def declaration (line : List Char) : Option (List Char) :=
  match line.dropWhile isLead with
  | '#' :: rest => findDeclaration rest
  | _ => none

def isBlankLine (line : List UInt8) : Bool :=
  match line.dropWhile fun b => b = 0x20 || b = 0x09 || b = 0x0C with
  | [] => true
  | b :: _ => b = 0x23 || b = 0x0D || b = 0x0A

/-- A declared name in lower case with hyphens, as far as it counts. -/
def foldedName (name : List Char) : List Char :=
  (name.take 12).map fun c => if c = '_' then '-' else c.toLower

/-- Whether the name is `base`, or starts with it and a hyphen. -/
def isVariantOf (base : String) (name : List Char) : Bool :=
  name == base.toList || (base.toList ++ ['-']).isPrefixOf name

/-- The name an encoding is looked up under. -/
def normalName (name : List Char) : String :=
  let folded := foldedName name
  if isVariantOf "utf-8" folded then "utf-8"
  else if isVariantOf "latin-1" folded || isVariantOf "iso-8859-1" folded ||
      isVariantOf "iso-latin-1" folded then "iso-8859-1"
  else String.ofList name

/-- The letters, digits and dots of a name in lower case, with one underscore wherever anything
else stood between two of them. `started` once one has been kept; `pending` when something has been
left out since. -/
def tableChars : List Char → (started pending : Bool) → List Char
  | [], _, _ => []
  | c :: cs, started, pending =>
    if c.isAlphanum || c == '.' then
      (if started && pending then ['_', c.toLower] else [c.toLower]) ++ tableChars cs true false
    else tableChars cs started true

/-- The encodings by the names of their own. -/
def encodingNames : List (String × Encoding) :=
  [("utf_8", .utf8), ("utf_8_sig", .utf8), ("latin_1", .latin1), ("ascii", .ascii)]

/-- The encodings by their other names. -/
def encodingAliases : List (String × Encoding) :=
  ["cp65001", "u8", "utf", "utf8", "utf8_ucs2", "utf8_ucs4"].map (·, .utf8) ++
  ["8859", "cp819", "csisolatin1", "ibm819", "iso8859", "iso8859_1", "iso_8859_1",
    "iso_8859_1_1987", "iso_ir_100", "l1", "latin", "latin1"].map (·, .latin1) ++
  ["646", "ansi_x3.4_1968", "ansi_x3.4_1986", "ansi_x3_4_1968", "cp367", "csascii", "ibm367",
    "iso646_us", "iso_646.irv_1991", "iso_ir_6", "us", "us_ascii"].map (·, .ascii)

/-- The encoding of a name, of the three that can be read. In an alias, a dot may be written for an
underscore. -/
def encodingOf? (name : String) : Option Encoding :=
  let n := tableChars name.toList false false
  let undotted := n.map fun c => if c = '.' then '_' else c
  (encodingAliases.lookup (String.ofList n)).or
    ((encodingAliases.lookup (String.ofList undotted)).or
      (encodingNames.lookup (String.ofList n)))

/-- The encoding that a line declares; `marked` says whether the file has a byte order mark. -/
def declaredEncoding (path : String) (marked : Bool) (line : List UInt8) :
    Except SourceError (Option Encoding) :=
  match Text.Utf8.decode line with
  | none => .error (.badDeclaration path)
  | some cs =>
    match declaration cs with
    | none => .ok none
    | some name =>
      let name := normalName name
      match encodingOf? name with
      | none => .error (.unknownEncoding path name)
      | some e => if marked && name != "utf-8" then .error (.markConflict path) else .ok (some e)

/-- The encoding of a file's octets behind the byte order mark. -/
def detect (path : String) (marked : Bool) (octets : List UInt8) : Except SourceError Encoding :=
  match octets with
  | [] => .ok .utf8
  | _ =>
    let (first, rest) := splitLine octets
    match declaredEncoding path marked first with
    | .error e => .error e
    | .ok (some e) => .ok e
    | .ok none =>
      if !isBlankLine first || rest.isEmpty then .ok .utf8
      else
        match declaredEncoding path marked (splitLine rest).1 with
        | .error e => .error e
        | .ok e => .ok (e.getD .utf8)

/-- The characters of octets in an encoding. -/
def decodeAs (e : Encoding) (octets : List UInt8) : Option (List Char) :=
  match e with
  | .utf8 => Text.Utf8.decode octets
  | .latin1 => some (Text.Utf8.decodeLatin1 octets)
  | .ascii => Text.Utf8.decodeAscii octets

def decode (path : String) (octets : List UInt8) : Except SourceError (List Char) :=
  let marked := byteOrderMark.isPrefixOf octets
  let body := if marked then octets.drop 3 else octets
  match detect path marked body with
  | .error e => .error e
  | .ok e =>
    match decodeAs e body with
    | none => .error .undecodable
    | some cs => .ok (Text.unifyLineEnds cs)

def read (t : FileTree) (path : String) : Except SourceError String :=
  let p := Path.ofString path
  match t.readBytes p with
  | .error e => .error (.file e)
  | .ok octets => (decode p.text octets).map String.ofList

end SourceText

end SourceAudit
