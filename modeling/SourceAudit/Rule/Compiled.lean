import SourceAudit.Raised

/-!
# Compiled rule modules

A rule module may be given in compiled form: a header of sixteen octets, of which the first four
tell the format and the next four hold flags, and the code behind it. A file whose code is complete
is given by the module that it imports to, as one of source text is. In a file that is given by its
octets the header is read, and the code counts as cut off; `Compiled.failure` is the exception that
loading such a file ends with.
-/

namespace SourceAudit.Compiled

def magic : List UInt8 := [0xA7, 0x0D, 0x0D, 0x0A]

def headerSize : Nat := 16

/-- The number that octets denote, the lowest first. -/
def littleEndian : List UInt8 → Nat
  | [] => 0
  | b :: bs => b.toNat + 256 * littleEndian bs

def flags (octets : List UInt8) : Nat :=
  littleEndian ((octets.drop 4).take 4)

/-- The letters of the sorts of objects that compiled code is made of. -/
def sorts : List Char :=
  "0NFTS.iIfgxylstAazZu()[\x7bc<>r".toList

/-- The exception about code behind the header that is cut off. -/
def codeFailure : List UInt8 → Raised
  | [] => .ofText "EOFError" "EOF read where object expected"
  | b :: _ =>
    if sorts.contains (Char.ofNat (b.toNat % 128)) then .ofText "EOFError" "marshal data too short"
    else .ofText "ValueError" "bad marshal data (unknown type code)"

def failure (name : String) (octets : List UInt8) : Raised :=
  if octets.take 4 != magic then
    .ofText "ImportError" ("bad magic number in " ++ Text.quoted name ++ ": " ++
      Value.octetsLiteral (octets.take 4))
  else if octets.length < headerSize then
    .ofText "EOFError" ("reached EOF while reading pyc header of " ++ Text.quoted name)
  else if flags octets ≥ 4 then
    .ofText "ImportError" ("invalid flags " ++ natText (flags octets) ++ " in " ++ Text.quoted name)
  else codeFailure (octets.drop headerSize)

end SourceAudit.Compiled
