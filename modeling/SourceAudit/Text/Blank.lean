import SourceAudit.Text.CodePoints

/-!
# White space and blank texts

The white space characters of every script, stripping them from both ends of a text, and the test
for a text that holds nothing else. Validator output is stripped and blank settings are refused by
these definitions.
-/

namespace SourceAudit.Text

def blankTable : CodePoints where
  ranges :=
    [(0x9, 0xD), (0x1C, 0x20), (0x85, 0x85), (0xA0, 0xA0), (0x1680, 0x1680), (0x2000, 0x200A),
     (0x2028, 0x2029), (0x202F, 0x202F), (0x205F, 0x205F), (0x3000, 0x3000)]

def isBlank (c : Char) : Bool :=
  blankTable.contains c

/-- Drops the characters of the class `p` from the right end. -/
def dropRight (p : Char → Bool) (cs : List Char) : List Char :=
  (cs.reverse.dropWhile p).reverse

/-- Drops white space from both ends. -/
def stripChars (cs : List Char) : List Char :=
  dropRight isBlank (cs.dropWhile isBlank)

def strip (s : String) : String :=
  String.ofList (stripChars s.toList)

def isBlankText (s : String) : Bool :=
  s.toList.all isBlank

end SourceAudit.Text
