/-!
# Sets of characters

A character class of a standard is data: closed ranges of code points in increasing order. This
module holds the type of such tables and membership in them; the tables themselves stand in the
modules named for the class.
-/

namespace SourceAudit.Text

/-- A set of characters, as closed ranges of code points. -/
structure CodePoints where
  /-- First and last code point of each range. -/
  ranges : List (Nat × Nat)

namespace CodePoints

def contains (s : CodePoints) (c : Char) : Bool :=
  s.ranges.any fun r => r.1 ≤ c.toNat && c.toNat ≤ r.2

end CodePoints

end SourceAudit.Text
