import SourceAudit.Text.Portions
import SourceAudit.Yaml.Cursor

/-!
# What there is to read

A settings file is read in portions, the first of which is twice as large. A portion may hold
printable characters only. What follows a portion that cannot be read is out of reach; the error is
met by whoever gets that far. The first portion is always read.
-/

namespace SourceAudit.Yaml

/-- The characters of a text that can be read. -/
structure Supply where
  chars : List Char
  /-- The error that stands behind them, unless the text ends there. -/
  error : Option Error := none
  deriving Repr

namespace Supply

def portionSize : Nat := 4096

/-- The next portion of a file, or the error in its place. -/
def portion (i : Text.Intake) : Except Error (List Char × Text.Intake) :=
  match i.read portionSize with
  | none => .error .undecodable
  | some r => if r.1.all isPrintable then .ok r else .error .malformed

/-- The portions behind those that have been read. -/
def further : Nat → Text.Intake → List (List Char) → Supply
  | 0, _, read => { chars := read.reverse.flatten }
  | fuel + 1, i, read =>
    match portion i with
    | .error e => { chars := read.reverse.flatten, error := some e }
    | .ok ([], _) => { chars := read.reverse.flatten }
    | .ok (cs, i) => further fuel i (cs :: read)

/-- The first two portions of a file; the characters are looked at when both have been read. -/
def first (octets : List UInt8) : Except Error (List Char × Text.Intake) :=
  let both := do
    let (a, i) ← Text.Intake.read { octets := octets } portionSize
    let (b, i) ← i.read portionSize
    return (a ++ b, i)
  match both with
  | none => .error .undecodable
  | some r => if r.1.all isPrintable then .ok r else .error .malformed

/-- What a file holds. -/
def ofOctets (octets : List UInt8) : Except Error Supply :=
  (first octets).map fun (cs, i) => further (octets.length + 1) i [cs]

end Supply

end SourceAudit.Yaml
