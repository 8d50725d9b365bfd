import SourceAudit.Text.Lines
import SourceAudit.Text.Utf8

/-!
# Text in portions

A file of UTF-8 is read in portions of a given number of characters. Behind the portions stand
larger chunks of octets, which are decoded when a portion needs more characters than there are, so
an octet that fits no encoding is found when its chunk is decoded, and not before. Line ends are
unified on the way; a carriage return at the end of a chunk waits for the next one, as does an
encoded character that is not complete.
-/

namespace SourceAudit.Text

/-- Whether octets are the beginning of an encoded character, but not all of it. -/
def Utf8.isIncomplete : List UInt8 → Bool
  | [a] => 0xC2 ≤ a.toNat && a.toNat ≤ 0xF4
  | [a, b] => 0xE0 ≤ a.toNat && a.toNat ≤ 0xF4 && isSecond a b
  | [a, b, c] => 0xF0 ≤ a.toNat && a.toNat ≤ 0xF4 && isSecond a b && isTail c
  | _ => false

/-- The characters that octets encode, and an incomplete character of the given number of octets at
the end. -/
def Utf8.decodeBut (octets : List UInt8) (left : Nat) : Option (List Char × List UInt8) :=
  let tail := octets.drop (octets.length - left)
  if left = 0 || isIncomplete tail then
    (decode (octets.take (octets.length - left))).map fun cs => (cs, if left = 0 then [] else tail)
  else none

/-- The characters that octets encode, and what is left of an incomplete one at the end. -/
def Utf8.decodeStart (octets : List UInt8) : Option (List Char × List UInt8) :=
  (List.range 4).findSome? (decodeBut octets)

/-- What is kept between two portions of a file. -/
structure Intake where
  octets : List UInt8
  /-- An incomplete character. -/
  left : List UInt8 := []
  /-- Whether a carriage return is waiting. -/
  waiting : Bool := false
  /-- The characters that are in no portion yet. -/
  ready : List Char := []
  /-- The number of octets of the last chunk. -/
  lastOctets : Nat := 0
  /-- The number of characters they gave. -/
  lastChars : Nat := 0
  deriving Repr

namespace Intake

/-- The least number of octets of a chunk. -/
def chunkSize : Nat := 8192

/-- The number of octets of the next chunk, when that many characters are needed. It goes by how
many octets a character of the last chunk took. -/
def nextSize (i : Intake) (needed : Nat) : Nat :=
  if i.lastChars < i.lastOctets then max chunkSize (i.lastOctets * needed / i.lastChars)
  else max chunkSize needed

/-- Decodes the next chunk: the intake afterwards, and whether there was anything. -/
def fill (i : Intake) (needed : Nat) : Option (Intake × Bool) :=
  let size := i.nextSize needed
  let chunk := i.octets.take size
  let final := chunk.isEmpty
  let decoded :=
    if final then (Utf8.decode i.left).map fun cs => (cs, [])
    else Utf8.decodeStart (i.left ++ chunk)
  decoded.map fun (cs, left) =>
    let held := i.waiting && (final || !cs.isEmpty)
    let cs := if held then '\r' :: cs else cs
    let waits := !final && cs.getLast? = some '\r'
    let cs := unifyLineEnds (if waits then cs.dropLast else cs)
    ({ octets := i.octets.drop size, left := left, waiting := waits || (i.waiting && !held),
       ready := i.ready ++ cs, lastOctets := chunk.length, lastChars := cs.length },
      !final || !cs.isEmpty)

/-- Decodes chunks until a number of characters is ready or the file ends. -/
def supply (count : Nat) : Nat → Intake → Option Intake
  | 0, i => some i
  | fuel + 1, i =>
    if count ≤ i.ready.length then some i
    else
      match i.fill (count - i.ready.length) with
      | none => none
      | some (i, true) => supply count fuel i
      | some (i, false) => some i

/-- The next portion of at most `count` characters; it is shorter only where the file ends. Nothing
when an octet fits no encoding. -/
def read (i : Intake) (count : Nat) : Option (List Char × Intake) :=
  (supply count (count + 2) i).map fun i =>
    (i.ready.take count, { i with ready := i.ready.drop count })

end Intake

end SourceAudit.Text
