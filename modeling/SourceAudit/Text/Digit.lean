import SourceAudit.Text.Blank

/-!
# Decimal digits

The decimal digits of every script. A script has its ten digits side by side, from zero to nine,
so the zeros are all the data there is. `plainNumeral` writes a numeral of any script with the
digits of ASCII, which is how numbers are read.
-/

namespace SourceAudit.Text

def digitZeros : List Nat :=
  [0x30, 0x660, 0x6F0, 0x7C0, 0x966, 0x9E6, 0xA66, 0xAE6, 0xB66, 0xBE6, 0xC66, 0xCE6, 0xD66, 0xDE6,
   0xE50, 0xED0, 0xF20, 0x1040, 0x1090, 0x17E0, 0x1810, 0x1946, 0x19D0, 0x1A80, 0x1A90, 0x1B50,
   0x1BB0, 0x1C40, 0x1C50, 0xA620, 0xA8D0, 0xA900, 0xA9D0, 0xA9F0, 0xAA50, 0xABF0, 0xFF10, 0x104A0,
   0x10D30, 0x11066, 0x110F0, 0x11136, 0x111D0, 0x112F0, 0x11450, 0x114D0, 0x11650, 0x116C0,
   0x11730, 0x118E0, 0x11950, 0x11C50, 0x11D50, 0x11DA0, 0x16A60, 0x16AC0, 0x16B50, 0x1D7CE,
   0x1D7D8, 0x1D7E2, 0x1D7EC, 0x1D7F6, 0x1E140, 0x1E2F0, 0x1E950, 0x1FBF0]

def digitValue? (c : Char) : Option Nat :=
  (digitZeros.find? fun z => z ≤ c.toNat && c.toNat ≤ z + 9).map fun z => c.toNat - z

def isDigit (c : Char) : Bool :=
  (digitValue? c).isSome

/-- The digit of ASCII with a value below ten. -/
def asciiDigit (n : Nat) : Char :=
  Char.ofNat ('0'.toNat + n)

/-- A character of a numeral, beyond ASCII: a digit as that of ASCII, white space as a space. -/
def plainNumeralChar (c : Char) : Char :=
  if c.toNat < 128 then c
  else if isBlank c then ' '
  else ((digitValue? c).map asciiDigit).getD c

/-- Whether `c` is white space of ASCII, the separators of records apart. -/
def isSpace (c : Char) : Bool :=
  c == ' ' || (0x9 ≤ c.toNat && c.toNat ≤ 0xD)

/-- A numeral in the digits of ASCII, without the white space at its two ends. -/
def plainNumeral (cs : List Char) : List Char :=
  dropRight isSpace ((cs.map plainNumeralChar).dropWhile isSpace)

example : plainNumeral "\u00a0٣４ ".toList = "34".toList := by decide +kernel

end SourceAudit.Text
