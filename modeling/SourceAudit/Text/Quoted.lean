import SourceAudit.Text.Printable

/-!
# Quoted literals

How a text is shown inside a message: between single quotes, or between double quotes when it
holds a single quote and no double one. Inside, the chosen quote and the backslash are preceded by
a backslash, tab, line feed and carriage return have letters, and every other character that is
not printable is written as the hexadecimal digits of its code point, two, four or eight of them.
-/

namespace SourceAudit.Text

/-- The last `width` or more hexadecimal digits of `n`, in lower case. -/
def hexDigits (width n : Nat) : List Char :=
  let digits := Nat.toDigits 16 n
  List.replicate (width - digits.length) '0' ++ digits

/-- The quote a text is shown between. -/
def quoteFor (cs : List Char) : Char :=
  if cs.contains '\'' && !cs.contains '"' then '"' else '\''

/-- One character of a quoted literal between quotes `q`. -/
def escapeChar (q c : Char) : List Char :=
  if c = q ∨ c = '\\' then ['\\', c]
  else if c = '\t' then ['\\', 't']
  else if c = '\n' then ['\\', 'n']
  else if c = '\r' then ['\\', 'r']
  else if isPrintable c then [c]
  else if c.toNat < 0x100 then '\\' :: 'x' :: hexDigits 2 c.toNat
  else if c.toNat < 0x10000 then '\\' :: 'u' :: hexDigits 4 c.toNat
  else '\\' :: 'U' :: hexDigits 8 c.toNat

def quoteChars (cs : List Char) : List Char :=
  let q := quoteFor cs
  q :: cs.flatMap (escapeChar q) ++ [q]

def quoted (s : String) : String :=
  String.ofList (quoteChars s.toList)

example : quoted "it's" = "\"it's\"" := by decide +kernel
example : quoted "a\n\"b'" = "'a\\n\"b\\''" := by decide +kernel
example : quoted "\x00é" = "'\\x00é'" := by decide +kernel

end SourceAudit.Text
