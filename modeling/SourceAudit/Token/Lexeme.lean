import SourceAudit.Text.Word

/-!
# Lexemes

What can start at a place inside a physical line, and how many characters it takes. The
alternatives are tried in a fixed order: a line continuation or the end of the text, a comment, a
triple quote, a number, a line end or an operator, a string on one line, a word. Each matcher gives
a length, and zero means that it does not match.
-/

namespace SourceAudit.Lexeme

/-! ## Numbers -/

/-- The length of a run of digits of class `p`, each after at most one underscore. -/
def digitTail (p : Char → Bool) : List Char → Nat
  | [] => 0
  | [c] => if p c then 1 else 0
  | c :: d :: cs =>
    if p c then 1 + digitTail p (d :: cs)
    else if c = '_' ∧ p d then 2 + digitTail p cs
    else 0

/-- The length of a run of digits that starts with a digit of class `first`. -/
def digitRun (first p : Char → Bool) : List Char → Nat
  | c :: cs => if first c then 1 + digitTail p cs else 0
  | [] => 0

def decimalRun : List Char → Nat :=
  digitRun Char.isDigit Char.isDigit

def isHexDigit (c : Char) : Bool :=
  c.isDigit || ('a' ≤ c && c ≤ 'f') || ('A' ≤ c && c ≤ 'F')

/-- The length of an integer in another base: a zero, the mark in either case, digits. -/
def basedRun (mark : Char) (p : Char → Bool) : List Char → Nat
  | '0' :: c :: cs =>
    if c.toLower = mark then
      let n := digitTail p cs
      if n = 0 then 0 else 2 + n
    else 0
  | _ => 0

/-- The first of two lengths that is not zero. -/
def orElse (n m : Nat) : Nat :=
  if n = 0 then m else n

/-- The length of an integer. A decimal integer other than zero does not start with a zero. -/
def integer (cs : List Char) : Nat :=
  orElse (basedRun 'x' isHexDigit cs) <|
  orElse (basedRun 'b' (fun c => c == '0' || c == '1') cs) <|
  orElse (basedRun 'o' (fun c => '0' ≤ c && c ≤ '7') cs) <|
  orElse (digitRun (· == '0') (· == '0') cs) <|
  digitRun (fun c => c.isDigit && c != '0') Char.isDigit cs

/-- The length of an exponent with its mark. -/
def exponent : List Char → Nat
  | c :: cs =>
    if c.toLower = 'e' then
      let sign := match cs with
        | d :: _ => if d = '-' ∨ d = '+' then 1 else 0
        | [] => 0
      let n := decimalRun (cs.drop sign)
      if n = 0 then 0 else 1 + sign + n
    else 0
  | [] => 0

/-- The length of a number with a point. -/
def pointNumber (cs : List Char) : Nat :=
  let whole := decimalRun cs
  match cs.drop whole with
  | '.' :: rest =>
    let fraction := decimalRun rest
    if whole = 0 ∧ fraction = 0 then 0
    else
      let n := whole + 1 + fraction
      n + exponent (cs.drop n)
  | _ => 0

/-- The length of a number without a point and with an exponent. -/
def exponentNumber (cs : List Char) : Nat :=
  let whole := decimalRun cs
  let e := exponent (cs.drop whole)
  if whole = 0 ∨ e = 0 then 0 else whole + e

def float (cs : List Char) : Nat :=
  orElse (pointNumber cs) (exponentNumber cs)

/-- One more than `n` when an imaginary mark follows `n` characters, else zero. -/
def withImaginaryMark (cs : List Char) (n : Nat) : Nat :=
  match cs.drop n with
  | c :: _ => if n ≠ 0 ∧ c.toLower = 'j' then n + 1 else 0
  | [] => 0

def number (cs : List Char) : Nat :=
  orElse (withImaginaryMark cs (decimalRun cs)) <|
  orElse (withImaginaryMark cs (float cs)) <|
  orElse (float cs) <|
  integer cs

/-! ## Operators and line ends -/

/-- The operators, the longer ones first. -/
def operators : List (List Char) :=
  ["**=", "//=", ">>=", "<<=", "...", "!=", "->", ":=", "+=", "-=", "*=", "/=", "%=", "@=", "&=",
   "|=", "^=", "**", "//", "<<", ">>", "<=", ">=", "==", "+", "-", "*", "/", "%", "@", "&", "|",
   "^", "~", "<", ">", "(", ")", "[", "]", "\x7b", "\x7d", ",", ":", ".", ";", "="].map
    String.toList

def operator (cs : List Char) : Nat :=
  ((operators.find? (·.isPrefixOf cs)).map List.length).getD 0

def lineEnd : List Char → Nat
  | '\n' :: _ => 1
  | '\r' :: '\n' :: _ => 2
  | _ => 0

/-! ## Strings -/

/-- Whether the two letters, in lower case, may stand together before a quote. -/
def isPairPrefix (a b : Char) : Bool :=
  (a == 'b' && b == 'r') || (a == 'r' && b == 'b') || (a == 'f' && b == 'r') ||
    (a == 'r' && b == 'f')

def isQuote (c : Char) : Bool :=
  c == '\'' || c == '"'

/-- The length of the letters before a quote, and the quote. -/
def opener? (cs : List Char) : Option (Nat × Char) :=
  match cs with
  | q :: cs =>
    if isQuote q then some (0, q)
    else
      match cs with
      | r :: cs =>
        if isQuote r then
          if q.toLower = 'b' ∨ q.toLower = 'r' ∨ q.toLower = 'u' ∨ q.toLower = 'f' then some (1, r)
          else none
        else
          match cs with
          | s :: _ =>
            if isQuote s && isPairPrefix q.toLower r.toLower then some (2, s) else none
          | [] => none
      | [] => none
  | [] => none

/-- How far it is from inside a string to its end on the same line: past the closing quote, or past
a backslash with the line end. A backslash hides the character after it. -/
def closeOnLine (q : Char) : List Char → Option Nat
  | [] => none
  | '\\' :: '\n' :: _ => some 2
  | '\\' :: '\r' :: '\n' :: _ => some 3
  | '\\' :: _ :: cs => (closeOnLine q cs).map (· + 2)
  | c :: cs =>
    if c = q then some 1
    else if c = '\n' ∨ c = '\\' then none
    else (closeOnLine q cs).map (· + 1)

/-- How far it is past the next closing quote. -/
def closeQuote (q : Char) : List Char → Option Nat
  | [] => none
  | '\\' :: _ :: cs => (closeQuote q cs).map (· + 2)
  | c :: cs =>
    if c = q then some 1
    else if c = '\\' then none
    else (closeQuote q cs).map (· + 1)

/-- How far it is past the next three closing quotes. -/
def closeTriple (q : Char) : List Char → Option Nat
  | [] => none
  | '\\' :: _ :: cs => (closeTriple q cs).map (· + 2)
  | c :: cs =>
    if [q, q, q].isPrefixOf (c :: cs) then some 3
    else if c = '\\' then none
    else (closeTriple q cs).map (· + 1)

/-! ## The alternatives -/

/-- What starts at a place in a line, with its length. -/
inductive Match where
  | done
  /-- A backslash at the end of the line. -/
  | continuation (length : Nat)
  | comment (length : Nat)
  /-- The start of a string between triple quotes, up to and with the quotes. -/
  | triple (length : Nat) (quote : Char)
  | number (length : Nat)
  | lineEnd (length : Nat)
  | operator (length : Nat)
  /-- A string, or the part of one up to the end of its first line. -/
  | string (length : Nat) (quote : Char)
  | word (length : Nat)
  deriving DecidableEq, Repr

/-- The length of a backslash with the line end after it. -/
def continuationLength : List Char → Nat
  | '\\' :: cs => if lineEnd cs = 0 then 0 else 1 + lineEnd cs
  | _ => 0

/-- The length of a comment, which ends before a carriage return or line feed. -/
def commentLength : List Char → Nat
  | '#' :: cs => 1 + (cs.takeWhile fun c => c != '\r' && c != '\n').length
  | _ => 0

/-- The string that starts here. -/
def string? (cs : List Char) : Option Match :=
  match opener? cs with
  | some (n, q) => (closeOnLine q (cs.drop (n + 1))).map fun m => .string (n + 1 + m) q
  | none => none

/-- The triple quote that starts here. -/
def triple? (cs : List Char) : Option Match :=
  match opener? cs with
  | some (n, q) => if [q, q, q].isPrefixOf (cs.drop n) then some (.triple (n + 3) q) else none
  | none => none

/-- A length as a match, when it is not zero. -/
def whenPositive (n : Nat) (m : Nat → Match) : Option Match :=
  if n = 0 then none else some (m n)

/-- The first alternative that matches. -/
def match? (cs : List Char) : Option Match :=
  if cs.isEmpty then some .done
  else
    whenPositive (continuationLength cs) .continuation <|>
    whenPositive (commentLength cs) .comment <|>
    triple? cs <|>
    whenPositive (number cs) .number <|>
    whenPositive (lineEnd cs) .lineEnd <|>
    whenPositive (operator cs) .operator <|>
    string? cs <|>
    whenPositive (cs.takeWhile Text.isWord).length .word

example : match? "0x_fz".toList = some (.number 4) := by decide +kernel
example : match? "1.e5j".toList = some (.number 5) := by decide +kernel
example : match? "rB'a\\'b' c".toList = some (.string 8 '\'') := by decide +kernel
example : match? "?".toList = none := by decide +kernel

end SourceAudit.Lexeme
