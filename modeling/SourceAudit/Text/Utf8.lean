/-!
# Strict UTF-8

Decoding of octets to characters. An encoded character has one to four octets; overlong forms,
surrogates and code points above U+10FFFF are refused, so each text has one encoding.
-/

namespace SourceAudit.Text.Utf8

/-- Whether `b` can follow the first octet of an encoded character. -/
def isTail (b : UInt8) : Bool :=
  0x80 ≤ b.toNat && b.toNat ≤ 0xBF

/-- The low six bits that a following octet carries. -/
def tailBits (b : UInt8) : Nat :=
  b.toNat - 0x80

/-- The second octets that may follow the first octet `a`, as a least and a greatest one. -/
def secondRange (a : Nat) : Nat × Nat :=
  if a = 0xE0 then (0xA0, 0xBF)
  else if a = 0xED then (0x80, 0x9F)
  else if a = 0xF0 then (0x90, 0xBF)
  else if a = 0xF4 then (0x80, 0x8F)
  else (0x80, 0xBF)

/-- Whether `b` may be the second octet after `a`. -/
def isSecond (a b : UInt8) : Bool :=
  (secondRange a.toNat).1 ≤ b.toNat && b.toNat ≤ (secondRange a.toNat).2

/-- The characters that the octets encode, or nothing when some octet fits no encoding. -/
def decode : List UInt8 → Option (List Char)
  | [] => some []
  | a :: rest =>
    let n := a.toNat
    if n < 0x80 then (decode rest).map (Char.ofNat n :: ·)
    else if 0xC2 ≤ n ∧ n ≤ 0xDF then
      match rest with
      | b :: rest =>
        if isTail b then
          (decode rest).map (Char.ofNat ((n - 0xC0) * 64 + tailBits b) :: ·)
        else none
      | [] => none
    else if 0xE0 ≤ n ∧ n ≤ 0xEF then
      match rest with
      | b :: c :: rest =>
        if isSecond a b && isTail c then
          (decode rest).map
            (Char.ofNat (((n - 0xE0) * 64 + tailBits b) * 64 + tailBits c) :: ·)
        else none
      | _ => none
    else if 0xF0 ≤ n ∧ n ≤ 0xF4 then
      match rest with
      | b :: c :: d :: rest =>
        if isSecond a b && isTail c && isTail d then
          (decode rest).map
            (Char.ofNat ((((n - 0xF0) * 64 + tailBits b) * 64 + tailBits c) * 64 + tailBits d) :: ·)
        else none
      | _ => none
    else none

/-- Octets in which every character has the code point of its octet. -/
def decodeLatin1 (bytes : List UInt8) : List Char :=
  bytes.map fun b => Char.ofNat b.toNat

/-- Octets below 0x80 as characters, or nothing when one is not. -/
def decodeAscii (bytes : List UInt8) : Option (List Char) :=
  if bytes.all (fun b => b.toNat < 0x80) then some (decodeLatin1 bytes) else none

end SourceAudit.Text.Utf8
