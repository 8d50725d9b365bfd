import Mathlib.Tactic.SplitIfs
import SourceAudit.Engine
import SourceAudit.Proofs.Disabling

/-!
# Line ends on disk

A file may end its lines with a line feed or with a carriage return and a line feed. Reading it
gives the same text both ways. The lines that could declare an encoding declare the same one, an
octet below 0x80 that is replaced is a character that is replaced (`Utf8.decode_replaceEach`), and
unified line ends are line feeds. So a run reports the same, whichever files have which line ends
(`SourceText.line_ends_are_read_alike`).
-/

namespace SourceAudit

namespace Text

/-! ## Lists with line ends -/

section

variable {α : Type} [DecidableEq α]

/-- The list with `ys` in the place of every `x`. -/
def replaceEach (x : α) (ys xs : List α) : List α :=
  xs.flatMap fun z => if z = x then ys else [z]

variable {x cr lf : α} {ys : List α}

@[simp] theorem replaceEach_nil (x : α) (ys : List α) : replaceEach x ys [] = [] := rfl

@[simp] theorem replaceEach_cons_self (x : α) (ys xs : List α) :
    replaceEach x ys (x :: xs) = ys ++ replaceEach x ys xs := by
  rw [replaceEach, List.flatMap_cons, if_pos rfl]
  rfl

theorem replaceEach_cons_of_ne {z : α} (other : z ≠ x) (ys xs : List α) :
    replaceEach x ys (z :: xs) = z :: replaceEach x ys xs := by
  rw [replaceEach, List.flatMap_cons, if_neg other]
  rfl

theorem replaceEach_append (x : α) (ys xs more : List α) :
    replaceEach x ys (xs ++ more) = replaceEach x ys xs ++ replaceEach x ys more :=
  List.flatMap_append

theorem replaceEach_of_notMem {xs : List α} (absent : x ∉ xs) : replaceEach x ys xs = xs := by
  rw [replaceEach, List.flatMap_congr (g := fun z => [z]) fun z mem => ?_, List.flatMap_singleton']
  rw [if_neg]
  rintro rfl
  exact absent mem

theorem notMem_replaceEach (x : α) (xs : List α) : x ∉ replaceEach x [] xs := by
  rw [replaceEach, List.mem_flatMap]
  rintro ⟨z, -, mem⟩
  split_ifs at mem with same
  · cases mem
  · exact same (List.mem_singleton.1 mem).symm

theorem map_replaceEach {β : Type} [DecidableEq β] {f : α → β}
    (injective : ∀ z, f z = f x → z = x) (ys xs : List α) :
    (replaceEach x ys xs).map f = replaceEach (f x) (ys.map f) (xs.map f) := by
  induction xs with
  | nil => rfl
  | cons z xs ih =>
    by_cases same : z = x
    · rw [same, replaceEach_cons_self, List.map_append, ih, List.map_cons, replaceEach_cons_self]
    · rw [replaceEach_cons_of_ne same, List.map_cons, List.map_cons, ih,
        replaceEach_cons_of_ne fun eq => same (injective z eq)]

/-- The list with `cr` before every `lf`. -/
def crlf (cr lf : α) (xs : List α) : List α :=
  replaceEach lf [cr, lf] xs

theorem crlf_cons_self (cr lf : α) (xs : List α) :
    crlf cr lf (lf :: xs) = cr :: lf :: crlf cr lf xs :=
  replaceEach_cons_self lf [cr, lf] xs

theorem crlf_cons_of_ne {z : α} (other : z ≠ lf) (cr : α) (xs : List α) :
    crlf cr lf (z :: xs) = z :: crlf cr lf xs :=
  replaceEach_cons_of_ne other [cr, lf] xs

theorem crlf_eq_nil_iff {xs : List α} : crlf cr lf xs = [] ↔ xs = [] := by
  cases xs with
  | nil => exact Iff.rfl
  | cons z xs =>
    by_cases same : z = lf
    · simp [same, crlf_cons_self]
    · simp [crlf_cons_of_ne same]

theorem replaceEach_crlf (apart : lf ≠ cr) {xs : List α} (clean : cr ∉ xs) :
    replaceEach cr [] (crlf cr lf xs) = xs := by
  induction xs with
  | nil => rfl
  | cons z xs ih =>
    rw [List.mem_cons, not_or] at clean
    by_cases same : z = lf
    · rw [same, crlf_cons_self, replaceEach_cons_self, replaceEach_cons_of_ne apart, ih clean.2,
        List.nil_append]
    · rw [crlf_cons_of_ne same, replaceEach_cons_of_ne (Ne.symm clean.1), ih clean.2]

theorem all_crlf {p : α → Bool} (hcr : p cr = true) (hlf : p lf = true) (xs : List α) :
    (crlf cr lf xs).all p = xs.all p := by
  induction xs with
  | nil => rfl
  | cons z xs ih =>
    by_cases same : z = lf
    · rw [same, crlf_cons_self, List.all_cons, List.all_cons, List.all_cons, ih, hcr, hlf,
        Bool.true_and]
    · rw [crlf_cons_of_ne same, List.all_cons, List.all_cons, ih]

/-! A class that holds neither `cr` nor `lf` does not see the difference. -/

theorem takeWhile_crlf {p : α → Bool} (hcr : p cr = false) (hlf : p lf = false) (xs : List α) :
    (crlf cr lf xs).takeWhile p = xs.takeWhile p := by
  induction xs with
  | nil => rfl
  | cons z xs ih =>
    by_cases same : z = lf
    · rw [same, crlf_cons_self, List.takeWhile_cons_of_neg (by simp [hcr]),
        List.takeWhile_cons_of_neg (by simp [hlf])]
    · rw [crlf_cons_of_ne same, List.takeWhile_cons, List.takeWhile_cons, ih]

theorem dropWhile_crlf {p : α → Bool} (hcr : p cr = false) (hlf : p lf = false) (xs : List α) :
    (crlf cr lf xs).dropWhile p = crlf cr lf (xs.dropWhile p) := by
  induction xs with
  | nil => rfl
  | cons z xs ih =>
    by_cases same : z = lf
    · rw [same, crlf_cons_self, List.dropWhile_cons_of_neg (by simp [hcr]),
        List.dropWhile_cons_of_neg (by simp [hlf]), crlf_cons_self]
    · rw [crlf_cons_of_ne same, List.dropWhile_cons, List.dropWhile_cons, ih]
      split
      · rfl
      · rw [crlf_cons_of_ne same]

/-- A start without `cr` and `lf` is in both lists or in neither, and what follows it is changed
alike. -/
theorem isPrefixOf_crlf {lead : List α} (hcr : cr ∉ lead) (hlf : lf ∉ lead) (xs : List α) :
    lead.isPrefixOf (crlf cr lf xs) = lead.isPrefixOf xs ∧
      (lead.isPrefixOf xs = true →
        (crlf cr lf xs).drop lead.length = crlf cr lf (xs.drop lead.length)) := by
  induction lead generalizing xs with
  | nil => simp
  | cons y lead ih =>
    rw [List.mem_cons, not_or] at hcr hlf
    cases xs with
    | nil => simp [crlf]
    | cons z xs =>
      by_cases same : z = lf
      · have first : (y == cr) = false := beq_eq_false_iff_ne.2 (Ne.symm hcr.1)
        have second : (y == lf) = false := beq_eq_false_iff_ne.2 (Ne.symm hlf.1)
        simp [same, crlf_cons_self, List.isPrefixOf, first, second]
      · obtain ⟨lead, rest⟩ := ih hcr.2 hlf.2 xs
        rw [crlf_cons_of_ne same]
        simp only [List.isPrefixOf, lead, List.length_cons, List.drop_succ_cons, true_and,
          Bool.and_eq_true]
        exact fun both => rest both.2

end

/-! ## Unified line ends -/

theorem unifyLineEnds_of_notMem {cs : List Char} (clean : '\r' ∉ cs) : unifyLineEnds cs = cs := by
  fun_induction unifyLineEnds cs with
  | case1 => rfl
  | case2 cs ih => simp at clean
  | case3 cs notCrlf ih => simp at clean
  | case4 c cs _ _ ih => rw [ih (List.not_mem_of_not_mem_cons clean)]

theorem unifyLineEnds_crlf {cs : List Char} (clean : '\r' ∉ cs) :
    unifyLineEnds (crlf '\r' '\n' cs) = cs := by
  induction cs with
  | nil => rfl
  | cons c cs ih =>
    rw [List.mem_cons, not_or] at clean
    by_cases same : c = '\n'
    · rw [same, crlf_cons_self, unifyLineEnds, ih clean.2]
    · rw [crlf_cons_of_ne same, unifyLineEnds, ih clean.2]
      · rintro cs rfl
        exact absurd rfl clean.1
      · rintro rfl
        exact clean.1 rfl

theorem return_notMem_unifyLineEnds (cs : List Char) : '\r' ∉ unifyLineEnds cs := by
  fun_induction unifyLineEnds cs with
  | case1 => simp
  | case2 cs ih => simp [ih]
  | case3 cs notCrlf ih => simp [ih]
  | case4 c cs _ other ih =>
    rw [List.mem_cons, not_or]
    exact ⟨fun same => other same.symm, ih⟩

/-! ## Octets that are replaced -/

namespace Utf8

theorem le_of_isTail {b : UInt8} (tail : isTail b = true) : 0x80 ≤ b.toNat := by
  simp only [isTail, Bool.and_eq_true, decide_eq_true_eq] at tail
  exact tail.1

theorem tailBits_lt {b : UInt8} (tail : isTail b = true) : tailBits b < 64 := by
  simp only [isTail, Bool.and_eq_true, decide_eq_true_eq] at tail
  unfold tailBits
  omega

/-- What a second octet may carry: no character has two encodings, and none is half of a pair or
beyond the last. -/
theorem tailBits_of_isSecond {a b : UInt8} (second : isSecond a b = true) :
    0x80 ≤ b.toNat ∧ tailBits b < 64 ∧ (a.toNat = 0xE0 → 32 ≤ tailBits b) ∧
      (a.toNat = 0xED → tailBits b < 32) ∧ (a.toNat = 0xF0 → 16 ≤ tailBits b) ∧
      (a.toNat = 0xF4 → tailBits b < 16) := by
  simp only [isSecond, Bool.and_eq_true, secondRange] at second
  unfold tailBits
  split_ifs at second <;> simp only [decide_eq_true_eq] at second <;> omega

theorem le_toNat_ofNat {n : Nat} (least : 0x80 ≤ n) (valid : n.isValidChar) :
    0x80 ≤ (Char.ofNat n).toNat := by
  rw [Char.ofNat, dif_pos valid]
  exact least

/-- The first character and what is left: an octet below 0x80 stands for itself, and a greater one
begins a character beyond them, with octets that are all greater. -/
theorem exists_unit {a : UInt8} {rest : List UInt8} {cs : List Char}
    (known : decode (a :: rest) = some cs) :
    ∃ tail more c ds, rest = tail ++ more ∧ cs = c :: ds ∧ decode more = some ds ∧
      (∀ other, decode (a :: (tail ++ other)) = (decode other).map (c :: ·)) ∧
      ((a.toNat < 0x80 ∧ tail = [] ∧ c = Char.ofNat a.toNat) ∨
        (0x80 ≤ a.toNat ∧ (∀ b ∈ tail, 0x80 ≤ b.toNat) ∧ 0x80 ≤ c.toNat)) := by
  rw [decode.eq_def] at known
  simp only at known
  split_ifs at known with one two three four
  · obtain ⟨ds, inner, rfl⟩ := Option.map_eq_some_iff.1 known
    refine ⟨[], rest, _, ds, rfl, rfl, inner, fun other => ?_, .inl ⟨one, rfl, rfl⟩⟩
    rw [List.nil_append, decode.eq_def]
    simp only [one, if_true]
  · rcases rest with _ | ⟨b, rest⟩
    · cases known
    · simp only at known
      split_ifs at known with tail
      obtain ⟨ds, inner, rfl⟩ := Option.map_eq_some_iff.1 known
      have bits := tailBits_lt tail
      refine ⟨[b], rest, _, ds, rfl, rfl, inner, fun other => ?_, .inr ⟨by omega, ?_, ?_⟩⟩
      · rw [decode.eq_def]
        simp only [one, two, tail, if_true, if_false, and_self, List.singleton_append]
      · simpa using le_of_isTail tail
      · exact le_toNat_ofNat (by omega) (.inl (by omega))
  · rcases rest with _ | ⟨b, _ | ⟨c, rest⟩⟩
    · cases known
    · cases known
    · simp only [Bool.and_eq_true] at known
      split_ifs at known with tails
      obtain ⟨ds, inner, rfl⟩ := Option.map_eq_some_iff.1 known
      obtain ⟨high, bits, least, most, -⟩ := tailBits_of_isSecond tails.1
      have more := tailBits_lt tails.2
      refine ⟨[b, c], rest, _, ds, rfl, rfl, inner, fun other => ?_, .inr ⟨by omega, ?_, ?_⟩⟩
      · rw [decode.eq_def]
        simp only [one, two, three, tails, if_true, if_false, and_self, List.cons_append,
          List.nil_append, Bool.and_self]
      · simpa using ⟨high, le_of_isTail tails.2⟩
      · exact le_toNat_ofNat (by omega) (by unfold Nat.isValidChar; omega)
  · rcases rest with _ | ⟨b, _ | ⟨c, _ | ⟨d, rest⟩⟩⟩
    · cases known
    · cases known
    · cases known
    · simp only [Bool.and_eq_true] at known
      split_ifs at known with tails
      obtain ⟨ds, inner, rfl⟩ := Option.map_eq_some_iff.1 known
      obtain ⟨high, bits, -, -, least, most⟩ := tailBits_of_isSecond tails.1.1
      have more := tailBits_lt tails.1.2
      have last := tailBits_lt tails.2
      refine ⟨[b, c, d], rest, _, ds, rfl, rfl, inner, fun other => ?_, .inr ⟨by omega, ?_, ?_⟩⟩
      · rw [decode.eq_def]
        simp only [one, two, three, four, tails, if_true, if_false, and_self, List.cons_append,
          List.nil_append, Bool.and_self]
      · simpa using ⟨high, le_of_isTail tails.1.2, le_of_isTail tails.2⟩
      · exact le_toNat_ofNat (by omega) (by unfold Nat.isValidChar; omega)

theorem eq_nil_of_decode {octets : List UInt8} (known : decode octets = some []) : octets = [] := by
  cases octets with
  | nil => rfl
  | cons a rest =>
    obtain ⟨_, _, _, _, _, same, _⟩ := exists_unit known
    cases same

theorem decode_append {octets : List UInt8} {cs : List Char} (known : decode octets = some cs)
    (more : List UInt8) : decode (octets ++ more) = (decode more).map (cs ++ ·) := by
  induction cs generalizing octets with
  | nil =>
    obtain rfl := eq_nil_of_decode known
    simp
  | cons c cs ih =>
    cases octets with
    | nil => cases known
    | cons a rest =>
      obtain ⟨tail, after, _, _, rfl, same, inner, unit, -⟩ := exists_unit known
      obtain ⟨rfl, rfl⟩ := List.cons.inj same
      rw [List.cons_append, List.append_assoc, unit, ih inner, Option.map_map]
      rfl

theorem ofNat_toNat_eq_iff {b : UInt8} {c : Char} :
    Char.ofNat b.toNat = c ↔ b.toNat = c.toNat := by
  have valid : b.toNat.isValidChar := .inl (by have := b.toNat_lt; omega)
  have value : (Char.ofNat b.toNat).toNat = b.toNat := by
    rw [Char.ofNat, dif_pos valid]
    rfl
  rw [← Char.toNat_inj, value]

/-- An octet below 0x80 that is replaced by the octets of a text is a character that is replaced by
this text. -/
theorem decode_replaceEach {x : UInt8} {c : Char} (code : x.toNat = c.toNat)
    (small : x.toNat < 0x80) {ys : List UInt8} {zs : List Char} (text : decode ys = some zs)
    {octets : List UInt8} {cs : List Char} (known : decode octets = some cs) :
    decode (replaceEach x ys octets) = some (replaceEach c zs cs) := by
  induction cs generalizing octets with
  | nil =>
    obtain rfl := eq_nil_of_decode known
    rfl
  | cons d cs ih =>
    cases octets with
    | nil => cases known
    | cons a rest =>
      obtain ⟨tail, after, _, _, rfl, same, inner, unit, kind⟩ := exists_unit known
      obtain ⟨rfl, rfl⟩ := List.cons.inj same
      by_cases here : a = x
      · rcases kind with ⟨-, rfl, rfl⟩ | ⟨big, -, -⟩
        · rw [here, ofNat_toNat_eq_iff.2 code, List.nil_append, replaceEach_cons_self,
            replaceEach_cons_self, decode_append text, ih inner, Option.map_some]
        · rw [here] at big
          omega
      · have other : d ≠ c := by
          rcases kind with ⟨-, -, rfl⟩ | ⟨-, -, large⟩
          · rw [Ne, ofNat_toNat_eq_iff, ← code]
            exact fun eq => here (UInt8.toNat_inj.1 eq)
          · rintro rfl
            omega
        have kept : x ∉ tail := by
          rcases kind with ⟨-, rfl, -⟩ | ⟨-, tails, -⟩
          · simp
          · intro mem
            have := tails x mem
            omega
        rw [replaceEach_cons_of_ne here, replaceEach_cons_of_ne other, replaceEach_append,
          replaceEach_of_notMem kept, unit, ih inner, Option.map_some]

/-- Octets without a carriage return decode to characters without one, and with a carriage return
before every line feed to those characters with one there, or both do not decode. -/
theorem decode_crlf {octets : List UInt8} (clean : 0x0D ∉ octets) :
    decode (crlf 0x0D 0x0A octets) = (decode octets).map (crlf '\r' '\n') ∧
      ∀ cs ∈ decode octets, '\r' ∉ cs := by
  have without : ∀ {xs cs}, decode xs = some cs →
      decode (replaceEach 0x0D [] xs) = some (replaceEach '\r' [] cs) := fun {xs cs} known =>
    decode_replaceEach (by decide) (by decide) (by decide) known
  constructor
  · cases known : decode octets with
    | some cs => exact decode_replaceEach (by decide) (by decide) (by decide) known
    | none =>
      -- Carriage returns can be taken out of a text again.
      cases longer : decode (crlf 0x0D 0x0A octets) with
      | none => rfl
      | some ds =>
        have shorter := without longer
        rw [replaceEach_crlf (by decide) clean, known] at shorter
        cases shorter
  · intro cs known
    have same := without known
    rw [replaceEach_of_notMem clean, Option.mem_def.1 known, Option.some.injEq] at same
    rw [same]
    exact notMem_replaceEach '\r' cs

end Utf8

end Text

namespace SourceText

open Text

/-! ## Declared encodings -/

theorem splitLine_crlf (octets : List UInt8) :
    splitLine (crlf 0x0D 0x0A octets) =
      (crlf 0x0D 0x0A (splitLine octets).1, crlf 0x0D 0x0A (splitLine octets).2) := by
  induction octets with
  | nil => rfl
  | cons b octets ih =>
    by_cases same : b = 0x0A
    · rw [same, crlf_cons_self]
      rfl
    · rw [crlf_cons_of_ne same]
      simp only [splitLine, same, if_false, ih, crlf_cons_of_ne same]

theorem isBlankLine_crlf (line : List UInt8) :
    isBlankLine (crlf 0x0D 0x0A line) = isBlankLine line := by
  unfold isBlankLine
  rw [dropWhile_crlf (by decide) (by decide)]
  cases line.dropWhile _ with
  | nil => rfl
  | cons b rest =>
    by_cases same : b = 0x0A
    · rw [same, crlf_cons_self]
      rfl
    · rw [crlf_cons_of_ne same]

theorem declarationHere_crlf (cs : List Char) :
    declarationHere (crlf '\r' '\n' cs) = declarationHere cs := by
  unfold declarationHere
  obtain ⟨lead, rest⟩ := @isPrefixOf_crlf _ _ '\r' '\n' "coding".toList (by decide) (by decide) cs
  rw [lead]
  split_ifs with starts
  · have behind : (crlf '\r' '\n' cs).drop 6 = crlf '\r' '\n' (cs.drop 6) := rest starts
    rw [behind]
    cases cs.drop 6 with
    | nil => rfl
    | cons c more =>
      by_cases same : c = '\n'
      · simp [same, crlf_cons_self]
      · rw [crlf_cons_of_ne same]
        have name : ((crlf '\r' '\n' more).dropWhile fun c => c == ' ' || c == '\t').takeWhile
            isEncodingChar = (more.dropWhile fun c => c == ' ' || c == '\t').takeWhile
              isEncodingChar := by
          rw [dropWhile_crlf (by decide) (by decide), takeWhile_crlf (by decide) (by decide)]
        simp only [name]
  · rfl

theorem findDeclaration_crlf (cs : List Char) :
    findDeclaration (crlf '\r' '\n' cs) = findDeclaration cs := by
  induction cs with
  | nil => rfl
  | cons c cs ih =>
    have here := declarationHere_crlf (c :: cs)
    by_cases same : c = '\n'
    · subst same
      simp [crlf_cons_self, findDeclaration, declarationHere, List.isPrefixOf]
    · rw [crlf_cons_of_ne same] at here ⊢
      rw [findDeclaration, findDeclaration, here, ih]

theorem declaration_crlf (cs : List Char) :
    declaration (crlf '\r' '\n' cs) = declaration cs := by
  unfold declaration
  rw [dropWhile_crlf (by decide) (by decide)]
  cases cs.dropWhile isLead with
  | nil => rfl
  | cons c rest =>
    by_cases same : c = '\n'
    · subst same
      simp [crlf_cons_self]
    · rw [crlf_cons_of_ne same]
      by_cases comment : c = '#'
      · subst comment
        exact findDeclaration_crlf rest
      · split
        · next head => exact absurd (List.cons.inj head).1 comment
        · split
          · next head => exact absurd (List.cons.inj head).1 comment
          · rfl

theorem declaredEncoding_crlf (path : String) (marked : Bool) {line : List UInt8}
    (clean : 0x0D ∉ line) :
    declaredEncoding path marked (crlf 0x0D 0x0A line) = declaredEncoding path marked line := by
  unfold declaredEncoding
  rw [(Utf8.decode_crlf clean).1]
  cases Utf8.decode line with
  | none => rfl
  | some cs => simp only [Option.map_some, declaration_crlf]

theorem splitLine_append (octets : List UInt8) :
    (splitLine octets).1 ++ (splitLine octets).2 = octets := by
  induction octets with
  | nil => rfl
  | cons b octets ih =>
    by_cases same : b = 0x0A
    · simp [splitLine, same]
    · simp [splitLine, same, ih]

theorem detect_crlf (path : String) (marked : Bool) {octets : List UInt8}
    (clean : 0x0D ∉ octets) :
    detect path marked (crlf 0x0D 0x0A octets) = detect path marked octets := by
  -- Only the first two lines are looked at, and neither has a carriage return.
  have first : 0x0D ∉ (splitLine octets).1 := by
    intro mem
    exact clean (splitLine_append octets ▸ List.mem_append_left _ mem)
  have second : 0x0D ∉ (splitLine (splitLine octets).2).1 := by
    intro mem
    refine clean (splitLine_append octets ▸ List.mem_append_right _ ?_)
    exact splitLine_append (splitLine octets).2 ▸ List.mem_append_left _ mem
  have rest : (crlf 0x0D 0x0A (splitLine octets).2).isEmpty = (splitLine octets).2.isEmpty := by
    rw [Bool.eq_iff_iff, List.isEmpty_iff, List.isEmpty_iff, crlf_eq_nil_iff]
  cases octets with
  | nil => rfl
  | cons b more =>
    have some_octets : crlf 0x0D 0x0A (b :: more) ≠ [] := by
      rw [Ne, crlf_eq_nil_iff]
      exact List.cons_ne_nil b more
    unfold detect
    split
    · next none => exact absurd none some_octets
    · simp only [splitLine_crlf, declaredEncoding_crlf path marked first, isBlankLine_crlf, rest,
        declaredEncoding_crlf path marked second]

/-! ## Reading -/

theorem ofNat_toNat_injective {b c : UInt8} (same : Char.ofNat b.toNat = Char.ofNat c.toNat) :
    b = c := by
  have code : (Char.ofNat c.toNat).toNat = c.toNat := (Utf8.ofNat_toNat_eq_iff.1 rfl).symm
  exact UInt8.toNat_inj.1 ((Utf8.ofNat_toNat_eq_iff.1 same).trans code)

theorem decodeLatin1_crlf (octets : List UInt8) :
    Utf8.decodeLatin1 (crlf 0x0D 0x0A octets) = crlf '\r' '\n' (Utf8.decodeLatin1 octets) :=
  map_replaceEach (fun _ => ofNat_toNat_injective) [0x0D, 0x0A] octets

theorem return_notMem_decodeLatin1 {octets : List UInt8} (clean : 0x0D ∉ octets) :
    '\r' ∉ Utf8.decodeLatin1 octets := by
  intro mem
  obtain ⟨b, here, same⟩ := List.mem_map.1 mem
  obtain rfl : b = 0x0D := ofNat_toNat_injective same
  exact clean here

theorem decodeAs_crlf (e : Encoding) {octets : List UInt8} (clean : 0x0D ∉ octets) :
    decodeAs e (crlf 0x0D 0x0A octets) = (decodeAs e octets).map (crlf '\r' '\n') ∧
      ∀ cs ∈ decodeAs e octets, '\r' ∉ cs := by
  have absent := return_notMem_decodeLatin1 clean
  cases e with
  | utf8 => exact Utf8.decode_crlf clean
  | latin1 =>
    refine ⟨congrArg some (decodeLatin1_crlf octets), ?_⟩
    rintro cs ⟨⟩
    exact absent
  | ascii =>
    have small : (crlf 0x0D 0x0A octets).all (fun b => b.toNat < 0x80) =
        octets.all (fun b => b.toNat < 0x80) := all_crlf rfl rfl octets
    simp only [decodeAs, Utf8.decodeAscii, decodeLatin1_crlf, small]
    split_ifs
    · refine ⟨rfl, ?_⟩
      rintro cs ⟨⟩
      exact absent
    · exact ⟨rfl, by simp⟩

/-- The text of a source file does not depend on its line ends. -/
theorem decode_crlf (path : String) {octets : List UInt8} (clean : 0x0D ∉ octets) :
    decode path (crlf 0x0D 0x0A octets) = decode path octets := by
  obtain ⟨lead, rest⟩ := @isPrefixOf_crlf _ _ 0x0D 0x0A byteOrderMark (by decide) (by decide) octets
  generalize marked : byteOrderMark.isPrefixOf octets = mark at lead rest
  let body := if mark then octets.drop 3 else octets
  have behind : (if mark then (crlf 0x0D 0x0A octets).drop 3 else crlf 0x0D 0x0A octets) =
      crlf 0x0D 0x0A body := by
    cases mark with
    | true => exact rest rfl
    | false => rfl
  have inner : 0x0D ∉ body := by
    cases mark with
    | true => exact fun mem => clean (List.mem_of_mem_drop mem)
    | false => exact clean
  simp only [decode, lead, marked, behind, detect_crlf _ _ inner]
  cases detect path mark body with
  | error e => rfl
  | ok e =>
    obtain ⟨longer, none⟩ := decodeAs_crlf e inner
    simp only [longer]
    cases known : decodeAs e body with
    | none => rfl
    | some cs =>
      have absent := none cs known
      simp only [Option.map_some, unifyLineEnds_crlf absent, unifyLineEnds_of_notMem absent]

end SourceText

/-! ## Files with other line ends -/

/-- The contents with a carriage return before every line feed; a rule module has no lines. -/
def Content.crlf : Content → Content
  | .bytes octets => .bytes (Text.crlf 0x0D 0x0A octets)
  | .module m => .module m

/-- Whether a carriage return is among the octets. -/
def Content.hasReturn : Content → Bool
  | .bytes octets => octets.contains 0x0D
  | .module _ => false

namespace FileTree

/-- The tree in which the chosen files have a carriage return before every line feed. -/
def crlfAt (t : FileTree) (chosen : Place → Bool) : FileTree :=
  { t with files := t.files.map fun f => (f.1, if chosen f.1 then f.2.crlf else f.2) }

theorem exists_of_contentAt? {t : FileTree} {place : Place} {c : Content}
    (held : t.contentAt? place = some c) : ∃ f ∈ t.files, f.1 = place ∧ f.2 = c := by
  obtain ⟨f, found, rfl⟩ := Option.map_eq_some_iff.1 held
  have here : f.1 = place := by simpa using List.find?_some found
  exact ⟨f, List.mem_of_find?_eq_some found, here, rfl⟩

theorem contentAt?_crlfAt (t : FileTree) (chosen : Place → Bool) (place : Place) :
    (t.crlfAt chosen).contentAt? place =
      (t.contentAt? place).map fun c => if chosen place then c.crlf else c := by
  simp only [contentAt?, crlfAt, List.find?_map, Option.map_map, Function.comp_def]
  cases found : t.files.find? (·.1 == place) with
  | none => rfl
  | some f =>
    obtain rfl : f.1 = place := by simpa using List.find?_some found
    rfl

theorem open?_crlfAt (t : FileTree) (chosen : Place → Bool) (p : Path) :
    (t.crlfAt chosen).open? p =
      match t.locate p with
      | .error e => .error e
      | .ok place => (t.open? p).map fun c => if chosen place then c.crlf else c := by
  have places : (t.crlfAt chosen).files.map (·.1) = t.files.map (·.1) := by
    simp [crlfAt, Function.comp_def]
  have located : (t.crlfAt chosen).locate p = t.locate p :=
    locate_eq (t := t) (u := t.crlfAt chosen) rfl places p
  rw [open?, open?, located]
  cases t.locate p with
  | error e => rfl
  | ok place =>
    simp only [contentAt?_crlfAt]
    cases t.contentAt? place <;> rfl

end FileTree

namespace SourceText

theorem read_crlfAt {t : FileTree} {chosen : Place → Bool}
    (clean : ∀ f ∈ t.files, chosen f.1 = true → f.2.hasReturn = false) (path : String) :
    read (t.crlfAt chosen) path = read t path := by
  simp only [read, FileTree.readBytes, FileTree.open?_crlfAt]
  cases found : t.locate (Path.ofString path) with
  | error e => simp only [FileTree.open?, found]
  | ok place =>
    simp only [FileTree.open?, found]
    cases held : t.contentAt? place with
    | none => rfl
    | some c =>
      cases c with
      | module m => cases chosen place <;> rfl
      | bytes octets =>
        cases picked : chosen place with
        | false => rfl
        | true =>
          simp only [Except.map, Content.crlf, if_true]
          have absent : 0x0D ∉ octets := by
            obtain ⟨f, mem, rfl, same⟩ := FileTree.exists_of_contentAt? held
            have none := clean f mem picked
            rw [same] at none
            simpa [Content.hasReturn] using none
          rw [decode_crlf _ absent]

theorem return_notMem_read {t : FileTree} {path source : String}
    (known : read t path = .ok source) : '\r' ∉ source.toList := by
  simp only [read, decode] at known
  split at known
  · cases known
  · split at known
    · cases known
    · split at known
      · cases known
      · obtain rfl := Except.ok.inj known
        rw [String.toList_ofList]
        exact Text.return_notMem_unifyLineEnds _

/-- Files whose octets hold no carriage return are read alike whether or not each of their line
feeds gets one before it: both readings fail, for the same reason, or both give the same text, which
holds no carriage return. So every run is the same on both, whatever the rules are and whatever the
syntax check says. -/
theorem line_ends_are_read_alike (t : FileTree) (chosen : Place → Bool)
    (clean : ∀ f ∈ t.files, chosen f.1 = true → f.2.hasReturn = false) :
    (∀ path, read (t.crlfAt chosen) path = read t path) ∧
      (∀ path source, read t path = .ok source → '\r' ∉ source.toList) ∧
      ∀ (e : Engine) lint rules files observer,
        e.run ⟨lint, read (t.crlfAt chosen)⟩ rules files observer =
          e.run ⟨lint, read t⟩ rules files observer := by
  have same := read_crlfAt clean
  refine ⟨same, fun path source known => return_notMem_read known, ?_⟩
  intro e lint rules files observer
  rw [funext same]

/-- A file that declares its encoding in the second line and ends without a line feed, and one with
a byte order mark. -/
def foreignTree : FileTree where
  files :=
    [(["a.py"], .bytes ("\n# coding: latin-1\nx = '".toUTF8.toList ++ [0xE9] ++ "'".toUTF8.toList)),
     (["b.py"], .bytes (byteOrderMark ++ "# coding: utf-8\n\n".toUTF8.toList))]

theorem line_ends_are_read_alike_of_foreignTree :
    ((foreignTree.crlfAt fun _ => true).readBytes (Path.ofString "b.py")).toOption =
        some (byteOrderMark ++ "# coding: utf-8\r\n\r\n".toUTF8.toList) ∧
      read (foreignTree.crlfAt fun _ => true) "a.py" = .ok "\n# coding: latin-1\nx = 'é'" ∧
      read (foreignTree.crlfAt fun _ => true) "b.py" = .ok "# coding: utf-8\n\n" := by
  obtain ⟨same, -⟩ := line_ends_are_read_alike foreignTree (fun _ => true) (by decide +kernel)
  rw [same, same]
  decide +kernel

end SourceText

end SourceAudit
