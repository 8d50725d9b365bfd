import Mathlib
import SourceAudit.Proofs.Reading
import SourceAudit.TokenFile

/-!
# Positions of tokens

The position of a token tells where in the source its text stands. A source is read in one go
(`readsAll_tokenize`), so tokens come in the order of their texts (`Reads.precedes`) and every
character is part of a token or of what may stand between two (`Reads.accounted`). Counting lines
and columns along the source leads into the physical line with that number (`IsCut.leadsInside`),
which is the one that a rule sees in the lines of the file.
-/

namespace SourceAudit

/-! ## Places in a source -/

/-- The text `w` stands in `cs` behind `front`, and the character with index `k` is part of it. -/
def Within (cs : List Char) (k : Nat) (w front : List Char) : Prop :=
  (∃ back, cs = front ++ (w ++ back)) ∧ front.length ≤ k ∧ k < front.length + w.length

/-- The token's text stands in `cs` at the token's position. -/
def Occurs (p : Position) (cs : List Char) (t : Token) : Prop :=
  ∃ front back, cs = front ++ (t.text.toList ++ back) ∧ t.IsAt (p.after front)

/-- The text of one token stands before that of another. -/
def Precedes (p : Position) (cs : List Char) (t u : Token) : Prop :=
  ∃ front back, cs = front ++ (t.text.toList ++ back) ∧ t.IsAt (p.after front) ∧
    Occurs (p.after (front ++ t.text.toList)) back u

/-- The character with index `k` is part of a token, a blank or part of a line continuation. -/
def IsAccounted (p : Position) (cs : List Char) (ts : List Token) (k : Nat) : Prop :=
  (∃ t ∈ ts, ∃ front, Within cs k t.text.toList front ∧ t.IsAt (p.after front)) ∨
    (∃ c, cs[k]? = some c ∧ Lexer.isInnerBlank c = true) ∨
    ∃ w ∈ Lexeme.continuations, ∃ front, Within cs k w front

section

variable {p : Position} {v cs : List Char} {t u : Token} {ts us : List Token} {k : Nat}

theorem Within.shift {w front : List Char} (within : Within cs k w front) :
    Within (v ++ cs) (v.length + k) w (v ++ front) := by
  obtain ⟨⟨back, rfl⟩, low, high⟩ := within
  refine ⟨⟨back, (List.append_assoc ..).symm⟩, ?_, ?_⟩ <;> rw [List.length_append] <;> omega

theorem Occurs.shift (occurs : Occurs (p.after v) cs t) : Occurs p (v ++ cs) t := by
  obtain ⟨front, back, rfl, isAt⟩ := occurs
  rw [← Position.after_append] at isAt
  exact ⟨v ++ front, back, (List.append_assoc ..).symm, isAt⟩

theorem Precedes.shift (precedes : Precedes (p.after v) cs t u) : Precedes p (v ++ cs) t u := by
  obtain ⟨front, back, rfl, isAt, next⟩ := precedes
  rw [← Position.after_append] at isAt next
  rw [← List.append_assoc] at next
  exact ⟨v ++ front, back, (List.append_assoc ..).symm, isAt, next⟩

theorem IsAccounted.shift (known : IsAccounted (p.after v) cs ts k) (sub : ∀ t ∈ ts, t ∈ us) :
    IsAccounted p (v ++ cs) us (v.length + k) := by
  rcases known with ⟨t, mem, front, within, isAt⟩ | ⟨c, here, blank⟩ | ⟨w, listed, front, within⟩
  · rw [← Position.after_append] at isAt
    exact .inl ⟨t, sub t mem, v ++ front, within.shift, isAt⟩
  · refine .inr (.inl ⟨c, ?_, blank⟩)
    rw [List.getElem?_append_right (Nat.le_add_right ..), Nat.add_sub_cancel_left, here]
  · exact .inr (.inr ⟨w, listed, v ++ front, within.shift⟩)

/-- To account for a text it is enough to account for its first part and for the rest. -/
theorem isAccounted_append (sub : ∀ t ∈ ts, t ∈ us)
    (first : ∀ k < v.length, IsAccounted p (v ++ cs) us k)
    (next : ∀ k < cs.length, IsAccounted (p.after v) cs ts k) :
    ∀ k < (v ++ cs).length, IsAccounted p (v ++ cs) us k := by
  intro k small
  rcases Nat.lt_or_ge k v.length with inside | behind
  · exact first k inside
  · obtain ⟨m, rfl⟩ := Nat.exists_eq_add_of_le behind
    rw [List.length_append] at small
    exact (next m (by omega)).shift sub

end

namespace Reads

variable {p : Position} {cs : List Char} {ts : List Token}

theorem occurs (read : Reads p cs ts) : ∀ t ∈ ts, Occurs p cs t := by
  induction read with
  | nil p => simp
  | @blank p c cs ts _ _ ih => exact fun t mem => (ih t mem).shift (v := [c])
  | continuation _ _ ih => exact fun t mem => (ih t mem).shift
  | token isAt _ ih =>
    rw [List.forall_mem_cons]
    exact ⟨⟨[], _, rfl, isAt⟩, fun t mem => (ih t mem).shift⟩

theorem precedes (read : Reads p cs ts) : ts.Pairwise (Precedes p cs) := by
  induction read with
  | nil p => exact .nil
  | @blank p c cs ts _ _ ih => exact ih.imp fun before => before.shift (v := [c])
  | continuation _ _ ih => exact ih.imp Precedes.shift
  | token isAt next ih =>
    refine .cons (fun u mem => ?_) (ih.imp Precedes.shift)
    exact ⟨[], _, rfl, isAt, next.occurs u mem⟩

theorem accounted (read : Reads p cs ts) : ∀ k < cs.length, IsAccounted p cs ts k := by
  induction read with
  | nil p => simp
  | @blank p c cs ts isBlank _ ih =>
    refine isAccounted_append (v := [c]) (fun _ => id) (fun k small => ?_) ih
    obtain rfl : k = 0 := by simpa using small
    exact .inr (.inl ⟨c, rfl, isBlank⟩)
  | @continuation p w cs ts listed _ ih =>
    refine isAccounted_append (fun _ => id) (fun k small => ?_) ih
    exact .inr (.inr ⟨w, listed, [], ⟨cs, rfl⟩, Nat.zero_le k, by simpa using small⟩)
  | @token p t cs ts isAt _ ih =>
    refine isAccounted_append (fun _ => List.mem_cons_of_mem t) (fun k small => ?_) ih
    exact .inl ⟨t, List.mem_cons_self, [], ⟨⟨cs, rfl⟩, Nat.zero_le k, by simpa using small⟩, isAt⟩

end Reads

/-! ## Positions and lines -/

namespace Text

/-- The position behind `front` is inside one of the lines, which are numbered from `no` on. -/
def LeadsInside (lines : List (List Char)) (no : Nat) (front : List Char) : Prop :=
  ∃ i column line, (⟨no, 0⟩ : Position).after front = ⟨no + i, column⟩ ∧
    lines[i]? = some line ∧ column < line.length ∧
    (lines.take i).flatten.length + column = front.length

theorem leadsInside_first {front rest : List Char} (inside : '\n' ∉ front) (more : rest ≠ [])
    (lines : List (List Char)) (no : Nat) : LeadsInside ((front ++ rest) :: lines) no front := by
  refine ⟨0, front.length, front ++ rest, ?_, rfl, ?_, ?_⟩
  · rw [Position.after_of_notMem inside, Nat.zero_add, Nat.add_zero]
  · rw [List.length_append]
    exact Nat.lt_add_of_pos_right (List.length_pos_iff.2 more)
  · rw [List.take_zero, List.flatten_nil, List.length_nil, Nat.zero_add]

theorem LeadsInside.behind {lines : List (List Char)} {no : Nat} {front body : List Char}
    (leads : LeadsInside lines (no + 1) front) (inside : '\n' ∉ body) :
    LeadsInside ((body ++ ['\n']) :: lines) no (body ++ ['\n'] ++ front) := by
  obtain ⟨i, column, line, position, there, small, before⟩ := leads
  refine ⟨i + 1, column, line, ?_, ?_, small, ?_⟩
  · rw [Position.after_append, Position.after_newline _ inside, position, Nat.add_right_comm,
      Nat.add_assoc]
  · rw [List.getElem?_cons_succ, there]
  · rw [List.take_succ_cons, List.flatten_cons, List.length_append, Nat.add_assoc, before,
      ← List.length_append]

/-- A position inside a text is one inside a line of the text. -/
theorem IsCut.leadsInside {lines : List (List Char)} (cut : IsCut lines) {front back : List Char}
    (whole : lines.flatten = front ++ back) (more : back ≠ []) (no : Nat) :
    LeadsInside lines no front := by
  induction cut generalizing front no with
  | nil =>
    rw [List.flatten_nil, eq_comm, List.append_eq_nil_iff] at whole
    exact absurd whole.2 more
  | @last line _ inside =>
    rw [List.flatten_singleton] at whole
    rw [whole] at inside ⊢
    exact leadsInside_first (fun mem => inside (List.mem_append_left _ mem)) more [] no
  | @cons body lines inside _ ih =>
    rw [List.flatten_cons, List.append_eq_append_iff] at whole
    rcases whole with ⟨rest, rfl, below⟩ | ⟨rest, first, rfl⟩
    · exact (ih below (no + 1)).behind inside
    · by_cases none : rest = []
      · -- the text before the position is the first line
        rw [none, List.append_nil] at first
        subst first
        have below : lines.flatten = [] ++ (rest ++ lines.flatten) := by
          rw [none]
          rfl
        have next := (ih below (no + 1)).behind inside
        rwa [List.append_nil] at next
      · have single : '\n' ∉ (front ++ rest).dropLast := by
          rwa [← first, List.dropLast_concat]
        rw [first]
        exact leadsInside_first (Lexer.newline_notMem_front single none) none lines no

end Text

/-- The index in the source at which the token's text stands: the characters of the lines before its
own, and its column. -/
def Token.offset (lines : List (List Char)) (t : Token) : Nat :=
  (lines.take (t.line.toNat - 1)).flatten.length + t.column.toNat

/-- The token's position is inside one of the lines, and its text stands there; it may run over the
lines that follow. -/
structure Token.IsFaithful (lines : List (List Char)) (t : Token) : Prop where
  line : 1 ≤ t.line ∧ t.line ≤ lines.length
  column : 0 ≤ t.column ∧ ∀ line ∈ lines[t.line.toNat - 1]?, t.column < line.length
  text : t.text.toList <+: lines.flatten.drop (t.offset lines)

theorem Text.IsCut.faithful {lines : List (List Char)} (cut : IsCut lines) {t : Token}
    {front back : List Char} (whole : lines.flatten = front ++ (t.text.toList ++ back))
    (visible : t.text ≠ "") (isAt : t.IsAt ((⟨1, 0⟩ : Position).after front)) :
    t.IsFaithful lines ∧ t.offset lines = front.length := by
  have more : t.text.toList ++ back ≠ [] := by
    intro none
    exact visible (String.toList_eq_nil_iff.1 (List.append_eq_nil_iff.1 none).1)
  obtain ⟨i, column, line, position, there, small, before⟩ := cut.leadsInside whole more 1
  rw [position] at isAt
  obtain ⟨atLine, atColumn⟩ : t.line = (1 + i : Nat) ∧ t.column = column := isAt
  have number : t.line.toNat - 1 = i := by omega
  have offset : t.offset lines = front.length := by
    rw [Token.offset, number, atColumn, Int.toNat_natCast, before]
  refine ⟨⟨?_, ?_, ?_⟩, offset⟩
  · have bound := (List.getElem?_eq_some_iff.1 there).1
    omega
  · rw [number, there, atColumn]
    refine ⟨Int.natCast_nonneg column, fun other same => ?_⟩
    obtain rfl := Option.some.inj same
    exact Int.ofNat_lt.2 small
  · rw [offset, whole, List.drop_left]
    exact List.prefix_append _ _

/-! ## All tokens -/

/-- The token starts before the other, or where it does. -/
def Token.StartsBy (t u : Token) : Prop :=
  t.line < u.line ∨ t.line = u.line ∧ t.column ≤ u.column

theorem Token.IsAt.startsBy {t u : Token} {p q : Position} (isAt : t.IsAt p) (isAt' : u.IsAt q)
    (le : p ≤ q) : t.StartsBy u := by
  obtain ⟨line, column⟩ := isAt
  obtain ⟨line', column'⟩ := isAt'
  have le : p.line < q.line ∨ p.line = q.line ∧ p.column ≤ q.column := le
  show t.line < u.line ∨ t.line = u.line ∧ t.column ≤ u.column
  omega

theorem Precedes.startsBy {p : Position} {cs : List Char} {t u : Token}
    (precedes : Precedes p cs t u) : t.StartsBy u := by
  obtain ⟨front, back, -, isAt, front', -, -, isAt'⟩ := precedes
  rw [Position.after_append] at isAt'
  exact isAt.startsBy isAt'
    (Position.le_trans (Position.le_after _ _) (Position.le_after _ _))

theorem Occurs.le {p : Position} {cs : List Char} {t : Token} (occurs : Occurs p cs t) :
    ∃ q, t.IsAt q ∧ q ≤ p.after cs := by
  obtain ⟨front, back, rfl, isAt⟩ := occurs
  rw [Position.after_append]
  exact ⟨_, isAt, Position.le_after _ _⟩

theorem Lexer.ReadsAll.startsBy {p : Position} {cs : List Char} {tokens : List Token}
    (all : ReadsAll p cs tokens) : tokens.Pairwise Token.StartsBy := by
  obtain ⟨ts, ends, q, rfl, read, behind, empty⟩ := all
  rw [List.pairwise_append]
  refine ⟨read.precedes.imp Precedes.startsBy, ?_, ?_⟩
  · refine List.pairwise_of_forall_mem_list fun t mem u mem' => ?_
    exact (empty t mem).2.startsBy (empty u mem').2 (Position.le_refl q)
  · intro t mem u mem'
    obtain ⟨r, isAt, le⟩ := (read.occurs t mem).le
    exact isAt.startsBy (empty u mem').2 (Position.le_trans le behind)

theorem Text.IsCut.apart {lines : List (List Char)} (cut : IsCut lines) {t u : Token}
    (precedes : Precedes ⟨1, 0⟩ lines.flatten t u) (visible : t.text ≠ "")
    (visible' : u.text ≠ "") :
    t.offset lines + t.text.length ≤ u.offset lines := by
  obtain ⟨front, back, whole, isAt, front', back', rest, isAt'⟩ := precedes
  rw [← Position.after_append] at isAt'
  have again : lines.flatten =
      (front ++ t.text.toList ++ front') ++ (u.text.toList ++ back') := by
    rw [whole, rest]
    simp only [List.append_assoc]
  rw [(cut.faithful whole visible isAt).2, (cut.faithful again visible' isAt').2,
    List.length_append, List.length_append, String.length_toList]
  exact Nat.le_add_right _ _

theorem Text.IsCut.covered {lines : List (List Char)} (cut : IsCut lines) {ts : List Token}
    (read : Reads ⟨1, 0⟩ lines.flatten ts) {k : Nat} {c : Char}
    (here : lines.flatten[k]? = some c) :
    (∃ t ∈ ts, t.offset lines ≤ k ∧ k < t.offset lines + t.text.length) ∨
      c = ' ' ∨ c = '\t' ∨ c = '\x0c' ∨
      ∃ w ∈ Lexeme.continuations, ∃ front, Within lines.flatten k w front := by
  have small := (List.getElem?_eq_some_iff.1 here).1
  rcases read.accounted k small with ⟨t, mem, front, ⟨⟨back, split⟩, low, high⟩, isAt⟩ |
    ⟨other, same, blank⟩ | ⟨w, listed, front, within⟩
  · left
    have visible : t.text ≠ "" := by
      intro none
      rw [none] at high
      exact absurd high (Nat.not_lt.2 low)
    have start := (cut.faithful split visible isAt).2
    rw [← start, String.length_toList] at high
    exact ⟨t, mem, start ▸ low, high⟩
  · obtain rfl := Option.some.inj (here.symm.trans same)
    have known : (c = ' ' ∨ c = '\x0c') ∨ c = '\t' := by
      simpa [Lexer.isInnerBlank] using blank
    tauto
  · exact .inr (.inr (.inr (.inr ⟨w, listed, front, within⟩)))

theorem isBody_lineTexts (lines : List (List Char)) :
    List.Forall₂ (fun (text : String) line => Text.IsBody line text.toList)
      ((lines.map Text.dropLineEnd).map String.ofList) lines := by
  rw [List.map_map, List.forall₂_map_left_iff, List.forall₂_same]
  intro line _
  rw [Function.comp_apply, String.toList_ofList]
  exact Text.isBody_dropLineEnd line

/-- Positions are faithful. Tokens come in the order of their positions. A token that has a text
stands where its position says, no two such texts overlap, and a character outside all of them is a
blank or part of a line continuation. The lines of the file are the physical lines of the source,
one by one, without their line ends. -/
theorem TokenFile.positions_are_faithful {path source : String} {file : TokenFile}
    (ok : TokenFile.ofSource path source = .ok file) :
    let contents := source.toList
    let lines := Text.physicalLines contents
    let tokens := file.tokens.toList
    (lines.flatten = contents ∧ Text.IsCut lines) ∧
    tokens.Pairwise Token.StartsBy ∧
    (∀ t ∈ tokens, t.text ≠ "" → t.IsFaithful lines) ∧
    tokens.Pairwise (fun t u => t.text ≠ "" → u.text ≠ "" →
      t.offset lines + t.text.length ≤ u.offset lines) ∧
    (∀ k c, contents[k]? = some c →
      (∃ t ∈ tokens, t.offset lines ≤ k ∧ k < t.offset lines + t.text.length) ∨
        c = ' ' ∨ c = '\t' ∨ c = '\x0c' ∨
        ∃ w ∈ [['\\', '\n'], ['\\', '\r', '\n']], ∃ front, Within contents k w front) ∧
    List.Forall₂ (fun (text : String) line => ∃ ends, line = text.toList ++ ends ∧
        (∀ c ∈ ends, c = '\r' ∨ c = '\n') ∧ ∀ c ∈ text.toList.getLast?, c ≠ '\r' ∧ c ≠ '\n')
      file.lines lines := by
  intro contents lines tokens
  have whole : lines.flatten = contents := Text.flatten_physicalLines contents
  have cut : Text.IsCut lines := Text.isCut_physicalLines contents
  unfold TokenFile.ofSource at ok
  split at ok
  · rename_i found tokenized
    obtain rfl := Except.ok.inj ok
    have all := readsAll_tokenize tokenized
    have order := all.startsBy
    obtain ⟨ts, ends, q, rfl, read, -, empty⟩ := all
    rw [show source.toList = lines.flatten from whole.symm] at read
    refine ⟨⟨whole, cut⟩, order, ?_, ?_, ?_, isBody_lineTexts lines⟩
    · intro t mem visible
      rcases List.mem_append.1 mem with inside | closing
      · obtain ⟨front, back, split, isAt⟩ := read.occurs t inside
        exact (cut.faithful split visible isAt).1
      · exact absurd (empty t closing).1 visible
    · refine List.pairwise_append.2 ⟨read.precedes.imp cut.apart, ?_, ?_⟩
      · exact List.pairwise_of_forall_mem_list fun t mem _ _ visible =>
          absurd (empty t mem).1 visible
      · exact fun _ _ u mem _ visible => absurd (empty u mem).1 visible
    · intro k c here
      rw [← whole] at here ⊢
      refine (cut.covered read here).imp_left ?_
      rintro ⟨t, mem, low, high⟩
      exact ⟨t, List.mem_append_left _ mem, low, high⟩
  · cases ok

/-- A block with a string over three lines, a line continuation and two error tokens; its last line
has no line end. -/
def blockSource : String :=
  "if x:\r\n\t'''a\n\nb''' \\\n + $\x0c\n# end"

theorem TokenFile.positions_are_faithful_of_blockSource :
    ∃ file, TokenFile.ofSource "block.py" blockSource = .ok file ∧ file.tokens.size = 14 ∧
      file.tokens.toList.Pairwise Token.StartsBy ∧
      ∀ t ∈ file.tokens.toList, t.text ≠ "" →
        t.IsFaithful (Text.physicalLines blockSource.toList) := by
  have size :
      (TokenFile.ofSource "block.py" blockSource).toOption.map (·.tokens.size) = some 14 := by
    cbv
  cases ok : TokenFile.ofSource "block.py" blockSource with
  | error e =>
    rw [ok] at size
    cases size
  | ok file =>
    rw [ok] at size
    obtain ⟨-, order, faithful, -⟩ := TokenFile.positions_are_faithful ok
    exact ⟨file, rfl, Option.some.inj size, order, faithful⟩

end SourceAudit
