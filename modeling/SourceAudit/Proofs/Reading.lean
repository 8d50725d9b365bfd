import SourceAudit.Token.Lexer

/-!
# How the lexer reads a source

The lexer goes over a source once, from left to right, and what it leaves out between two tokens is
blanks and line continuations (`Reads`). A token stands at the position that the text before it
leads to. Inside a line this holds of `scan` (`consumes_scan`), a string that is still open at the
end of a line is kept whole (`State.Holds`), and so it holds of every source that has tokens
(`readsAll_tokenize`). Only the tokens that close the source may stand behind its end.
-/

namespace SourceAudit

/-! ## Positions -/

/-- A line, counted from one, and a column, counted from zero. -/
structure Position where
  line : Nat
  column : Nat
  deriving DecidableEq, Repr

namespace Position

instance : LE Position :=
  ⟨fun p q => p.line < q.line ∨ p.line = q.line ∧ p.column ≤ q.column⟩

/-- The position after a character. -/
def next (p : Position) (c : Char) : Position :=
  if c = '\n' then ⟨p.line + 1, 0⟩ else ⟨p.line, p.column + 1⟩

/-- The position after a text. -/
def after (p : Position) (cs : List Char) : Position :=
  cs.foldl next p

theorem le_refl (p : Position) : p ≤ p :=
  .inr ⟨rfl, Nat.le_refl _⟩

theorem le_trans {p q r : Position} (first : p ≤ q) (second : q ≤ r) : p ≤ r := by
  have first : p.line < q.line ∨ p.line = q.line ∧ p.column ≤ q.column := first
  have second : q.line < r.line ∨ q.line = r.line ∧ q.column ≤ r.column := second
  show p.line < r.line ∨ p.line = r.line ∧ p.column ≤ r.column
  omega

theorem after_append (p : Position) (cs ds : List Char) :
    p.after (cs ++ ds) = (p.after cs).after ds :=
  List.foldl_append

theorem after_of_notMem {cs : List Char} (inside : '\n' ∉ cs) (p : Position) :
    p.after cs = ⟨p.line, p.column + cs.length⟩ := by
  induction cs generalizing p with
  | nil => rfl
  | cons c cs ih =>
    rw [List.mem_cons, not_or] at inside
    have first : p.next c = ⟨p.line, p.column + 1⟩ := if_neg (Ne.symm inside.1)
    rw [after, List.foldl_cons, ← after, first, ih inside.2, List.length_cons, Nat.add_assoc,
      Nat.add_comm 1]

theorem after_newline (p : Position) {body : List Char} (inside : '\n' ∉ body) :
    p.after (body ++ ['\n']) = ⟨p.line + 1, 0⟩ := by
  rw [after_append, after_of_notMem inside]
  rfl

theorem le_after (p : Position) (cs : List Char) : p ≤ p.after cs := by
  induction cs generalizing p with
  | nil => exact le_refl p
  | cons c cs ih =>
    have first : p ≤ p.next c := by
      unfold next
      split
      · exact .inl (Nat.lt_succ_self _)
      · exact .inr ⟨rfl, Nat.le_succ _⟩
    exact le_trans first (ih (p.next c))

end Position

/-- Whether the token stands at the position. -/
def Token.IsAt (t : Token) (p : Position) : Prop :=
  t.line = p.line ∧ t.column = p.column

/-! ## Line ends -/

namespace Text

/-- Lines of a text that is cut after each line feed and nowhere else. -/
inductive IsCut : List (List Char) → Prop
  | nil : IsCut []
  | last {line : List Char} : line ≠ [] → '\n' ∉ line → IsCut [line]
  | cons {body : List Char} {lines : List (List Char)} :
      '\n' ∉ body → IsCut lines → IsCut ((body ++ ['\n']) :: lines)

theorem isCut_physicalLines (cs : List Char) : IsCut (physicalLines cs) := by
  induction cs with
  | nil => exact .nil
  | cons c cs ih =>
    by_cases ends : c = '\n'
    · rw [physicalLines, if_pos ends, ends]
      exact .cons List.not_mem_nil ih
    · rw [physicalLines, if_neg ends]
      have other : ∀ {line : List Char}, '\n' ∉ line → '\n' ∉ c :: line := by
        intro line inside
        rw [List.mem_cons, not_or]
        exact ⟨Ne.symm ends, inside⟩
      cases lines : physicalLines cs with
      | nil => exact .last (by simp) (other (by simp))
      | cons line rest =>
        rw [lines] at ih
        cases ih with
        | last _ inside => exact .last (by simp) (other inside)
        | cons inside below =>
          have longer := IsCut.cons (other inside) below
          exact longer

/-- A first line ends with a line feed, or there is no other. -/
theorem IsCut.cases {line : List Char} {lines : List (List Char)} (cut : IsCut (line :: lines)) :
    IsCut lines ∧ '\n' ∉ line.dropLast ∧
      ((lines = [] ∧ '\n' ∉ line) ∨ ∃ body, line = body ++ ['\n'] ∧ '\n' ∉ body) := by
  cases cut with
  | last _ inside =>
    exact ⟨.nil, fun mem => inside (List.dropLast_subset _ mem), .inl ⟨rfl, inside⟩⟩
  | @cons body _ inside below =>
    rw [List.dropLast_concat]
    exact ⟨below, inside, .inr ⟨body, rfl, inside⟩⟩

end Text

/-! ## Lexemes -/

namespace Lexeme

/-- The texts of a line continuation. -/
def continuations : List (List Char) :=
  [['\\', '\n'], ['\\', '\r', '\n']]

/-- What is known of a match, whatever it is. -/
def Match.Fits (cs : List Char) : Match → Prop
  | .done => cs = []
  | .continuation n => 0 < n ∧ cs.take n ∈ continuations
  | .comment n | .triple n _ | .number n | .lineEnd n | .operator n | .string n _ | .word n => 0 < n

theorem take_continuationLength {cs : List Char} (positive : continuationLength cs ≠ 0) :
    cs.take (continuationLength cs) ∈ continuations := by
  fun_cases continuationLength cs with
  | case1 rest none => simp [continuationLength, none] at positive
  | case2 rest ends =>
    revert ends
    fun_cases lineEnd rest with
    | case1 => simp [continuations]
    | case2 => simp [continuations]
    | case3 => simp
  | case3 => simp [continuationLength] at positive

theorem fits_orElse {cs : List Char} {a b : Option Match} (first : ∀ m, a = some m → m.Fits cs)
    (second : ∀ m, b = some m → m.Fits cs) (m : Match) (found : (a <|> b) = some m) :
    m.Fits cs := by
  cases a with
  | none => exact second m found
  | some n => exact first m found

theorem fits_whenPositive {cs : List Char} {n : Nat} {make : Nat → Match}
    (fits : n ≠ 0 → (make n).Fits cs) (m : Match) (found : whenPositive n make = some m) :
    m.Fits cs := by
  unfold whenPositive at found
  split at found
  · cases found
  · rename_i positive
    exact Option.some.inj found ▸ fits positive

theorem match?_fits {cs : List Char} {m : Match} (found : match? cs = some m) : m.Fits cs := by
  unfold match? at found
  split at found
  · obtain rfl := Option.some.inj found
    exact List.isEmpty_iff.1 ‹_›
  · refine fits_orElse (fits_whenPositive fun positive => ?_) (fits_orElse (fits_whenPositive ?_)
      (fits_orElse ?_ (fits_orElse (fits_whenPositive ?_) (fits_orElse (fits_whenPositive ?_)
      (fits_orElse (fits_whenPositive ?_) (fits_orElse ?_ (fits_whenPositive ?_))))))) m found
    · exact ⟨Nat.pos_of_ne_zero positive, take_continuationLength positive⟩
    · exact Nat.pos_of_ne_zero
    · intro m found
      unfold triple? at found
      split at found
      · split at found
        · exact Option.some.inj found ▸ Nat.succ_pos _
        · cases found
      · cases found
    · exact Nat.pos_of_ne_zero
    · exact Nat.pos_of_ne_zero
    · exact Nat.pos_of_ne_zero
    · intro m found
      unfold string? at found
      split at found
      · obtain ⟨k, -, rfl⟩ := Option.map_eq_some_iff.1 found
        show 0 < _ + 1 + k
        omega
      · cases found
    · exact Nat.pos_of_ne_zero

end Lexeme

/-! ## Reading -/

/-- Reading `cs` from position `p` on gives the tokens: each stands where the text before it ends,
and between them there are only blanks and line continuations. -/
inductive Reads : Position → List Char → List Token → Prop
  | nil (p : Position) : Reads p [] []
  | blank {p : Position} {c : Char} {cs : List Char} {ts : List Token} :
      Lexer.isInnerBlank c = true → Reads (p.next c) cs ts → Reads p (c :: cs) ts
  | continuation {p : Position} {w cs : List Char} {ts : List Token} :
      w ∈ Lexeme.continuations → Reads (p.after w) cs ts → Reads p (w ++ cs) ts
  | token {p : Position} {t : Token} {cs : List Char} {ts : List Token} :
      t.IsAt p → Reads (p.after t.text.toList) cs ts → Reads p (t.text.toList ++ cs) (t :: ts)

namespace Reads

variable {p : Position} {cs ds : List Char} {ts us : List Token}

theorem append (first : Reads p cs ts) (second : Reads (p.after cs) ds us) :
    Reads p (cs ++ ds) (ts ++ us) := by
  induction first with
  | nil p => exact second
  | blank isBlank _ ih => exact .blank isBlank (ih second)
  | continuation known _ ih =>
    rw [Position.after_append] at second
    rw [List.append_assoc]
    exact .continuation known (ih second)
  | token isAt _ ih =>
    rw [Position.after_append] at second
    rw [List.append_assoc]
    exact .token isAt (ih second)

theorem of_blanks {w : List Char} (blank : ∀ c ∈ w, Lexer.isInnerBlank c = true) (p : Position) :
    Reads p w [] := by
  induction w generalizing p with
  | nil => exact .nil p
  | cons c w ih =>
    rw [List.forall_mem_cons] at blank
    exact .blank blank.1 (ih blank.2 _)

theorem of_empty (empty : ∀ t ∈ ts, t.text = "" ∧ t.IsAt p) : Reads p [] ts := by
  induction ts with
  | nil => exact .nil p
  | cons t ts ih =>
    rw [List.forall_mem_cons] at empty
    have none : t.text.toList = [] := by rw [empty.1.1]; rfl
    have next : Reads (p.after t.text.toList) [] ts := by
      rw [none]
      exact ih empty.2
    have read := Reads.token empty.1.2 next
    rwa [none] at read

end Reads

namespace Lexer

theorem reads_token {p : Position} {no column : Nat} (here : p = ⟨no, column⟩) (kind : Kind)
    (text line : List Char) : Reads p text [token kind text no column line] := by
  have isAt : (token kind text no column line).IsAt p := by
    rw [here]
    exact ⟨rfl, rfl⟩
  have read := Reads.token isAt (.nil _)
  rwa [List.append_nil, show (token kind text no column line).text.toList = text from
    String.toList_ofList] at read

/-- What the lexer keeps of the text: nothing, or an open string that starts at `p`. -/
def State.Holds (s : State) (p : Position) (rest : List Char) : Prop :=
  match s.pending with
  | none => rest = []
  | some o => p = ⟨o.line, o.column⟩ ∧ rest = o.text

/-- From `p` on the text is read, up to an open string that the state keeps. -/
def Consumes (p : Position) (text : List Char) (r : State × List Token) : Prop :=
  ∃ front rest, text = front ++ rest ∧ Reads p front r.2 ∧ r.1.Holds (p.after front) rest

theorem Consumes.prepend {p : Position} {front text : List Char} {ts : List Token}
    {r : State × List Token} (first : Reads p front ts) (next : Consumes (p.after front) text r) :
    Consumes p (front ++ text) (r.1, ts ++ r.2) := by
  obtain ⟨more, rest, rfl, read, holds⟩ := next
  rw [← Position.after_append] at holds
  exact ⟨front ++ more, rest, (List.append_assoc ..).symm, first.append read, holds⟩

theorem consumes_nil {s : State} (idle : s.pending = none) (p : Position) :
    Consumes p [] (s, []) := by
  refine ⟨[], [], rfl, .nil p, ?_⟩
  rw [State.Holds, idle]

theorem consumes_blanks {s : State} (idle : s.pending = none) {w : List Char}
    (blank : ∀ c ∈ w, isInnerBlank c = true) (p : Position) : Consumes p w (s, []) := by
  have read := Consumes.prepend (Reads.of_blanks blank p) (consumes_nil idle _)
  rwa [List.append_nil] at read

/-! ## Inside a line -/

theorem newline_notMem_of_blank {w : List Char} (blank : ∀ c ∈ w, isInnerBlank c = true) :
    '\n' ∉ w := by
  intro mem
  exact absurd (blank _ mem) (by decide)

theorem newline_notMem_front {front rest : List Char} (single : '\n' ∉ (front ++ rest).dropLast)
    (more : rest ≠ []) : '\n' ∉ front := by
  rw [List.dropLast_append_of_ne_nil more] at single
  exact fun mem => single (List.mem_append_left _ mem)

theorem newline_notMem_rest {front rest : List Char} (single : '\n' ∉ (front ++ rest).dropLast) :
    '\n' ∉ rest.dropLast := by
  by_cases more : rest = []
  · simp [more]
  · rw [List.dropLast_append_of_ne_nil more] at single
    exact fun mem => single (List.mem_append_right _ mem)

/-- The first part of what is left of a line is read, and then the rest. At the end of the line the
position does not matter any more. -/
theorem consumes_part {no column : Nat} {p : Position} (front rest : List Char) {ts : List Token}
    {r : State × List Token} (single : '\n' ∉ (front ++ rest).dropLast) (here : p = ⟨no, column⟩)
    (read : Reads p front ts)
    (next : '\n' ∉ rest.dropLast → ∀ q : Position,
      (rest ≠ [] → q = ⟨no, column + front.length⟩) → Consumes q rest r) :
    Consumes p (front ++ rest) (r.1, ts ++ r.2) := by
  refine .prepend read (next (newline_notMem_rest single) _ fun more => ?_)
  rw [Position.after_of_notMem (newline_notMem_front single more), here]

theorem blanks_append_drop (cs : List Char) :
    cs.takeWhile isInnerBlank ++ cs.drop (cs.takeWhile isInnerBlank).length = cs :=
  List.prefix_iff_eq_append.1 (List.takeWhile_prefix _)

theorem isInnerBlank_of_mem_takeWhile (cs : List Char) :
    ∀ c ∈ cs.takeWhile isInnerBlank, isInnerBlank c = true :=
  List.all_eq_true.1 List.all_takeWhile

/-- After blanks, `n` characters are read. -/
theorem consumes_after_blanks {no column n : Nat} {p : Position} {c : Char} {cs : List Char}
    {ts : List Token} {r : State × List Token} (single : '\n' ∉ (c :: cs).dropLast)
    (here : p = ⟨no, column⟩) (positive : 0 < n) :
    let blanks := ((c :: cs).takeWhile isInnerBlank).length
    let rest := (c :: cs).drop blanks
    (∀ q : Position, q = ⟨no, column + blanks⟩ → Reads q (rest.take n) ts) →
    ('\n' ∉ (cs.drop (blanks + n - 1)).dropLast → ∀ q : Position,
      (cs.drop (blanks + n - 1) ≠ [] → q = ⟨no, column + blanks + n⟩) →
        Consumes q (cs.drop (blanks + n - 1)) r) →
    Consumes p (c :: cs) (r.1, ts ++ r.2) := by
  intro blanks rest read next
  have split : c :: cs =
      ((c :: cs).takeWhile isInnerBlank ++ rest.take n) ++ cs.drop (blanks + n - 1) := by
    have skip : cs.drop (blanks + n - 1) = rest.drop n := by
      obtain ⟨m, rfl⟩ := Nat.exists_eq_succ_of_ne_zero (Nat.ne_of_gt positive)
      rw [List.drop_drop]
      rfl
    rw [skip, List.append_assoc, List.take_append_drop, blanks_append_drop]
  have blank := isInnerBlank_of_mem_takeWhile (c :: cs)
  have start : p.after ((c :: cs).takeWhile isInnerBlank) = ⟨no, column + blanks⟩ := by
    rw [Position.after_of_notMem (newline_notMem_of_blank blank), here]
  have front := (Reads.of_blanks blank p).append (read _ start)
  rw [split] at single ⊢
  refine consumes_part _ _ single here front fun single' q here' => next single' q fun more => ?_
  have long : n ≤ rest.length := by
    have left := List.length_pos_iff.2 more
    rw [List.length_drop] at left
    rw [List.length_drop, List.length_cons]
    omega
  rw [here' more, List.length_append, List.length_take_of_le long, ← Nat.add_assoc]

theorem consumes_token {no column n : Nat} {p : Position} {c : Char} {cs : List Char}
    {r : State × List Token} {kind : Kind} {line : List Char} (single : '\n' ∉ (c :: cs).dropLast)
    (here : p = ⟨no, column⟩) (positive : 0 < n) :
    let blanks := ((c :: cs).takeWhile isInnerBlank).length
    let rest := (c :: cs).drop blanks
    ('\n' ∉ (cs.drop (blanks + n - 1)).dropLast → ∀ q : Position,
      (cs.drop (blanks + n - 1) ≠ [] → q = ⟨no, column + blanks + n⟩) →
        Consumes q (cs.drop (blanks + n - 1)) r) →
    Consumes p (c :: cs) (emit (token kind (rest.take n) no (column + blanks) line) r) :=
  consumes_after_blanks single here positive fun _ here' => reads_token here' ..

/-- After blanks, an open string is kept. -/
theorem consumes_open {no column : Nat} {p : Position} {cs : List Char} {s : State}
    {o : OpenString} (here : p = ⟨no, column⟩) (pending : s.pending = some o)
    (line : o.line = no) (start : o.column = column + (cs.takeWhile isInnerBlank).length)
    (text : o.text = cs.drop (cs.takeWhile isInnerBlank).length) : Consumes p cs (s, []) := by
  have blank := isInnerBlank_of_mem_takeWhile cs
  refine ⟨cs.takeWhile isInnerBlank, o.text, ?_, .of_blanks blank p, ?_⟩
  · rw [text, blanks_append_drop]
  · have there : p.after (cs.takeWhile isInnerBlank) = ⟨o.line, o.column⟩ := by
      rw [Position.after_of_notMem (newline_notMem_of_blank blank), here, line, start]
    rw [State.Holds, pending]
    exact ⟨there, rfl⟩

theorem consumes_scan (no : Nat) (line : List Char) (s : State) (column : Nat) (rest : List Char)
    (idle : s.pending = none) (single : '\n' ∉ rest.dropLast) (p : Position)
    (here : rest ≠ [] → p = ⟨no, column⟩) : Consumes p rest (scan no line s column rest) := by
  -- a line feed ends the line, so the column tells the position only while something is left
  fun_induction scan no line s column rest generalizing p with
  | case1 s column => exact consumes_nil idle p
  | case2 s column c cs blanks rest nothing ih =>
    exact consumes_part [c] cs single (here (by simp)) (reads_token (here (by simp)) ..)
      (ih idle)
  | case3 s column c cs blanks rest done =>
    have none : rest = [] := Lexeme.match?_fits done
    have blank := isInnerBlank_of_mem_takeWhile (c :: cs)
    have whole := blanks_append_drop (c :: cs)
    rw [show (c :: cs).drop ((c :: cs).takeWhile isInnerBlank).length = [] from none,
      List.append_nil] at whole
    rw [whole] at blank
    exact consumes_blanks idle blank p
  | case4 s column c cs blanks rest start n found ih =>
    obtain ⟨positive, known⟩ : 0 < n ∧ _ := Lexeme.match?_fits found
    have read : ∀ q : Position, q = ⟨no, start⟩ → Reads q (rest.take n) [] := by
      intro q _
      have skipped := Reads.continuation known (.nil (q.after (rest.take n)))
      rwa [List.append_nil] at skipped
    exact consumes_after_blanks single (here (by simp)) positive read (ih idle)
  | case5 s column c cs blanks rest start tok n found ih
  | case6 s column c cs blanks rest start tok n found ih
  | case7 s column c cs blanks rest start tok n found ih
  | case8 s column c cs blanks rest start tok n found _ ih
  | case9 s column c cs blanks rest start tok n found ih
  | case11 s column c cs blanks rest start tok n _ found _ ih =>
    -- comments, numbers, line ends, operators, words and strings that end on the line
    exact consumes_token single (here (by simp)) (Lexeme.match?_fits found) (ih idle)
  | case10 s column c cs blanks rest start n _ found
  | case13 s column c cs blanks rest start n _ found =>
    -- strings that go on after the line
    exact consumes_open (here (by simp)) rfl rfl rfl rfl
  | case12 s column c cs blanks rest start tok n q found m closed ih =>
    have positive : 0 < n := Lexeme.match?_fits found
    rw [Nat.add_assoc start, Nat.add_assoc blanks] at ih ⊢
    exact consumes_token single (here (by simp)) (Nat.add_pos_left positive m) (ih idle)

/-! ## One line -/

theorem dropLineEnd_append_drop (cs : List Char) :
    Text.dropLineEnd cs ++ cs.drop (Text.dropLineEnd cs).length = cs := by
  obtain ⟨ends, whole, -, -⟩ := Text.isBody_dropLineEnd cs
  exact List.prefix_iff_eq_append.1 ⟨ends, whole.symm⟩

theorem newline_notMem_dropLineEnd {cs : List Char} (single : '\n' ∉ cs.dropLast) :
    '\n' ∉ Text.dropLineEnd cs := by
  intro mem
  obtain ⟨ends, whole, -, last⟩ := Text.isBody_dropLineEnd cs
  rcases List.eq_nil_or_concat (Text.dropLineEnd cs) with none | ⟨front, c, split⟩
  · rw [none] at mem
    cases mem
  · have other := (last c (by rw [split]; simp)).2
    rw [split, List.concat_eq_append, List.mem_append, List.mem_singleton] at mem
    rcases mem with inside | rfl
    · rw [split, List.concat_eq_append, List.append_assoc] at whole
      rw [whole] at single
      exact newline_notMem_front single (by simp) inside
    · exact other rfl

theorem reads_adjustIndent {no : Nat} {line blanks : List Char} {s s' : State} {ts : List Token}
    (blank : ∀ c ∈ blanks, isInnerBlank c = true)
    (ok : adjustIndent no line blanks s = .ok (s', ts)) :
    s'.pending = s.pending ∧ Reads ⟨no, 0⟩ blanks ts := by
  have skipped : Reads ⟨no, 0⟩ blanks [] := .of_blanks blank _
  unfold adjustIndent at ok
  simp only at ok
  split at ok
  · obtain ⟨rfl, rfl⟩ := Prod.mk.inj (Except.ok.inj ok)
    exact ⟨rfl, reads_token rfl ..⟩
  · split at ok
    · obtain ⟨rfl, rfl⟩ := Prod.mk.inj (Except.ok.inj ok)
      exact ⟨rfl, skipped⟩
    · split at ok
      · obtain ⟨rfl, rfl⟩ := Prod.mk.inj (Except.ok.inj ok)
        refine ⟨rfl, ?_⟩
        -- the blocks are closed behind the blanks
        have dedents : Reads ((⟨no, 0⟩ : Position).after blanks) []
            ((s.indents.takeWhile (indentColumn blanks < ·)).map fun _ =>
              token Kind.dedent [] no blanks.length line) := by
          apply Reads.of_empty
          intro t mem
          obtain ⟨-, -, rfl⟩ := List.mem_map.1 mem
          rw [Position.after_of_notMem (newline_notMem_of_blank blank), Nat.zero_add]
          exact ⟨rfl, rfl, rfl⟩
        have closed := skipped.append dedents
        rwa [List.append_nil, List.nil_append] at closed
      · cases ok

theorem consumes_startStatement {no : Nat} {line : List Char} {s : State}
    {r : State × List Token} (idle : s.pending = none) (single : '\n' ∉ line.dropLast)
    (ok : startStatement no line s = .ok r) : Consumes ⟨no, 0⟩ line r := by
  have blank := isInnerBlank_of_mem_takeWhile line
  have whole := blanks_append_drop line
  unfold startStatement at ok
  simp only at ok
  generalize line.takeWhile isInnerBlank = blanks at ok blank whole
  split at ok
  · rename_i none
    obtain rfl := Except.ok.inj ok
    rw [none, List.append_nil] at whole
    exact consumes_blanks idle (whole ▸ blank) _
  · rename_i c cs left
    have single' : '\n' ∉ (c :: cs).dropLast := by
      rw [← whole, left] at single
      exact newline_notMem_rest single
    have start : (⟨no, 0⟩ : Position).after blanks = ⟨no, blanks.length⟩ := by
      rw [Position.after_of_notMem (newline_notMem_of_blank blank), Nat.zero_add]
    have skipped := Reads.of_blanks blank ⟨no, 0⟩
    rw [left] at ok whole
    rw [← whole]
    split at ok
    · obtain rfl := Except.ok.inj ok
      have behind : (⟨no, blanks.length⟩ : Position).after (Text.dropLineEnd (c :: cs)) =
          ⟨no, blanks.length + (Text.dropLineEnd (c :: cs)).length⟩ :=
        Position.after_of_notMem (newline_notMem_dropLineEnd single') _
      have comment := (reads_token rfl Kind.comment (Text.dropLineEnd (c :: cs)) line).append
        (reads_token behind Kind.nl ((c :: cs).drop (Text.dropLineEnd (c :: cs)).length) line)
      rw [dropLineEnd_append_drop, ← start] at comment
      have read := Consumes.prepend (skipped.append comment) (consumes_nil idle _)
      rwa [List.append_nil] at read
    · split at ok
      · obtain rfl := Except.ok.inj ok
        have read := Consumes.prepend (skipped.append (reads_token start Kind.nl (c :: cs) line))
          (consumes_nil idle _)
        rwa [List.append_nil] at read
      · split at ok
        · cases ok
        · rename_i s' blocks adjusted
          obtain rfl := Except.ok.inj ok
          obtain ⟨same, indented⟩ := reads_adjustIndent blank adjusted
          exact .prepend indented (consumes_scan no line s' blanks.length (c :: cs)
            (same.trans idle) single' _ fun _ => start)

theorem consumes_continueString {no : Nat} {line : List Char} (single : '\n' ∉ line.dropLast)
    (s : State) (o : OpenString) (here : (⟨o.line, o.column⟩ : Position).after o.text = ⟨no, 0⟩) :
    Consumes ⟨o.line, o.column⟩ (o.text ++ line) (continueString no line s o) := by
  unfold continueString
  split
  · rename_i n closed
    have read := reads_token (p := ⟨o.line, o.column⟩) rfl Kind.string (o.text ++ line.take n)
      (o.sourceLine ++ line)
    have split : o.text ++ line = (o.text ++ line.take n) ++ line.drop n := by
      rw [List.append_assoc, List.take_append_drop]
    have single' : '\n' ∉ (line.take n ++ line.drop n).dropLast := by
      rwa [List.take_append_drop]
    rw [split]
    refine .prepend read (consumes_scan no line _ n (line.drop n) rfl
      (newline_notMem_rest single') _ fun more => ?_)
    have long : n ≤ line.length := by
      have left := List.length_pos_iff.2 more
      rw [List.length_drop] at left
      omega
    rw [Position.after_append, here, Position.after_of_notMem (newline_notMem_front single' more),
      List.length_take_of_le long, Nat.zero_add]
  · split
    · have read := Consumes.prepend (reads_token (p := ⟨o.line, o.column⟩) rfl Kind.errorToken
        (o.text ++ line) o.sourceLine) (consumes_nil (s := { s with pending := none }) rfl _)
      rwa [List.append_nil] at read
    · exact ⟨[], o.text ++ line, rfl, .nil _, rfl, rfl⟩

theorem consumes_step {no : Nat} {line rest : List Char} {s : State} {r : State × List Token}
    {p : Position} (single : '\n' ∉ line.dropLast) (holds : s.Holds p rest)
    (here : p.after rest = ⟨no, 0⟩) (ok : step no line s = .ok r) :
    Consumes p (rest ++ line) r := by
  unfold step at ok
  unfold State.Holds at holds
  split at ok
  · rename_i o pending
    rw [pending] at holds
    obtain ⟨rfl, rfl⟩ := holds
    obtain rfl := Except.ok.inj ok
    exact consumes_continueString single s o here
  · rename_i idle
    rw [idle] at holds
    obtain rfl := holds
    obtain rfl : p = ⟨no, 0⟩ := here
    split at ok
    · exact consumes_startStatement idle single ok
    · obtain rfl := Except.ok.inj ok
      exact consumes_scan no line { s with continued := false } 0 line idle single _ fun _ => rfl

/-! ## All lines -/

/-- All of the text is read. The last tokens may stand behind its end, all at one position, and have
no text. -/
def ReadsAll (p : Position) (text : List Char) (tokens : List Token) : Prop :=
  ∃ ts ends q, tokens = ts ++ ends ∧ Reads p text ts ∧ p.after text ≤ q ∧
    ∀ t ∈ ends, t.text = "" ∧ t.IsAt q

theorem ReadsAll.prepend {p : Position} {front text : List Char} {ts tokens : List Token}
    (first : Reads p front ts) (next : ReadsAll (p.after front) text tokens) :
    ReadsAll p (front ++ text) (ts ++ tokens) := by
  obtain ⟨us, ends, q, rfl, read, behind, empty⟩ := next
  rw [← Position.after_append] at behind
  exact ⟨ts ++ us, ends, q, (List.append_assoc ..).symm, first.append read, behind, empty⟩

theorem closing_eq (no : Nat) (last : List Char) (s : State) : ∃ ends,
    closing no last s =
      (if owesNewline last then [token Kind.newline [] (no - 1) last.length []] else []) ++ ends ∧
    ∀ t ∈ ends, t.text = "" ∧ t.IsAt ⟨no, 0⟩ := by
  refine ⟨_, List.append_assoc .., ?_⟩
  intro t mem
  rcases List.mem_append.1 mem with closed | marker
  · obtain ⟨-, -, rfl⟩ := List.mem_map.1 closed
    exact ⟨rfl, rfl, rfl⟩
  · rw [List.mem_singleton.1 marker]
    exact ⟨rfl, rfl, rfl⟩

/-- The source ends at the start of line `no`, or on the line before it. -/
theorem readsAll_closing {no : Nat} {last : List Char} {p : Position} (s : State)
    (here : p = ⟨no, 0⟩ ∧ owesNewline last = false ∨ ∃ m, no = m + 1 ∧ p = ⟨m, last.length⟩) :
    ReadsAll p [] (closing no last s) := by
  obtain ⟨ends, split, empty⟩ := closing_eq no last s
  rw [split]
  refine ⟨_, ends, ⟨no, 0⟩, rfl, ?_, ?_, empty⟩
  · split
    · rename_i owes
      rcases here with ⟨-, paid⟩ | ⟨m, rfl, here⟩
      · rw [paid] at owes
        cases owes
      · exact reads_token here ..
    · exact .nil p
  · rcases here with ⟨rfl, -⟩ | ⟨m, rfl, rfl⟩
    · exact Position.le_refl _
    · exact .inl (Nat.lt_succ_self m)

/-- A bare line is the last one, and the closing tokens stand before its blanks. -/
theorem readsAll_bareLine {no : Nat} {last line : List Char} {s : State}
    {lines : List (List Char)} (cut : Text.IsCut (line :: lines)) (paid : owesNewline last = false)
    (bare : isBareLine s line = true) :
    ReadsAll ⟨no, 0⟩ (line :: lines).flatten (closing no last s) := by
  have blank : ∀ c ∈ line, isInnerBlank c = true := by
    rw [isBareLine, Bool.and_eq_true, List.all_eq_true] at bare
    exact bare.2
  obtain ⟨-, -, ⟨rfl, -⟩ | ⟨body, rfl, -⟩⟩ := cut.cases
  · obtain ⟨ends, split, empty⟩ := closing_eq no last s
    rw [paid, if_neg Bool.false_ne_true, List.nil_append] at split
    rw [split]
    refine ⟨ends, [], _, (List.append_nil _).symm, ?_, Position.le_refl _, by simp⟩
    have read := (Reads.of_empty empty).append (.of_blanks blank ⟨no, 0⟩)
    rw [List.append_nil, List.nil_append] at read
    rwa [List.flatten_singleton]
  · exact absurd (by simp) (newline_notMem_of_blank blank)

theorem readsAll_lexLines {no : Nat} {last rest : List Char} {s : State} {p : Position}
    {lines : List (List Char)} {tokens : List Token} (cut : Text.IsCut lines)
    (holds : s.Holds p rest)
    (here : p.after rest = ⟨no, 0⟩ ∧ owesNewline last = false ∨
      lines = [] ∧ ∃ m, no = m + 1 ∧ p.after rest = ⟨m, last.length⟩)
    (ok : lexLines no last s lines = .ok tokens) :
    ReadsAll p (rest ++ lines.flatten) tokens := by
  induction lines generalizing no last rest s p tokens with
  | nil =>
    unfold lexLines finish at ok
    split at ok
    · cases ok
    · rename_i idle
      split at ok
      · rw [State.Holds, idle] at holds
        obtain rfl := holds
        obtain rfl := Except.ok.inj ok
        exact readsAll_closing s (here.imp_right And.right)
      · cases ok
  | cons line lines ih =>
    obtain ⟨start, paid⟩ : p.after rest = ⟨no, 0⟩ ∧ owesNewline last = false := by
      rcases here with here | ⟨none, -⟩
      · exact here
      · cases none
    rw [lexLines] at ok
    split at ok
    · rename_i bare
      obtain rfl := Except.ok.inj ok
      have idle : s.pending = none := by
        rw [isBareLine, Bool.and_eq_true, Bool.and_eq_true, Option.isNone_iff_eq_none] at bare
        exact bare.1.1
      rw [State.Holds, idle] at holds
      obtain rfl := holds
      obtain rfl : p = ⟨no, 0⟩ := start
      rw [List.nil_append]
      exact readsAll_bareLine cut paid bare
    · obtain ⟨below, single, ending⟩ := cut.cases
      cases stepped : step no line s with
      | error e => simp [stepped] at ok
      | ok r =>
        obtain ⟨front, rest', whole, read, holds'⟩ := consumes_step single holds start stepped
        simp only [stepped] at ok
        cases more : lexLines (no + 1) line r.1 lines with
        | error e => simp [more] at ok
        | ok tokens' =>
          simp only [more] at ok
          obtain rfl := Except.ok.inj ok
          have there : (p.after front).after rest' = (⟨no, 0⟩ : Position).after line := by
            rw [← Position.after_append, ← whole, Position.after_append, start]
          have next := ih below holds' ?_ more
          · rw [List.flatten_cons, ← List.append_assoc, whole, List.append_assoc]
            exact next.prepend read
          · rw [there]
            rcases ending with ⟨rfl, inside⟩ | ⟨body, rfl, inside⟩
            · right
              refine ⟨rfl, no, rfl, ?_⟩
              rw [Position.after_of_notMem inside, Nat.zero_add]
            · left
              refine ⟨Position.after_newline _ inside, ?_⟩
              rw [owesNewline, List.getLast?_concat]
              rfl

end Lexer

theorem readsAll_tokenize {source : String} {tokens : List Token}
    (ok : tokenize source = .ok tokens) : Lexer.ReadsAll ⟨1, 0⟩ source.toList tokens := by
  have idle : Lexer.State.Holds {} ⟨1, 0⟩ [] := rfl
  have all := Lexer.readsAll_lexLines (Text.isCut_physicalLines source.toList) idle
    (.inl ⟨rfl, rfl⟩) ok
  rwa [List.nil_append, Text.flatten_physicalLines] at all

end SourceAudit
