import SourceAudit.Text.Blank

/-!
# Physical lines

A physical line ends after a line feed and nowhere else; the last one may lack it. `physicalLines`
cuts a text into such lines without losing a character, `lineTexts` drops the line ends, and
`unifyLineEnds` replaces each carriage return, alone or before a line feed, by one line feed.
-/

namespace SourceAudit.Text

/-- The lines of a text, each with its line feed. -/
def physicalLines : List Char → List (List Char)
  | [] => []
  | c :: cs =>
    if c = '\n' then [c] :: physicalLines cs
    else
      match physicalLines cs with
      | [] => [[c]]
      | line :: lines => (c :: line) :: lines

/-- Whether `c` can end a line. -/
def isLineEnd (c : Char) : Bool :=
  c == '\r' || c == '\n'

/-- A line without the carriage returns and line feeds at its end. -/
def dropLineEnd (line : List Char) : List Char :=
  dropRight isLineEnd line

/-- The text of a line: all of it but the carriage returns and line feeds at its end. -/
def IsBody (line text : List Char) : Prop :=
  ∃ ends, line = text ++ ends ∧ (∀ c ∈ ends, c = '\r' ∨ c = '\n') ∧
    ∀ c ∈ text.getLast?, c ≠ '\r' ∧ c ≠ '\n'

theorem isBody_dropLineEnd (line : List Char) : IsBody line (dropLineEnd line) := by
  refine ⟨(line.reverse.takeWhile isLineEnd).reverse, ?_, ?_, ?_⟩
  · rw [dropLineEnd, dropRight, ← List.reverse_append, List.takeWhile_append_dropWhile,
      List.reverse_reverse]
  · intro c mem
    have ending := List.all_eq_true.1 List.all_takeWhile c (List.mem_reverse.1 mem)
    simpa [isLineEnd] using ending
  · intro c last
    rw [dropLineEnd, dropRight, List.getLast?_reverse] at last
    have first := List.head?_dropWhile_not isLineEnd line.reverse
    rw [Option.mem_def.1 last] at first
    simpa [isLineEnd] using first

/-- The lines of a text without their ends. -/
def lineTexts (cs : List Char) : List (List Char) :=
  (physicalLines cs).map dropLineEnd

/-- Each `\r\n` and each other `\r` becomes `\n`. -/
def unifyLineEnds : List Char → List Char
  | [] => []
  | '\r' :: '\n' :: cs => '\n' :: unifyLineEnds cs
  | '\r' :: cs => '\n' :: unifyLineEnds cs
  | c :: cs => c :: unifyLineEnds cs

theorem flatten_physicalLines (cs : List Char) : (physicalLines cs).flatten = cs := by
  induction cs with
  | nil => rfl
  | cons c cs ih =>
    by_cases h : c = '\n'
    · simp [physicalLines, h, ih]
    · simp only [physicalLines, h, if_false]
      split
      · next heq => simp [heq] at ih; simp [← ih]
      · next heq => simp [heq] at ih; simp [← ih]

end SourceAudit.Text
