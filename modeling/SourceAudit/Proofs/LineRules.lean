import SourceAudit.Proofs.Positions
import SourceAudit.Proofs.Reuse

/-!
# Rules that look at lines

Two built-in rules go through the physical lines of a source and warn about some of them. The token
that a warning points at is looked up by a search that gives up at the first token on a later line.
The lines of tokens never fall, so the search misses none (`TokenFile.firstTokenOnLine_eq_find?`).
A `LineComplaint` tells which lines a rule is about and what it says about them, and its `Warns`
which messages that makes: one for each such line, in the order of the lines.
-/

namespace SourceAudit

/-! ## The first token of a line -/

namespace TokenFile

variable {path source : String} {file : TokenFile}

theorem eq_of_ofSource (ok : ofSource path source = .ok file) :
    ∃ tokens, tokenize source = .ok tokens ∧
      file = { path := path, source := source, tokens := tokens.toArray } := by
  unfold ofSource at ok
  split at ok
  · rename_i tokens tokenized
    exact ⟨tokens, tokenized, (Except.ok.inj ok).symm⟩
  · cases ok

theorem line_le_of_ofSource (ok : ofSource path source = .ok file) :
    file.tokens.toList.Pairwise fun t u => t.line ≤ u.line := by
  obtain ⟨tokens, tokenized, rfl⟩ := eq_of_ofSource ok
  have order : tokens.Pairwise Token.StartsBy := (readsAll_tokenize tokenized).startsBy
  refine order.imp ?_
  rintro t u (before | ⟨same, -⟩)
  · exact Int.le_of_lt before
  · exact Int.le_of_eq same

/-- Behind the first token on a later line there is no token on the line, so the search may end
there. -/
theorem firstOnLine_eq_find? {tokens : List Token}
    (order : tokens.Pairwise fun t u => t.line ≤ u.line) (n : Int) :
    firstOnLine n tokens = tokens.find? (·.line == n) := by
  induction tokens with
  | nil => rfl
  | cons t ts ih =>
    obtain ⟨later, rest⟩ := List.pairwise_cons.1 order
    by_cases here : t.line = n
    · simp [firstOnLine, here]
    · rw [firstOnLine, if_neg here, List.find?_cons_of_neg (by simpa using here)]
      by_cases past : n < t.line
      · rw [if_pos past, eq_comm, List.find?_eq_none]
        intro u mem same
        have after := later u mem
        have same : u.line = n := by simpa using same
        omega
      · rw [if_neg past, ih rest]

theorem firstTokenOnLine_eq_find? (ok : ofSource path source = .ok file) (n : Int) :
    file.firstTokenOnLine n = file.tokens.toList.find? (·.line == n) :=
  firstOnLine_eq_find? (line_le_of_ofSource ok) n

/-- Either the first token of the line is found, or there is none. -/
theorem line_firstTokenOnLine (ok : ofSource path source = .ok file) (n : Int) :
    (file.firstTokenOnLine n).map Token.line = some n ∨
      (file.firstTokenOnLine n = none ∧ ∀ t ∈ file.tokens.toList, t.line ≠ n) := by
  rw [firstTokenOnLine_eq_find? ok]
  cases found : file.tokens.toList.find? (·.line == n) with
  | none =>
    rw [List.find?_eq_none] at found
    exact .inr ⟨rfl, fun t mem => by simpa using found t mem⟩
  | some t =>
    have here := List.find?_some found
    exact .inl (congrArg some (by simpa using here))

end TokenFile

/-! ## Complaints about lines -/

theorem Text.IsBody.eq {line text : List Char} (body : IsBody line text) :
    text = dropLineEnd line := by
  obtain ⟨ends, rfl, ending, last⟩ := body
  have skipped : ∀ c ∈ ends.reverse, isLineEnd c = true := by
    intro c mem
    simpa [isLineEnd] using ending c (List.mem_reverse.1 mem)
  rw [dropLineEnd, dropRight, List.reverse_append, List.dropWhile_append_of_pos skipped]
  rcases List.eq_nil_or_concat text with rfl | ⟨front, c, rfl⟩
  · rfl
  · have other : isLineEnd c = false := by
      simpa [isLineEnd] using last c (by simp)
    simp [other]

/-- The physical line of the file with number `n` has the text. -/
def TokenFile.HasLine (f : TokenFile) (n : Nat) (text : List Char) : Prop :=
  ∃ i line, n = i + 1 ∧ (Text.physicalLines f.source.toList)[i]? = some line ∧
    Text.IsBody line text

/-- What a rule has against lines. -/
structure LineComplaint where
  applies : List Char → Prop
  /-- What it says about the line of the given number and text. -/
  wording : Nat → List Char → String

namespace LineComplaint

/-- Lines longer than a limit. -/
def tooLong (limit : Int) : LineComplaint where
  applies text := limit < text.length
  wording n text :=
    "Line " ++ natText n ++ " is " ++ natText text.length ++ " characters long (maximum is " ++
      intText limit ++ ")"

/-- Lines that end in a space or tab. -/
def trailingBlank : LineComplaint where
  applies text := ∃ front c, text = front ++ [c] ∧ (c = ' ' ∨ c = '\t')
  wording n _ := "Trailing whitespace on line " ++ natText n

/-- The message is the warning about line `n`. It is at the first token that starts on the line, if
there is one. -/
def IsWarning (c : LineComplaint) (f : TokenFile) (n : Nat) (m : Message) : Prop :=
  ∃ text, f.HasLine n text ∧
    m = Message.warning f.path (c.wording n text) (f.tokens.toList.find? (·.line == (n : Int))) ∧
    (m.line = some (n : Int) ∨ (m.line = none ∧ ∀ t ∈ f.tokens.toList, t.line ≠ n))

/-- The messages are the warnings about the lines that the complaint applies to, by number. -/
def Warns (c : LineComplaint) (f : TokenFile) (ms : List Message) : Prop :=
  ∃ numbers : List Nat, numbers.Pairwise (· < ·) ∧
    (∀ n, n ∈ numbers ↔ ∃ text, f.HasLine n text ∧ c.applies text) ∧
    List.Forall₂ (c.IsWarning f) numbers ms

end LineComplaint

/-- The complaint of a rule that looks at lines. -/
def Builtin.complaint? : Builtin → Option LineComplaint
  | .lineLength limit => some (.tooLong limit)
  | .trailingWhitespace => some .trailingBlank
  | _ => none

/-! ## The lines of a file -/

theorem TokenFile.mem_numberedLines {f : TokenFile} {line : String × Nat} :
    line ∈ Builtin.numberedLines f ↔ f.HasLine line.2 line.1.toList := by
  obtain ⟨text, n⟩ := line
  rw [Builtin.numberedLines, List.mk_mem_zipIdx_iff_le_and_getElem?_sub]
  simp only [lines, Text.lineTexts, List.getElem?_map, Option.map_eq_some_iff]
  constructor
  · rintro ⟨positive, body, ⟨line, here, rfl⟩, rfl⟩
    refine ⟨n - 1, line, by omega, here, ?_⟩
    rw [String.toList_ofList]
    exact Text.isBody_dropLineEnd line
  · rintro ⟨i, line, rfl, here, body⟩
    refine ⟨by omega, _, ⟨line, here, rfl⟩, ?_⟩
    rw [← body.eq, String.ofList_toList]

theorem Builtin.pairwise_numberedLines (f : TokenFile) :
    (numberedLines f).Pairwise fun a b => a.2 < b.2 := by
  rw [numberedLines, ← List.pairwise_map (f := Prod.snd), List.zipIdx_map_snd]
  exact List.pairwise_lt_range'

/-- Code that says of each line whether the complaint applies to it makes the warnings. -/
theorem LineComplaint.warns_filterMap {c : LineComplaint} {path source : String} {f : TokenFile}
    (ok : TokenFile.ofSource path source = .ok f) {say : String × Nat → Option Message}
    (quiet : ∀ line, ¬ c.applies line.1.toList → say line = none)
    (loud : ∀ line, c.applies line.1.toList → say line = some (Message.warning f.path
      (c.wording line.2 line.1.toList) (f.firstTokenOnLine line.2))) :
    c.Warns f ((Builtin.numberedLines f).filterMap say) := by
  classical
  let flagged := (Builtin.numberedLines f).filter fun line => c.applies line.1.toList
  have said : (Builtin.numberedLines f).filterMap say = flagged.map fun line =>
      Message.warning f.path (c.wording line.2 line.1.toList) (f.firstTokenOnLine line.2) := by
    rw [← List.filterMap_eq_map', List.filterMap_filter]
    refine List.filterMap_congr fun line _ => ?_
    by_cases applies : c.applies line.1.toList
    · simp [applies, loud line applies]
    · simp [applies, quiet line applies]
  refine ⟨flagged.map Prod.snd, ?_, ?_, ?_⟩
  · rw [List.pairwise_map]
    exact (Builtin.pairwise_numberedLines f).filter _
  · intro n
    simp only [flagged, List.mem_map, List.mem_filter, TokenFile.mem_numberedLines,
      decide_eq_true_eq]
    constructor
    · rintro ⟨line, ⟨here, applies⟩, rfl⟩
      exact ⟨_, here, applies⟩
    · rintro ⟨text, here, applies⟩
      refine ⟨(String.ofList text, n), ⟨?_, ?_⟩, rfl⟩
      · rwa [String.toList_ofList]
      · rwa [String.toList_ofList]
  · rw [said, List.forall₂_map_left_iff, List.forall₂_map_right_iff, List.forall₂_same]
    intro line mem
    have here := TokenFile.mem_numberedLines.1 (List.mem_of_mem_filter mem)
    refine ⟨_, here, ?_, ?_⟩
    · rw [TokenFile.firstTokenOnLine_eq_find? ok]
    · rcases TokenFile.line_firstTokenOnLine ok line.2 with found | ⟨none, missing⟩
      · exact .inl found
      · exact .inr ⟨congrArg (Option.map Token.line) none, missing⟩

namespace Builtin

theorem endsBlank_iff (cs : List Char) :
    endsBlank cs = true ↔ ∃ front c, cs = front ++ [c] ∧ (c = ' ' ∨ c = '\t') := by
  rcases List.eq_nil_or_concat cs with rfl | ⟨front, c, rfl⟩
  · simp [endsBlank]
  · simp [endsBlank]

/-- A rule that looks at lines reports the warnings of its complaint. -/
theorem exists_reports_lines {path source : String} {f : TokenFile}
    (ok : TokenFile.ofSource path source = .ok f) {rule : Builtin} {complaint : LineComplaint}
    (about : rule.complaint? = some complaint) :
    ∃ ms, Reports rule.run f ms ∧ complaint.Warns f ms := by
  cases rule with
  | lineLength limit =>
    obtain rfl := Option.some.inj about
    refine ⟨_, .ofList (numberedLines f) (fun _ _ => path_of_longLine) fun _ => rfl, ?_⟩
    refine LineComplaint.warns_filterMap ok (fun line short => ?_) fun line long => ?_
    · have short : ¬ limit < line.1.toList.length := short
      rw [String.length_toList] at short
      simp only [longLine, if_neg short]
    · have long : limit < line.1.toList.length := long
      rw [String.length_toList] at long
      simp only [longLine, if_pos long, LineComplaint.tooLong, String.length_toList]
  | trailingWhitespace =>
    obtain rfl := Option.some.inj about
    refine ⟨_, .ofList (numberedLines f) (fun _ _ => path_of_blankLineEnd) fun _ => rfl, ?_⟩
    refine LineComplaint.warns_filterMap ok (fun line clean => ?_) fun line blank => ?_
    · rw [blankLineEnd, if_neg ((endsBlank_iff _).not.2 clean)]
    · rw [blankLineEnd, if_pos ((endsBlank_iff _).2 blank)]
      rfl
  | bareExcept | tabIndentation | todoComment => cases about

end Builtin

/-- Rules that look at lines flag the right lines and point at the right tokens. The search for the
first token of a line gives the first of all tokens that start on it, and nothing exactly when none
does. A check with one of the two rules, of a file that is in the report, ends well and adds to this
file the warnings of the rule's complaint: one for each physical line that the complaint applies to,
in the order of the lines. -/
theorem TokenFile.line_rules_are_exact {path source : String} {file : TokenFile}
    (ok : TokenFile.ofSource path source = .ok file) :
    (∀ n : Int, file.firstTokenOnLine n = file.tokens.toList.find? (·.line == n) ∧
      (file.firstTokenOnLine n = none ↔ ∀ t ∈ file.tokens.toList, t.line ≠ n)) ∧
    ∀ (rule : Builtin) (complaint : LineComplaint), rule.complaint? = some complaint →
      ∀ (position : Nat) (r : Report), path ∈ r.files →
        let done := (Rule.builtin rule).check { file with position } r
        done.failure = none ∧ done.report.files = r.files ∧
          (∃ ms, complaint.Warns file ms ∧
            done.report.messages path = r.messages path ++ ms) ∧
          ∀ q, q ≠ path → done.report.messages q = r.messages q := by
  refine ⟨fun n => ⟨firstTokenOnLine_eq_find? ok n, ?_⟩, ?_⟩
  · rw [firstTokenOnLine_eq_find? ok, List.find?_eq_none]
    simp
  · intro rule complaint about position r known
    obtain ⟨ms, reports, warns⟩ := Builtin.exists_reports_lines ok about
    obtain ⟨tokens, -, rfl⟩ := eq_of_ofSource ok
    obtain ⟨report, calm⟩ := reports.known r known
    intro done
    have after : done.report = r.pushAll ms := report
    rw [after]
    refine ⟨calm, Report.files_pushAll r ms, ⟨ms, warns, ?_⟩, ?_⟩
    · exact Report.messages_pushAll_self known reports.own
    · intro q other
      apply Report.messages_pushAll_of_ne
      intro m mem same
      exact other (same.symm.trans (reports.own m mem))

/-- A string over three lines, on the second of which no token starts; the third line ends in a tab,
and the last in a space and a carriage return. -/
def raggedSource : String :=
  "x = '''\n  inside\n\t'''\t\n\x0c# end \r"

theorem TokenFile.line_rules_are_exact_of_raggedSource :
    ∃ file, TokenFile.ofSource "ragged.py" raggedSource = .ok file ∧
      file.firstTokenOnLine 2 = none ∧
      ∃ ms, (LineComplaint.tooLong 5).Warns file ms ∧ ms.length = 3 ∧
        ((Rule.builtin (.lineLength 5)).check file
          (Report.only "ragged.py")).report.messages "ragged.py" = ms := by
  have evaluated : (TokenFile.ofSource "ragged.py" raggedSource).toOption.map (fun file =>
      ((file.firstTokenOnLine 2).isNone, (((Rule.builtin (.lineLength 5)).check file
        (Report.only "ragged.py")).report.messages "ragged.py").length)) = some (true, 3) := by
    decide +kernel
  cases ok : TokenFile.ofSource "ragged.py" raggedSource with
  | error e =>
    rw [ok] at evaluated
    cases evaluated
  | ok file =>
    rw [ok] at evaluated
    obtain ⟨none, three⟩ := Prod.mk.inj (Option.some.inj evaluated)
    obtain ⟨-, checks⟩ := TokenFile.line_rules_are_exact ok
    obtain ⟨-, -, ⟨ms, warns, messages⟩, -⟩ := checks (.lineLength 5) (.tooLong 5) rfl file.position
      (Report.only "ragged.py") (by decide)
    have empty : (Report.only "ragged.py").messages "ragged.py" = [] := rfl
    rw [empty, List.nil_append] at messages
    refine ⟨file, rfl, Option.isNone_iff_eq_none.1 none, ms, warns, ?_, messages⟩
    rw [← messages]
    exact three

end SourceAudit
