import SourceAudit.Proofs.TokenRules

/-!
# Markers in comments

The rule about unfinished work searches a comment from left to right for a marker with no word
character next to it. What it finds is said here without a search: the text falls into maximal runs
of word characters (`Text.IsRun`), and the rule names the first run that is a marker
(`findMarker_eq_some_iff`). At one place of a text there is only one maximal run, so at most one of
the markers fits there, and the search goes on only where none does.
-/

namespace SourceAudit

/-- `run` is a maximal run of word characters between `before` and `after`. -/
structure Text.IsRun (before run after : List Char) : Prop where
  nonempty : run ≠ []
  word : ∀ c ∈ run, isWord c = true
  starts : ∀ c ∈ before.getLast?, isWord c = false
  ends : ∀ c ∈ after.head?, isWord c = false

theorem Text.takeWhile_isWord_append {run after : List Char} (word : ∀ c ∈ run, isWord c = true)
    (ends : ∀ c ∈ after.head?, isWord c = false) : (run ++ after).takeWhile isWord = run := by
  rw [List.takeWhile_append_of_pos word]
  cases after with
  | nil => simp
  | cons c after =>
    have stop : isWord c = false := ends c (by simp)
    rw [List.takeWhile_cons_of_neg (by simp [stop]), List.append_nil]

theorem Text.any_isWord_eq_false_iff {neighbour : Option Char} :
    neighbour.any isWord = false ↔ ∀ c ∈ neighbour, isWord c = false := by
  cases neighbour <;> simp

namespace Builtin

/-- The marker is a maximal run of the text, behind `before`. -/
def Stands (cs before m : List Char) : Prop :=
  m ∈ markers ∧ ∃ after, cs = before ++ m ++ after ∧ Text.IsRun before m after

/-- The marker is the first run of the text that is one. -/
def IsFirstMarker (cs m : List Char) : Prop :=
  ∃ before, Stands cs before m ∧
    ∀ before' m', Stands cs before' m' → before.length ≤ before'.length

theorem mem_markers_iff {m : List Char} :
    m ∈ markers ↔ String.ofList m ∈ ["TODO", "FIXME", "XXX"] := by
  rw [markers, List.mem_map]
  constructor
  · rintro ⟨s, mem, rfl⟩
    rwa [String.ofList_toList]
  · intro mem
    exact ⟨_, mem, String.toList_ofList⟩

theorem ne_nil_of_mem_markers {m : List Char} (mem : m ∈ markers) : m ≠ [] := by
  revert m
  decide

theorem isWord_of_mem_markers {m : List Char} (mem : m ∈ markers) :
    ∀ c ∈ m, Text.isWord c = true := by
  -- `List.all` and not `∀ c ∈ m`, which would be decided over every character there is
  have letters : ∀ m ∈ markers, m.all (fun c => c.toNat < 128 && c.isAlphanum) = true := by
    decide
  intro c inMarker
  have plain := List.all_eq_true.1 (letters m mem) c inMarker
  rw [Bool.and_eq_true, decide_eq_true_eq] at plain
  exact Text.isWord_of_isAlphanum plain.1 plain.2

/-! ## One place of a text -/

theorem markerHere_iff {cs m : List Char} :
    markerHere cs m = true ↔
      ∃ after, cs = m ++ after ∧ ∀ c ∈ after.head?, Text.isWord c = false := by
  rw [markerHere, Bool.and_eq_true, List.isPrefixOf_iff_prefix, Bool.not_eq_true',
    Text.any_isWord_eq_false_iff]
  constructor
  · rintro ⟨⟨after, rfl⟩, stop⟩
    rw [List.drop_left] at stop
    exact ⟨after, rfl, stop⟩
  · rintro ⟨after, rfl, stop⟩
    rw [List.drop_left]
    exact ⟨⟨after, rfl⟩, stop⟩

/-- Only one marker fits at one place. -/
theorem find?_markerHere {cs m : List Char} :
    markers.find? (markerHere cs) = some m ↔ m ∈ markers ∧ markerHere cs m = true := by
  constructor
  · intro found
    exact ⟨List.mem_of_find?_eq_some found, List.find?_some found⟩
  · rintro ⟨mem, here⟩
    have some : (markers.find? (markerHere cs)).isSome = true := by
      rw [List.find?_isSome]
      exact ⟨m, mem, here⟩
    obtain ⟨m', found⟩ := Option.isSome_iff_exists.1 some
    have fits : ∀ n, n ∈ markers → markerHere cs n = true → cs.takeWhile Text.isWord = n := by
      intro n isMarker stands
      obtain ⟨after, rfl, stop⟩ := markerHere_iff.1 stands
      exact Text.takeWhile_isWord_append (isWord_of_mem_markers isMarker) stop
    rw [found, ← fits m mem here,
      fits m' (List.mem_of_find?_eq_some found) (List.find?_some found)]

/-- Whether a text ends with a word character. -/
def endsInWord (cs : List Char) : Bool :=
  cs.getLast?.any Text.isWord

theorem endsInWord_concat (front : List Char) (c : Char) :
    endsInWord (front ++ [c]) = Text.isWord c := by
  simp [endsInWord]

/-- A marker stands right behind `front` when it fits there and no word character is just before. -/
theorem stands_here {front cs m : List Char} :
    Stands (front ++ cs) front m ↔
      endsInWord front = false ∧ markers.find? (markerHere cs) = some m := by
  rw [find?_markerHere, markerHere_iff, endsInWord, Text.any_isWord_eq_false_iff]
  constructor
  · rintro ⟨mem, after, whole, run⟩
    rw [List.append_assoc, List.append_cancel_left_eq] at whole
    exact ⟨run.starts, mem, after, whole, run.ends⟩
  · rintro ⟨starts, mem, after, rfl, ends⟩
    refine ⟨mem, after, (List.append_assoc ..).symm, ?_⟩
    exact ⟨ne_nil_of_mem_markers mem, isWord_of_mem_markers mem, starts, ends⟩

theorem Stands.eq_take {cs before m : List Char} (stands : Stands cs before m) :
    before = cs.take before.length := by
  obtain ⟨-, after, rfl, -⟩ := stands
  rw [List.append_assoc, List.take_left']
  rfl

theorem Stands.lt_length {cs before m : List Char} (stands : Stands cs before m) :
    before.length < cs.length := by
  obtain ⟨-, after, rfl, run⟩ := stands
  have positive := List.length_pos_of_ne_nil run.nonempty
  rw [List.length_append, List.length_append]
  omega

theorem Stands.unique {cs before before' m m' : List Char} (first : Stands cs before m)
    (second : Stands cs before' m') (same : before.length = before'.length) : m = m' := by
  have place : before = before' := by rw [first.eq_take, second.eq_take, same]
  subst place
  obtain ⟨rest, rfl⟩ : ∃ rest, cs = before ++ rest := by
    obtain ⟨-, after, rfl, -⟩ := first
    exact ⟨m ++ after, List.append_assoc ..⟩
  exact Option.some.inj ((stands_here.1 first).2.symm.trans (stands_here.1 second).2)

/-! ## The search -/

/-- What the search finds behind `front` in the whole text. -/
theorem findMarker_cases (front cs : List Char) :
    (∃ before m, findMarker (endsInWord front) cs = some m ∧ Stands (front ++ cs) before m ∧
      ∀ before' m', front.length ≤ before'.length → Stands (front ++ cs) before' m' →
        before.length ≤ before'.length) ∨
    (findMarker (endsInWord front) cs = none ∧
      ∀ before m, front.length ≤ before.length → ¬ Stands (front ++ cs) before m) := by
  induction cs generalizing front with
  | nil =>
    refine .inr ⟨rfl, ?_⟩
    intro before m behind stands
    have inside := stands.lt_length
    rw [List.append_nil] at inside
    omega
  | cons c cs ih =>
    by_cases here : ∃ m, Stands (front ++ c :: cs) front m
    · obtain ⟨m, stands⟩ := here
      obtain ⟨start, found⟩ := stands_here.1 stands
      refine .inl ⟨front, m, ?_, stands, fun _ _ behind _ => behind⟩
      simp [findMarker, start, found]
    · have next : findMarker (endsInWord front) (c :: cs) = findMarker (Text.isWord c) cs := by
        cases start : endsInWord front with
        | true => simp [findMarker]
        | false =>
          have none : markers.find? (markerHere (c :: cs)) = none := by
            rw [Option.eq_none_iff_forall_ne_some]
            intro m found
            exact here ⟨m, stands_here.2 ⟨start, found⟩⟩
          simp [findMarker, none]
      -- A marker behind `front` is not right behind it, so it is behind one more character.
      have later : ∀ before m, front.length ≤ before.length →
          Stands (front ++ c :: cs) before m → (front ++ [c]).length ≤ before.length := by
        intro before m behind stands
        rw [List.length_append, List.length_singleton]
        by_contra short
        have place : before = front := by
          rw [stands.eq_take, List.take_append_of_le_length (by omega), List.take_of_length_le]
          omega
        exact here ⟨m, place ▸ stands⟩
      have whole : front ++ [c] ++ cs = front ++ c :: cs := by simp
      rw [next, ← endsInWord_concat front c]
      rcases ih (front ++ [c]) with ⟨before, m, found, stands, first⟩ | ⟨nothing, absent⟩
      · rw [whole] at stands first
        refine .inl ⟨before, m, found, stands, ?_⟩
        intro before' m' behind stands'
        exact first before' m' (later before' m' behind stands') stands'
      · rw [whole] at absent
        refine .inr ⟨nothing, ?_⟩
        intro before m behind stands
        exact absent before m (later before m behind stands) stands

/-- The search finds the first marker. -/
theorem findMarker_eq_some_iff {cs m : List Char} :
    findMarker false cs = some m ↔ IsFirstMarker cs m := by
  rcases findMarker_cases [] cs with ⟨before, n, found, stands, first⟩ | ⟨nothing, absent⟩
  · have found : findMarker false cs = some n := found
    have first : ∀ before' m', Stands cs before' m' → before.length ≤ before'.length :=
      fun before' m' => first before' m' (Nat.zero_le _)
    rw [found, Option.some.injEq]
    constructor
    · rintro rfl
      exact ⟨before, stands, first⟩
    · rintro ⟨before', stands', first'⟩
      apply stands.unique stands'
      exact Nat.le_antisymm (first _ _ stands') (first' _ _ stands)
  · have nothing : findMarker false cs = none := nothing
    rw [nothing]
    constructor
    · rintro ⟨⟩
    · rintro ⟨before, stands, -⟩
      exact absurd stands (absent before m (Nat.zero_le _))

/-- A text with a marker has a first one, and only one. -/
theorem existsUnique_isFirstMarker {cs : List Char} :
    (∃! m, IsFirstMarker cs m) ↔ ∃ before m, Stands cs before m := by
  constructor
  · rintro ⟨m, ⟨before, stands, -⟩, -⟩
    exact ⟨before, m, stands⟩
  · rintro ⟨before, m, stands⟩
    rcases findMarker_cases [] cs with ⟨-, n, found, -⟩ | ⟨-, absent⟩
    · have found : findMarker false cs = some n := found
      refine ⟨n, findMarker_eq_some_iff.1 found, ?_⟩
      intro n' first
      exact Option.some.inj ((findMarker_eq_some_iff.2 first).symm.trans found)
    · exact absurd stands (absent before m (Nat.zero_le _))

end Builtin

/-! ## The rule -/

/-- A comment in which a marker stands. -/
def TokenComplaint.marker : TokenComplaint where
  finding := .warning
  remarks tokens i text := ∃ t m, tokens[i]? = some t ∧ t.kind = Kind.comment ∧
    Builtin.IsFirstMarker t.text.toList m ∧
    text = String.ofList m ++ " comment on line " ++ intText t.line

namespace Builtin

theorem markerAt_eq_some_iff {f : TokenFile} {t : Token} {i : Nat} {m : Message}
    (here : f.tokens.toList[i]? = some t) :
    markerAt f t = some m ↔ TokenComplaint.marker.IsMessage f i m := by
  rw [markerAt]
  constructor
  · intro said
    split at said
    · rename_i comment
      obtain ⟨word, found, rfl⟩ := Option.map_eq_some_iff.1 said
      have first := findMarker_eq_some_iff.1 found
      exact ⟨t, _, here, ⟨t, word, here, comment, first, rfl⟩, rfl⟩
    · cases said
  · rintro ⟨t', text, here', ⟨t'', word, here'', comment, first, rfl⟩, rfl⟩
    obtain rfl := Option.some.inj (here.symm.trans here')
    obtain rfl := Option.some.inj (here.symm.trans here'')
    rw [if_pos comment, findMarker_eq_some_iff.2 first]
    rfl

theorem tells_markerAt (f : TokenFile) :
    TokenComplaint.marker.Tells f (f.tokens.toList.filterMap (markerAt f)) := by
  have numbered : f.tokens.toList.filterMap (markerAt f) =
      f.tokens.toList.zipIdx.filterMap (markerAt f ∘ Prod.fst) := by
    rw [← List.filterMap_map, List.zipIdx_map_fst]
  rw [numbered]
  exact TokenComplaint.tells_filterMap fun _ _ _ here => markerAt_eq_some_iff here

/-- The rule about unfinished work is exact. A check of a file in the report ends well and adds to
this file one warning for each comment in which a marker stands, in the order of the tokens, and
nothing else. The warning names the first marker of the comment. There is one exactly when some
maximal run of word characters in the comment is a marker. -/
theorem marker_rule_is_exact (f : TokenFile) (r : Report) (known : f.path ∈ r.files) :
    let done := (Rule.builtin .todoComment).check f r
    done.failure = none ∧ done.report.files = r.files ∧
      (∃ ms, TokenComplaint.marker.Tells f ms ∧
        done.report.messages f.path = r.messages f.path ++ ms) ∧
      (∀ q, q ≠ f.path → done.report.messages q = r.messages q) ∧
      ∀ t ∈ f.tokens.toList, (∃! m, IsFirstMarker t.text.toList m) ↔
        ∃ before run after, t.text.toList = before ++ run ++ after ∧
          Text.IsRun before run after ∧ String.ofList run ∈ ["TODO", "FIXME", "XXX"] := by
  intro done
  have mine : ∀ m ∈ f.tokens.toList.filterMap (markerAt f), m.path = f.path := by
    intro m mem
    obtain ⟨t, -, said⟩ := List.mem_filterMap.1 mem
    exact path_of_markerAt said
  have added : Binding.addAll ⟨f.rewind, r⟩ (f.tokens.toList.filterMap (markerAt f)) =
      (⟨f.rewind, r.pushAll (f.tokens.toList.filterMap (markerAt f))⟩, none) :=
    Binding.addAll_of_mem fun m mem => (mine m mem).symm ▸ known
  have after : done = ⟨Builtin.todoComment.fresh, f.rewind,
      r.pushAll (f.tokens.toList.filterMap (markerAt f)), none⟩ := by
    have run : Builtin.todoComment.run ⟨f.rewind, r⟩ =
        Binding.addAll ⟨f.rewind, r⟩ (f.tokens.toList.filterMap (markerAt f)) := rfl
    show Builtin.todoComment.fresh.check f r = _
    rw [check_fresh, run, added]
  obtain ⟨files, messages, others⟩ := Report.pushAll_of_own known mine
  rw [after]
  refine ⟨rfl, files, ⟨_, tells_markerAt f, messages⟩, others, fun t _ => ?_⟩
  rw [existsUnique_isFirstMarker]
  constructor
  · rintro ⟨before, m, mem, after, whole, run⟩
    exact ⟨before, m, after, whole, run, mem_markers_iff.1 mem⟩
  · rintro ⟨before, m, after, whole, run, mem⟩
    exact ⟨before, m, mem_markers_iff.2 mem, after, whole, run⟩

/-- Near misses in a comment, then two markers behind a near miss, then a marker that is a name. -/
def notesFile : TokenFile where
  path := "notes.py"
  source := ""
  tokens := #[⟨Kind.comment, "# TODOs, _TODO, TODO1, éXXX", 1, 0, ""⟩,
    ⟨Kind.comment, "# XXXX FIXME TODO", 2, 0, ""⟩, ⟨Kind.name, "TODO", 3, 0, ""⟩]

theorem marker_rule_is_exact_of_notesFile :
    notesFile.path ∈ (Report.only "notes.py").files ∧
      ∃ ms, TokenComplaint.marker.Tells notesFile ms ∧
        ms.map Message.text = ["FIXME comment on line 2"] ∧
        ((Rule.builtin .todoComment).check notesFile (Report.only "notes.py")).report.messages
          "notes.py" = ms := by
  have known : notesFile.path ∈ (Report.only "notes.py").files := by decide
  obtain ⟨-, -, ⟨ms, tells, messages⟩, -⟩ :=
    marker_rule_is_exact notesFile (Report.only "notes.py") known
  have found : ((Rule.builtin .todoComment).check notesFile
      (Report.only "notes.py")).report.messages "notes.py" = ms := messages
  have texts : (((Rule.builtin .todoComment).check notesFile
      (Report.only "notes.py")).report.messages "notes.py").map Message.text =
        ["FIXME comment on line 2"] := by
    decide +kernel
  exact ⟨known, ms, tells, found ▸ texts, found⟩

end Builtin

end SourceAudit
