import SourceAudit.Rule.Check

/-!
# The growth of reports

Adding a file or a message never takes anything away: the files stay in their order, and the
messages of every file stay in front of the new ones (`Report.Grows`). `Report.pushAll` is what
adding messages one after the other comes to, and `Report.gained` is what a file has been given
since an earlier report. Whatever a rule does during a check, the report only grows
(`Rule.check_grows`); in particular a file that was in the report stays in it.
-/

namespace SourceAudit

namespace Report

variable {σ : Type} [DecidableEq σ]

/-! ## Messages under the operations -/

/-- Puts messages behind those of their files, in order. -/
def pushAll (r : Report σ) (ms : List (Message σ)) : Report σ :=
  ms.foldl push r

/-- The messages of a file that `s` has behind those of the earlier report `r`. -/
def gained (r s : Report σ) (path : σ) : List (Message σ) :=
  (s.messages path).drop (r.messages path).length

@[simp] theorem pushAll_nil (r : Report σ) : r.pushAll [] = r := rfl

@[simp] theorem pushAll_cons (r : Report σ) (m : Message σ) (ms : List (Message σ)) :
    r.pushAll (m :: ms) = (r.push m).pushAll ms := rfl

theorem pushAll_append (r : Report σ) (ms ns : List (Message σ)) :
    r.pushAll (ms ++ ns) = (r.pushAll ms).pushAll ns :=
  List.foldl_append

@[simp] theorem files_pushAll (r : Report σ) (ms : List (Message σ)) :
    (r.pushAll ms).files = r.files := by
  induction ms generalizing r with
  | nil => rfl
  | cons m ms ih => rw [pushAll_cons, ih, files_push]

theorem mem_files_addFile {r : Report σ} {path q : σ} :
    q ∈ (r.addFile path).files ↔ q ∈ r.files ∨ q = path := by
  rw [files_addFile]
  split
  · exact ⟨Or.inl, fun h => h.elim id fun e => e ▸ ‹_›⟩
  · rw [List.mem_append, List.mem_singleton]

theorem find?_entries_eq_none {r : Report σ} {path : σ} (h : path ∉ r.files) :
    r.entries.find? (·.1 == path) = none := by
  rw [List.find?_eq_none]
  intro e he heq
  exact h (List.mem_map.2 ⟨e, he, by simpa using heq⟩)

theorem messages_eq_nil {r : Report σ} {path : σ} (h : path ∉ r.files) :
    r.messages path = [] := by
  simp [messages, find?_entries_eq_none h]

@[simp] theorem messages_addFile (r : Report σ) (path q : σ) :
    (r.addFile path).messages q = r.messages q := by
  by_cases h : r.wasAnalyzed path = true
  · simp [addFile, h]
  · have hn : path ∉ r.files := fun hm => h ((r.wasAnalyzed_iff path).2 hm)
    rw [Bool.not_eq_true] at h
    by_cases hq : path = q
    · subst hq
      simp [addFile, h, messages, List.find?_append, find?_entries_eq_none hn]
    · simp [addFile, h, messages, List.find?_append, hq]

theorem messages_push (r : Report σ) (m : Message σ) (q : σ) :
    (r.push m).messages q =
      if q = m.path ∧ q ∈ r.files then r.messages q ++ [m] else r.messages q := by
  have hkey : ((·.1 == q) ∘ fun e : σ × List (Message σ) =>
      if e.1 = m.path then (e.1, e.2 ++ [m]) else e) = (·.1 == q) := by
    funext e
    by_cases he : e.1 = m.path <;> simp [he]
  by_cases hq : q ∈ r.files
  · obtain ⟨e, he⟩ : ∃ e, r.entries.find? (·.1 == q) = some e := by
      rw [← Option.isSome_iff_exists, List.find?_isSome]
      obtain ⟨e, he, rfl⟩ := List.mem_map.1 hq
      exact ⟨e, he, by simp⟩
    have heq : e.1 = q := by simpa using List.find?_some he
    simp only [messages, push, List.find?_map, hkey, he, Option.map_some, Option.getD_some, hq,
      and_true]
    rw [heq]
    split <;> rfl
  · have hp : q ∉ (r.push m).files := by rwa [files_push]
    rw [messages_eq_nil hp, messages_eq_nil hq]
    simp [hq]

theorem messages_pushAll {r : Report σ} {q : σ} (h : q ∈ r.files) (ms : List (Message σ)) :
    (r.pushAll ms).messages q = r.messages q ++ ms.filter (·.path == q) := by
  induction ms generalizing r with
  | nil => simp
  | cons m ms ih =>
    rw [pushAll_cons, ih (by rwa [files_push]), messages_push]
    by_cases hm : q = m.path
    · subst hm
      simp [h]
    · simp [hm, Ne.symm hm]

theorem messages_pushAll_of_ne (r : Report σ) {q : σ} {ms : List (Message σ)}
    (h : ∀ m ∈ ms, m.path ≠ q) : (r.pushAll ms).messages q = r.messages q := by
  induction ms generalizing r with
  | nil => rfl
  | cons m ms ih =>
    rw [pushAll_cons, ih (r.push m) fun n hn => h n (List.mem_cons_of_mem m hn), messages_push,
      if_neg fun hq => h m List.mem_cons_self hq.1.symm]

/-- Messages of one file go behind those of that file. -/
theorem messages_pushAll_self {r : Report σ} {path : σ} (h : path ∈ r.files)
    {ms : List (Message σ)} (own : ∀ m ∈ ms, m.path = path) :
    (r.pushAll ms).messages path = r.messages path ++ ms := by
  rw [messages_pushAll h, List.filter_eq_self.2 fun m hm => by simp [own m hm]]

/-- Messages of one file change nothing but the messages of that file. -/
theorem pushAll_of_own {r : Report σ} {path : σ} (h : path ∈ r.files) {ms : List (Message σ)}
    (own : ∀ m ∈ ms, m.path = path) :
    (r.pushAll ms).files = r.files ∧ (r.pushAll ms).messages path = r.messages path ++ ms ∧
      ∀ q, q ≠ path → (r.pushAll ms).messages q = r.messages q := by
  refine ⟨files_pushAll r ms, messages_pushAll_self h own, fun q other => ?_⟩
  apply messages_pushAll_of_ne
  intro m mem same
  exact other (same.symm.trans (own m mem))

theorem addMessage_of_mem {r : Report σ} {m : Message σ} (h : m.path ∈ r.files) :
    r.addMessage m = .ok (r.push m) := by
  rw [addMessage, if_pos ((r.wasAnalyzed_iff m.path).2 h)]

/-! ## Growth -/

/-- The second report has all files and messages of the first, in front of its own. -/
structure Grows (r s : Report σ) : Prop where
  files : r.files <+: s.files
  messages : ∀ path, r.messages path <+: s.messages path

namespace Grows

theorem refl (r : Report σ) : Grows r r :=
  ⟨List.prefix_refl _, fun _ => List.prefix_refl _⟩

theorem trans {r s t : Report σ} (h : Grows r s) (k : Grows s t) : Grows r t :=
  ⟨h.files.trans k.files, fun path => (h.messages path).trans (k.messages path)⟩

theorem addFile (r : Report σ) (path : σ) : Grows r (r.addFile path) := by
  refine ⟨?_, fun q => by simp⟩
  rw [files_addFile]
  split
  · exact List.prefix_refl _
  · exact List.prefix_append _ _

theorem push (r : Report σ) (m : Message σ) : Grows r (r.push m) := by
  refine ⟨by simp, fun q => ?_⟩
  rw [messages_push]
  split
  · exact List.prefix_append _ _
  · exact List.prefix_refl _

theorem mem {r s : Report σ} (h : Grows r s) {path : σ} (hp : path ∈ r.files) :
    path ∈ s.files :=
  h.files.subset hp

/-- The messages of a file are the earlier ones and those gained since. -/
theorem messages_eq {r s : Report σ} (h : Grows r s) (path : σ) :
    s.messages path = r.messages path ++ gained r s path :=
  (List.prefix_iff_eq_append.1 (h.messages path)).symm

end Grows

end Report

/-! ## What a check does to the report -/

namespace Binding

theorem add_grows (b : Binding) (m : Message) : b.report.Grows (b.add m).1.report := by
  unfold add Report.addMessage
  split
  · rename_i r h
    split at h
    · cases h
      exact Report.Grows.push _ _
    · cases h
  · exact Report.Grows.refl _

theorem addAll_grows (b : Binding) (ms : List Message) :
    b.report.Grows (b.addAll ms).1.report := by
  induction ms generalizing b with
  | nil => exact Report.Grows.refl _
  | cons m ms ih =>
    have first := b.add_grows m
    unfold addAll
    split
    · rename_i c h
      rw [h] at first
      exact first.trans (ih c)
    · rename_i c e h
      rw [h] at first
      exact first

/-- One visit of the walk, and the walk from the next token on. -/
theorem walk_eq (visit : TokenFile → Token → Option Message) (b : Binding) :
    b.walk visit =
      match b.file.current with
      | none => (b, none)
      | some t =>
        match b.addAll (visit b.file t).toList with
        | (_, some e) => (b, some e)
        | (c, none) => walk visit { file := b.file.advance, report := c.report } := by
  rw [walk]
  split <;> rename_i h <;> simp only [h]
  split <;> rename_i hb <;> simp only [hb]

theorem walk_grows (visit : TokenFile → Token → Option Message) (b : Binding) :
    b.report.Grows (b.walk visit).1.report := by
  fun_induction walk visit b with
  | case1 b h => exact Report.Grows.refl _
  | case2 b t h c e hb => exact Report.Grows.refl _
  | case3 b t h c hb ih =>
    have first := b.addAll_grows (visit b.file t).toList
    rw [hb] at first
    exact first.trans ih

end Binding

theorem Builtin.run_grows (r : Builtin) (b : Binding) : b.report.Grows (r.run b).1.report := by
  cases r with
  | bareExcept | tabIndentation => exact Binding.walk_grows _ b
  | todoComment | lineLength | trailingWhitespace => exact Binding.addAll_grows b _

namespace Step

theorem report_grows (b : Binding) (anchor : Anchor) (make : Option Token → Message) :
    b.report.Grows (report b anchor make).1.report := by
  unfold report
  split
  · exact b.add_grows _
  · exact Report.Grows.refl _

theorem run_grows (b : Binding) (s : Step) : b.report.Grows (run b s).1.report := by
  cases s with
  | warn | error => exact report_grows b _ _
  | next | rewind | drain | raise => exact Report.Grows.refl _
  | seek index =>
    simp only [run]
    split <;> exact Report.Grows.refl _
  | state | count | message => exact b.add_grows _
  | addFile path => exact Report.Grows.addFile _ _

theorem runAll_grows (b : Binding) (steps : List Step) :
    b.report.Grows (runAll b steps).2.1.report := by
  induction steps generalizing b with
  | nil => exact Report.Grows.refl _
  | cons s rest ih =>
    have first := run_grows b s
    unfold runAll
    split
    · rename_i c e h
      rw [h] at first
      exact first
    · rename_i c h
      rw [h] at first
      exact first.trans (ih c)

end Step

namespace Session

theorem runBound_grows (s : Session) (f : TokenFile) (r : Report) :
    r.Grows (s.runBound f r).report := by
  cases hr : s.rule with
  | builtin b =>
    have := Builtin.run_grows b ⟨f, r⟩
    simpa [runBound, run, hr] using this
  | base => simpa [runBound, run, hr] using Report.Grows.refl r
  | script c =>
    have := Step.runAll_grows ⟨f, r⟩ c.steps
    simpa [runBound, run, hr] using this

theorem check_grows (s : Session) (f : TokenFile) (r : Report) : r.Grows (s.check f r).report := by
  unfold check
  split
  · split
    · exact Report.Grows.refl r
    · split
      · exact s.runBound_grows _ r
      · exact s.runBound_grows _ r
      · exact Report.Grows.refl r
  · exact s.runBound_grows _ r

end Session

/-- A check only adds to the report, whatever the rule does and however it ends. -/
theorem Rule.check_grows (rule : Rule) (f : TokenFile) (r : Report) :
    r.Grows (rule.check f r).report :=
  Session.check_grows _ f r

end SourceAudit
