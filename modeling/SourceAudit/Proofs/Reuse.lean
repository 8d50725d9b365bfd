import SourceAudit.Proofs.Effect

/-!
# Rules that are used again

One rule serves many files, and a check may stop half way. `Session.useAll` is a rule and a report
after any sequence of uses: checks of files that are in the report or not, with the cursor anywhere,
and attempts to use the rule outside a check. A built-in rule comes out of every use as new
(`Builtin.useAll_eq`). What a check adds is fixed by the file alone (`Builtin.Reports`): it is the
same after all uses and in all reports, and where the file is not in the report the first message
stops the check and nothing is added.
-/

namespace SourceAudit

/-! ## What a built-in rule reports -/

namespace Binding

theorem addAll_of_notMem {f : TokenFile} {r : Report} {path : String} (absent : path ∉ r.files)
    {ms : List Message} (own : ∀ m ∈ ms, m.path = path) :
    addAll ⟨f, r⟩ ms = (⟨f, r⟩, ms.head?.map fun _ => .unknownFile ⟨path⟩) := by
  cases ms with
  | nil => rfl
  | cons m ms =>
    have here : m.path = path := own m List.mem_cons_self
    have refused : r.addMessage m = .error ⟨path⟩ :=
      (r.addMessage_eq_error_iff m _).2 ⟨here ▸ absent, by rw [here]⟩
    simp only [addAll, add, refused, List.head?_cons, Option.map_some]

end Binding

namespace Builtin

/-- Bound to the file, `act` reports the messages: they go into a report that holds the file, and
the first of them fails in one that does not. -/
structure Reports (act : Binding → Binding × Option Failure) (f : TokenFile)
    (ms : List Message) : Prop where
  own : ∀ m ∈ ms, m.path = f.path
  known : ∀ r : Report, f.path ∈ r.files →
    (act ⟨f, r⟩).1.report = r.pushAll ms ∧ (act ⟨f, r⟩).2 = none
  unknown : ∀ r : Report, f.path ∉ r.files →
    (act ⟨f, r⟩).1.report = r ∧ (act ⟨f, r⟩).2 = ms.head?.map fun _ => .unknownFile ⟨f.path⟩

/-- Code that adds the messages found in a list reports them. -/
theorem Reports.ofList {act : Binding → Binding × Option Failure} {f : TokenFile} {α : Type}
    (xs : List α) {say : α → Option Message} (own : ∀ x m, say x = some m → m.path = f.path)
    (adds : ∀ r, act ⟨f, r⟩ = Binding.addAll ⟨f, r⟩ (xs.filterMap say)) :
    Reports act f (xs.filterMap say) := by
  have mine : ∀ m ∈ xs.filterMap say, m.path = f.path := by
    intro m mem
    obtain ⟨x, -, said⟩ := List.mem_filterMap.1 mem
    exact own x m said
  refine ⟨mine, fun r mem => ?_, fun r absent => ?_⟩
  · have all : ∀ m ∈ xs.filterMap say, m.path ∈ r.files := fun m hm => (mine m hm).symm ▸ mem
    rw [adds, Binding.addAll_of_mem all]
    exact ⟨rfl, rfl⟩
  · rw [adds, Binding.addAll_of_notMem absent mine]
    exact ⟨rfl, rfl⟩

/-- A walk reports what its visits give, from the cursor on. -/
theorem reports_walk {visit : TokenFile → Token → Option Message}
    (own : ∀ f t m, visit f t = some m → m.path = f.path) (f : TokenFile) :
    Reports (Binding.walk visit) f (f.scanFrom visit f.position) := by
  have mine : ∀ m ∈ f.scanFrom visit f.position, m.path = f.path :=
    fun m mem => TokenFile.path_of_mem_scanFrom (fun i t m => own { f with position := i } t m) mem
  refine ⟨mine, fun r known => ?_, fun r absent => ?_⟩
  · obtain ⟨reported, ended, -⟩ := Binding.walk_eq_addAll visit f r
    rw [Binding.addAll_of_mem fun m mem => (mine m mem).symm ▸ known] at reported ended
    exact ⟨reported, ended⟩
  · obtain ⟨reported, ended, -⟩ := Binding.walk_eq_addAll visit f r
    rw [Binding.addAll_of_notMem absent mine] at reported ended
    exact ⟨reported, ended⟩

theorem exists_reports (b : Builtin) (f : TokenFile) : ∃ ms, Reports b.run f ms := by
  cases b with
  | bareExcept => exact ⟨_, reports_walk (fun _ _ _ => path_of_bareExceptAt) f⟩
  | tabIndentation => exact ⟨_, reports_walk (fun _ _ _ => path_of_tabIndentAt) f⟩
  | todoComment => exact ⟨_, .ofList f.tokens.toList (fun _ _ => path_of_markerAt) fun _ => rfl⟩
  | lineLength limit =>
    exact ⟨_, .ofList (numberedLines f) (fun _ _ => path_of_longLine) fun _ => rfl⟩
  | trailingWhitespace =>
    exact ⟨_, .ofList (numberedLines f) (fun _ _ => path_of_blankLineEnd) fun _ => rfl⟩

/-- A new instance of a built-in rule. -/
def fresh (b : Builtin) : Session where
  rule := .builtin b

/-- The messages that a new instance adds to a new report that holds the file. -/
def findings (b : Builtin) (f : TokenFile) : List Message :=
  (b.fresh.check f (Report.only f.path)).report.messages f.path

theorem check_fresh (b : Builtin) (f : TokenFile) (r : Report) :
    b.fresh.check f r = ⟨b.fresh, (b.run ⟨f.rewind, r⟩).1.file, (b.run ⟨f.rewind, r⟩).1.report,
      (b.run ⟨f.rewind, r⟩).2⟩ := rfl

theorem reports_findings (b : Builtin) (f : TokenFile) :
    Reports b.run f.rewind (b.findings f) := by
  obtain ⟨ms, reports⟩ := b.exists_reports f.rewind
  have holds : f.path ∈ (Report.only f.path).files :=
    ((Report.only f.path).wasAnalyzed_iff f.path).1 (Report.empty.wasAnalyzed_addFile f.path)
  have empty : (Report.only f.path).messages f.path = [] := Report.messages_addFile _ _ _
  have same : b.findings f = ms := by
    rw [findings, check_fresh]
    simp only [(reports.known _ holds).1, Report.messages_pushAll_self holds reports.own, empty,
      List.nil_append]
  rwa [same]

end Builtin

/-! ## Uses -/

namespace Session

/-- Something that is done with a rule, or with the report it works on. -/
inductive Use where
  | addFile (path : String)
  | check (f : TokenFile)
  | run
  | addWarning (text : String) (token : Option Token)
  | addError (text : String) (token : Option Token)

/-- Whether a use is one outside a check. -/
def Use.isOutside : Use → Bool
  | .run | .addWarning .. | .addError .. => true
  | _ => false

/-- The rule and the report after a use outside a check, and its failure. A rule that is bound
works on the report it is bound to. -/
def outside (r : Report) (done : Session × Option Failure) : (Session × Report) × Option Failure :=
  ((done.1, (done.1.binding.map Binding.report).getD r), done.2)

/-- The rule and the report after a use, and the failure of the use. -/
def use (p : Session × Report) : Use → (Session × Report) × Option Failure
  | .addFile path => ((p.1, p.2.addFile path), none)
  | .check f =>
    let done := p.1.check f p.2
    ((done.session, done.report), done.failure)
  | .run => outside p.2 p.1.run
  | .addWarning text token => outside p.2 (p.1.addWarning text token)
  | .addError text token => outside p.2 (p.1.addError text token)

/-- The rule and the report after uses, of which any may have failed. -/
def useAll (p : Session × Report) (uses : List Use) : Session × Report :=
  uses.foldl (fun p u => (use p u).1) p

end Session

namespace Builtin

open Session

/-- Outside a check a rule fails, and nothing changes. -/
theorem use_outside (b : Builtin) (r : Report) {u : Use} (out : u.isOutside = true) :
    use (b.fresh, r) u =
      ((b.fresh, r), some (.unbound (.text (RuleName.qualify b.stem)))) := by
  cases u with
  | addFile path => cases out
  | check f => cases out
  | run | addWarning text token | addError text token => rfl

theorem fst_use (b : Builtin) (r : Report) (u : Use) : (use (b.fresh, r) u).1.1 = b.fresh := by
  cases u <;> rfl

/-- A rule comes out of all uses as new. -/
theorem useAll_eq (b : Builtin) (r : Report) (uses : List Use) :
    ∃ s, useAll (b.fresh, r) uses = (b.fresh, s) := by
  induction uses generalizing r with
  | nil => exact ⟨r, rfl⟩
  | cons u uses ih =>
    have first : (use (b.fresh, r) u).1 = (b.fresh, (use (b.fresh, r) u).1.2) :=
      Prod.ext (b.fst_use r u) rfl
    obtain ⟨s, rest⟩ := ih (use (b.fresh, r) u).1.2
    rw [← first] at rest
    exact ⟨s, rest⟩

/-- Whatever was done with a built-in rule and a report: the rule is bound to nothing. Outside a
check it fails and leaves the report as it is. A check of a file in the report adds to this file
what a new instance finds, wherever the cursors are, and changes nothing else. A check of a file
that is not in the report fails exactly when a new instance finds something, and changes nothing. -/
theorem uses_leave_no_trace (b : Builtin) (start : Report) (uses : List Use) :
    let p := useAll (b.fresh, start) uses
    p.1.binding = none ∧
    (∀ u, u.isOutside = true →
      use p u = (p, some (.unbound (.text (RuleName.qualify b.stem))))) ∧
    ∀ (f : TokenFile) (elsewhere : Nat),
      let done := use p (.check f)
      let found := b.findings { f with position := elsewhere }
      done.1.1.binding = none ∧
      (f.path ∈ p.2.files → done.2 = none ∧ done.1.2.files = p.2.files ∧
        done.1.2.messages f.path = p.2.messages f.path ++ found ∧
        ∀ path, path ≠ f.path → done.1.2.messages path = p.2.messages path) ∧
      (f.path ∉ p.2.files → (done.2 = none ↔ found = []) ∧
        (done.2 = some (.unknownFile ⟨f.path⟩) ↔ found ≠ []) ∧ done.1.2 = p.2) := by
  intro p
  obtain ⟨r, state⟩ := b.useAll_eq start uses
  have new : p = (b.fresh, r) := state
  rw [new]
  refine ⟨rfl, fun u out => b.use_outside r out, fun f elsewhere => ?_⟩
  have reports : Reports b.run f.rewind (b.findings { f with position := elsewhere }) :=
    b.reports_findings { f with position := elsewhere }
  intro done found
  refine ⟨rfl, fun known => ?_, fun unknown => ?_⟩
  · obtain ⟨report, calm⟩ := reports.known r known
    have after : done.1.2 = r.pushAll found := report
    rw [after]
    refine ⟨calm, Report.files_pushAll r found, Report.messages_pushAll_self known reports.own, ?_⟩
    intro path other
    apply Report.messages_pushAll_of_ne
    intro m mem same
    exact other (same.symm.trans (reports.own m mem))
  · obtain ⟨report, failure⟩ := reports.unknown r unknown
    have ended : done.2 = found.head?.map fun _ => .unknownFile ⟨f.path⟩ := failure
    rw [ended]
    refine ⟨?_, ?_, report⟩
    · cases found <;> simp
    · cases found <;> simp

end Builtin

end SourceAudit
