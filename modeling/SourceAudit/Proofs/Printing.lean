import SourceAudit.Proofs.FailFast

/-!
# What a printer writes

A printer counts the files of one engine and starts anew for another one, so that what it writes
during a run depends on its width and on the files that it has counted for this very engine
(`DotPrinter.seen`). Two runs of the same rules on the same files, by different engines and with
printers that have this in common, stay alike from file to file (`RunState.Alike`). A run leaves in
its printer a count for its own engine or an older one (`Observer.IsPrinter`), which no later engine
takes up.
-/

namespace SourceAudit

/-- The action, whichever engine tells the observer. -/
def Action.anonymous : Action → Action
  | .notified n report => .notified { n with engine := 0 } report
  | action => action

@[simp] theorem Action.log_anonymous (a : Action) : a.anonymous.log = a.log := by
  cases a <;> rfl

@[simp] theorem Action.started?_anonymous (a : Action) : a.anonymous.started? = a.started? := by
  cases a <;> rfl

namespace DotPrinter

/-- The files that the printer has counted for an engine. -/
def seen (p : DotPrinter) (engine : Nat) : Int :=
  if p.engine = some engine then p.count else 0

/-- The printer has counted for none but the first engines. -/
def IsPast (p : DotPrinter) (engines : Nat) : Prop :=
  ∀ k, p.engine = some k → k < engines

theorem IsPast.seen {p : DotPrinter} {engines : Nat} (past : p.IsPast engines) :
    p.seen engines = 0 := by
  rw [DotPrinter.seen, if_neg]
  intro same
  have := past engines same
  omega

theorem IsPast.mono {p : DotPrinter} {engines more : Nat} (past : p.IsPast engines)
    (le : engines ≤ more) : p.IsPast more := by
  intro k counted
  have := past k counted
  omega

/-- Printers of one width write the same from one count on, whatever the engines are. -/
theorem advance_alike {p q : DotPrinter} {n m : Nat} (width : p.width = q.width)
    (seen : p.seen n = q.seen m) (r : Report) (path : String) (total : Int) :
    let a := p.advance r ⟨path, n, total⟩
    let b := q.advance r ⟨path, m, total⟩
    a.2 = b.2 ∧ a.1.width = b.1.width ∧ a.1.seen n = b.1.seen m := by
  rw [DotPrinter.seen, DotPrinter.seen] at seen
  -- The engines are out of the way: from here on there is only the next count.
  simp only [advance, seen, width]
  generalize (if q.engine = some m then q.count else 0) + 1 = count
  by_cases last : count = total
  · simp [DotPrinter.seen, last]
  · by_cases zero : q.width = 0
    · simp [DotPrinter.seen, last, zero]
    · by_cases full : count.fmod q.width = 0 <;> simp [DotPrinter.seen, last, zero, full]

theorem engine_advance (p : DotPrinter) (r : Report) (n : Notice) :
    (p.advance r n).1.engine = some n.engine := by
  simp only [advance]
  repeat' split
  all_goals rfl

theorem width_advance (p : DotPrinter) (r : Report) (n : Notice) :
    (p.advance r n).1.width = p.width := by
  simp only [advance]
  repeat' split
  all_goals rfl

end DotPrinter

/-- Two observers that write the same, the one told by engine `n` and the other by engine `m`. -/
inductive Observer.Alike (n m : Nat) : Option Observer → Option Observer → Prop
  | none : Alike n m none none
  | dots {p q : DotPrinter} (width : p.width = q.width) (seen : p.seen n = q.seen m) :
    Alike n m (some (.dots p)) (some (.dots q))

/-- There is no observer, or it is a printer of the given width that has counted for none but the
first engines. -/
def Observer.IsPrinter (width? : Option Int) (engines : Nat) (o : Option Observer) : Prop :=
  ∃ p? : Option DotPrinter, o = p?.map .dots ∧ p?.map DotPrinter.width = width? ∧
    ∀ p ∈ p?, p.IsPast engines

theorem Observer.IsPrinter.mono {width? : Option Int} {engines more : Nat} {o : Option Observer}
    (start : IsPrinter width? engines o) (le : engines ≤ more) : IsPrinter width? more o := by
  obtain ⟨p?, rfl, width, past⟩ := start
  refine ⟨p?, rfl, width, ?_⟩
  intro p mem
  exact (past p mem).mono le

/-- The states of two runs that only the identity of their engines tells apart. -/
structure RunState.Alike (n m : Nat) (p q : RunState) : Prop where
  report : p.report = q.report
  rules : p.rules = q.rules
  output : p.output = q.output
  actions : p.actions.map Action.anonymous = q.actions.map Action.anonymous
  observer : Observer.Alike n m p.observer q.observer

namespace Engine

variable {tools : Tools} {n m : Nat} {p q : RunState}

theorem analyzeFile_alike (tools : Tools) (alike : RunState.Alike n m p q) (path : String) :
    RunState.Alike n m (analyzeFile tools p path).1 (analyzeFile tools q path).1 ∧
      (analyzeFile tools p path).2 = (analyzeFile tools q path).2 := by
  obtain ⟨report, rules, did, fault, -, frame⟩ := exists_outcome tools path p.report p.rules
  rw [frame p rfl rfl, frame q alike.report.symm alike.rules.symm]
  refine ⟨⟨rfl, rfl, alike.output, ?_, alike.observer⟩, rfl⟩
  simp [RunState.note, alike.actions]

theorem tell_alike (alike : RunState.Alike n m p q) (path : String) (total : Int) :
    RunState.Alike n m (tell p ⟨path, n, total⟩).1 (tell q ⟨path, m, total⟩).1 ∧
      (tell p ⟨path, n, total⟩).2 = (tell q ⟨path, m, total⟩).2 := by
  have observers := alike.observer
  generalize first : p.observer = o at observers
  generalize second : q.observer = o' at observers
  cases observers with
  | none =>
    simp only [tell, first, second]
    exact ⟨alike, trivial⟩
  | @dots d e width seen =>
    obtain ⟨written, width, seen⟩ := DotPrinter.advance_alike width seen q.report path total
    simp only [tell, first, second, Observer.notify, alike.report, written]
    refine ⟨⟨rfl, alike.rules, ?_, ?_, .dots width seen⟩, trivial⟩
    · simp only [RunState.note, alike.output]
    · simp [RunState.note, alike.actions, Action.anonymous]

theorem analyzeFiles_step (tools : Tools) (n : Nat) (total : Int) (p : RunState) (path : String)
    (paths : List String) :
    analyzeFiles tools n total p (path :: paths) =
      match (analyzeFile tools p path).2,
        (tell (analyzeFile tools p path).1 ⟨path, n, total⟩).2 with
      | some f, _ => ((analyzeFile tools p path).1, some f)
      | none, some f => ((tell (analyzeFile tools p path).1 ⟨path, n, total⟩).1, some f)
      | none, none => analyzeFiles tools n total
          (tell (analyzeFile tools p path).1 ⟨path, n, total⟩).1 paths := by
  rcases analyzeFiles_cons tools n total p path paths with
    ⟨f, failed, out⟩ | ⟨going, f, failed, out⟩ | ⟨going, quiet, out⟩
  · rw [out, failed]
  · rw [out, going, failed]
  · rw [out, going, quiet]

/-- Two runs stay alike from file to file, and end alike. -/
theorem analyzeFiles_alike (alike : RunState.Alike n m p q) (total : Int) (files : List String) :
    RunState.Alike n m (analyzeFiles tools n total p files).1
        (analyzeFiles tools m total q files).1 ∧
      (analyzeFiles tools n total p files).2 = (analyzeFiles tools m total q files).2 := by
  -- The files are taken in step: a fault in one run is the same fault in the other.
  induction files generalizing p q with
  | nil =>
    refine ⟨⟨alike.report, alike.rules, alike.output, ?_, alike.observer⟩, rfl⟩
    simp [analyzeFiles, RunState.note, alike.actions, alike.report]
  | cons path paths ih =>
    obtain ⟨done, faults⟩ := analyzeFile_alike tools alike path
    obtain ⟨told, faults'⟩ := tell_alike done path total
    rw [analyzeFiles_step, analyzeFiles_step, ← faults, ← faults']
    cases (analyzeFile tools p path).2 with
    | some f => exact ⟨done, rfl⟩
    | none =>
      cases (tell (analyzeFile tools p path).1 ⟨path, n, total⟩).2 with
      | some f => exact ⟨told, rfl⟩
      | none => exact ih told

/-- What is true of the observer when a run starts stays true as it is told about the files. -/
theorem observer_analyzeFiles {P : Option Observer → Prop}
    (step : ∀ (p : RunState) (path : String) (total : Int), P p.observer →
      P (tell p ⟨path, n, total⟩).1.observer)
    (start : P p.observer) (total : Int) (files : List String) :
    P (analyzeFiles tools n total p files).1.observer := by
  induction files generalizing p with
  | nil => exact start
  | cons path paths ih =>
    have done : P (analyzeFile tools p path).1.observer := by
      rw [observer_analyzeFile]
      exact start
    have told := step _ path total done
    rw [analyzeFiles_step]
    cases (analyzeFile tools p path).2 with
    | some f => exact done
    | none =>
      cases (tell (analyzeFile tools p path).1 ⟨path, n, total⟩).2 with
      | some f => exact told
      | none => exact ih told

theorem run_alike {e e' : Engine} {o o' : Option Observer}
    (observers : Observer.Alike e.identity e'.identity o o') (tools : Tools) (rules : List Rule)
    (files : List String) :
    RunState.Alike e.identity e'.identity (e.run tools rules files o).state
        (e'.run tools rules files o').state ∧
      (e.run tools rules files o).fault = (e'.run tools rules files o').fault := by
  have start : RunState.Alike e.identity e'.identity { rules, observer := o }
      { rules, observer := o' } := ⟨rfl, rfl, rfl, rfl, observers⟩
  by_cases noRules : rules = []
  · simp only [run, noRules, List.isEmpty_nil, if_true]
    exact ⟨noRules ▸ start, trivial⟩
  · by_cases noFiles : files = []
    · simp only [run, noFiles, List.isEmpty_eq_false_iff.2 noRules, List.isEmpty_nil, if_true,
        Bool.false_eq_true, if_false]
      exact ⟨start, trivial⟩
    · rw [run_of_ne_nil e noRules noFiles, run_of_ne_nil e' noRules noFiles]
      exact analyzeFiles_alike start files.length files

theorem isPrinter_tell {width? : Option Int} (start : Observer.IsPrinter width? (n + 1) p.observer)
    (path : String) (total : Int) :
    Observer.IsPrinter width? (n + 1) (tell p ⟨path, n, total⟩).1.observer := by
  obtain ⟨d?, watched, width, past⟩ := start
  cases d? with
  | none =>
    rw [Option.map_none] at watched
    simp only [tell, watched]
    exact ⟨none, rfl, width, past⟩
  | some d =>
    rw [Option.map_some] at watched
    simp only [tell, watched, Observer.notify]
    refine ⟨some (d.advance p.report ⟨path, n, total⟩).1, rfl, ?_, ?_⟩
    · rw [Option.map_some, DotPrinter.width_advance, ← width, Option.map_some]
    · intro e mem k counted
      obtain rfl := Option.mem_some.1 mem
      rw [DotPrinter.engine_advance] at counted
      cases counted
      exact Nat.lt_succ_self n

theorem isPrinter_run {width? : Option Int} {e : Engine} {rules : List Rule} {files : List String}
    {o : Option Observer} (start : Observer.IsPrinter width? (e.identity + 1) o) :
    Observer.IsPrinter width? (e.identity + 1) (e.run tools rules files o).state.observer := by
  by_cases noRules : rules = []
  · simpa only [run, noRules, List.isEmpty_nil, if_true] using start
  · by_cases noFiles : files = []
    · simpa only [run, noFiles, List.isEmpty_eq_false_iff.2 noRules, List.isEmpty_nil, if_true,
        Bool.false_eq_true, if_false] using start
    · rw [run_of_ne_nil e noRules noFiles]
      refine observer_analyzeFiles ?_ start files.length files
      intro p path total before
      exact isPrinter_tell before path total

end Engine

end SourceAudit
