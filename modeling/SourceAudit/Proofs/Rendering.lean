import SourceAudit.Proofs.Agenda
import SourceAudit.Proofs.Printing
import SourceAudit.Proofs.Product

/-!
# What a run prints

A printer sees nothing of a run but what it is told, so what a run prints is what the printer shows
of the notices (`Engine.dots_run`). From a count of zero it writes one marker for each file and a
counter behind the last file and behind every `width`-th (`DotPrinter.showAll_eq`), which is a page
of full lines and a last one (`DotPrinter.exists_rows`). When checks add messages to their own file
only, the marker of a file is that of the report at the end.

The count of a run is zero when it starts if, of the runs that show a file, each completes or the
next one is of another engine (`Job.runs_print_pages`), as it is when every run has an engine of its
own (`Job.isChain_restarts_of_nodup`). Runs that show nothing do not count here: a run of another
engine that ends before its first file leaves the printer with the count of the run before it
(`Job.silent_run_keeps_count`).
-/

namespace SourceAudit

open Report

namespace DotPrinter

/-! ## Pages -/

/-- What is written for file number `count`: its marker, and a counter when it is the last one or
ends a line. -/
def cell (width total count : Nat) (mark : String) : String :=
  mark ++ if count = total ∨ width ∣ count then counter count total else ""

/-- What is written for files with the given markers, the first of which is number `count`. -/
def page (width total count : Nat) (marks : List String) : String :=
  String.join ((marks.zipIdx count).map fun m => cell width total m.2 m.1)

variable {w total : Nat}

@[simp] theorem page_nil (w total count : Nat) : page w total count [] = "" := rfl

theorem page_append (w total count : Nat) (marks more : List String) :
    page w total count (marks ++ more) =
      page w total count marks ++ page w total (count + marks.length) more := by
  simp only [page, List.zipIdx_append, List.map_append, String.join_append]

theorem page_cons (w total count : Nat) (mark : String) (marks : List String) :
    page w total count (mark :: marks) =
      cell w total count mark ++ page w total (count + 1) marks := by
  simp only [page, List.zipIdx_cons, List.map_cons, String.join_cons]

theorem page_of_no_stop {count : Nat} {marks : List String}
    (going : ∀ i, count ≤ i → i < count + marks.length → ¬ (i = total ∨ w ∣ i)) :
    page w total count marks = String.join marks := by
  induction marks generalizing count with
  | nil => rfl
  | cons mark marks ih =>
    rw [List.length_cons] at going
    have first : cell w total count mark = mark := by
      rw [cell, if_neg (going count le_rfl (by omega)), String.append_empty]
    rw [page_cons, first, String.join_cons, ih]
    intro i above below
    exact going i (by omega) (by omega)

/-- A line that starts behind a multiple of the width and ends at the next one or with the last
file has its markers and one counter. -/
theorem page_row {k : Nat} {row : List String} (some_marks : 0 < row.length)
    (fits : row.length ≤ w) (within : k * w + row.length ≤ total)
    (ends : row.length = w ∨ k * w + row.length = total) :
    page w total (k * w + 1) row =
      String.join row ++ counter ((k * w + row.length : Nat) : Int) total := by
  obtain ⟨front, last, rfl⟩ :=
    (List.eq_nil_or_concat' row).resolve_left (List.length_pos_iff.1 some_marks)
  rw [List.length_append, List.length_singleton] at fits within ends ⊢
  -- Strictly between two multiples of the width nothing but a marker is written.
  have quiet : page w total (k * w + 1) front = String.join front := by
    refine page_of_no_stop fun i above below => ?_
    rintro (whole | ⟨j, rfl⟩)
    · omega
    · have more : k < j := by
        rw [Nat.mul_comm w j] at above
        exact Nat.lt_of_mul_lt_mul_right (by omega : k * w < j * w)
      have enough : (k + 1) * w ≤ w * j := by
        rw [Nat.mul_comm w j]
        exact Nat.mul_le_mul_right w more
      rw [Nat.add_mul, Nat.one_mul] at enough
      omega
  have stop : k * w + (front.length + 1) = total ∨ w ∣ k * w + (front.length + 1) := by
    rcases ends with full | whole
    · exact .inr ⟨k + 1, by rw [full, Nat.mul_comm w, Nat.add_mul, Nat.one_mul]⟩
    · exact .inl whole
  have place : k * w + 1 + front.length = k * w + (front.length + 1) := by omega
  rw [page_append, quiet, page_cons, page_nil, place, cell, if_pos stop, String.join_append,
    String.join_cons, String.join_nil, String.append_empty, String.append_empty,
    String.append_assoc]

/-- The markers in lines: every line but the last has `width` of them, and no line is empty. -/
structure IsWrapped (width : Nat) (marks : List String) (rows : List (List String)) : Prop where
  marks : rows.flatten = marks
  full : ∀ row ∈ rows.dropLast, row.length = width
  within : ∀ row ∈ rows, 0 < row.length ∧ row.length ≤ width

/-- Lines of markers, each with the number of the last file on it; the first is line `k`. -/
def lines (width total k : Nat) (rows : List (List String)) : String :=
  String.join ((rows.zipIdx k).map fun row =>
    String.join row.1 ++ counter ((min (row.2 * width) total : Nat) : Int) total)

theorem lines_cons (width total k : Nat) (row : List String) (rows : List (List String)) :
    lines width total k (row :: rows) =
      String.join row ++ counter ((min (k * width) total : Nat) : Int) total ++
        lines width total (k + 1) rows := by
  simp only [lines, List.zipIdx_cons, List.map_cons, String.join_cons]

/-- A page consists of full lines and a last one. -/
theorem exists_rows (positive : 0 < w) (k : Nat) (marks : List String) :
    ∃ rows, IsWrapped w marks rows ∧
      page w (k * w + marks.length) (k * w + 1) marks =
        lines w (k * w + marks.length) (k + 1) rows := by
  -- The first line is taken off as long as there is more than one.
  induction size : marks.length using Nat.strong_induction_on generalizing k marks with
  | _ n ih =>
    subst size
    have next : (k + 1) * w = k * w + w := by rw [Nat.add_mul, Nat.one_mul]
    by_cases none : marks = []
    · subst none
      exact ⟨[], ⟨rfl, by simp, by simp⟩, rfl⟩
    · have some_marks : 0 < marks.length := List.length_pos_iff.2 none
      by_cases fits : marks.length ≤ w
      · refine ⟨[marks], ⟨by simp, by simp, by simp [some_marks, fits]⟩, ?_⟩
        rw [page_row some_marks fits le_rfl (.inr rfl), lines_cons, next,
          Nat.min_eq_right (by omega)]
        exact (String.append_empty).symm
      · have head : (marks.take w).length = w := by rw [List.length_take]; omega
        have rest : (marks.drop w).length = marks.length - w := List.length_drop
        obtain ⟨rows, wrapped, same⟩ := ih (marks.drop w).length (by omega) (k + 1)
          (marks.drop w) rfl
        have total : (k + 1) * w + (marks.drop w).length = k * w + marks.length := by
          rw [next, rest]
          omega
        have more : rows ≠ [] := by
          rintro rfl
          have nothing := congrArg List.length wrapped.marks
          rw [List.flatten_nil, List.length_nil, rest] at nothing
          omega
        rw [total] at same
        refine ⟨marks.take w :: rows, ⟨?_, ?_, ?_⟩, ?_⟩
        · rw [List.flatten_cons, wrapped.marks, List.take_append_drop]
        · rw [List.dropLast_cons_of_ne_nil more]
          exact List.forall_mem_cons.2 ⟨head, wrapped.full⟩
        · exact List.forall_mem_cons.2 ⟨⟨by omega, by omega⟩, wrapped.within⟩
        · have first : page w (k * w + marks.length) (k * w + 1) (marks.take w) = _ :=
            page_row (by omega) (by omega) (by omega) (.inl head)
          nth_rewrite 2 [← List.take_append_drop w marks]
          rw [page_append, first, head, lines_cons, next, Nat.min_eq_left (by omega), ← same, next,
            Nat.add_right_comm]

/-! ## A printer and what it is told -/

/-- Shows files one after the other: the printer afterwards and what is written. -/
def showAll (p : DotPrinter) : List (Notice × Report) → DotPrinter × String
  | [] => (p, "")
  | (n, r) :: news =>
    let shown := p.advance r n
    let rest := shown.1.showAll news
    (rest.1, shown.2.1 ++ rest.2)

theorem showAll_append (p : DotPrinter) (news more : List (Notice × Report)) :
    p.showAll (news ++ more) =
      (((p.showAll news).1.showAll more).1,
        (p.showAll news).2 ++ ((p.showAll news).1.showAll more).2) := by
  induction news generalizing p with
  | nil => simp [showAll]
  | cons first news ih => simp only [List.cons_append, showAll, ih, String.append_assoc]

theorem width_showAll (p : DotPrinter) (news : List (Notice × Report)) :
    (p.showAll news).1.width = p.width := by
  induction news generalizing p with
  | nil => rfl
  | cons first news ih => rw [showAll, ih, width_advance]

/-- A printer that has shown files counts for the engine they are of. -/
theorem engine_showAll {engine : Nat} {news : List (Notice × Report)} (told : news ≠ [])
    (same : ∀ n ∈ news, n.1.engine = engine) (p : DotPrinter) :
    (p.showAll news).1.engine = some engine := by
  induction news generalizing p with
  | nil => exact absurd rfl told
  | cons first news ih =>
    obtain ⟨one, others⟩ := List.forall_mem_cons.1 same
    rw [showAll]
    by_cases last : news = []
    · rw [last, showAll, engine_advance, one]
    · exact ih last others _

/-- One file, with `i` files counted before it: the count goes up, and starts anew behind the last
file. -/
theorem advance_eq {p : DotPrinter} {engine i : Nat} (positive : 0 < w) (width : p.width = w)
    (seen : p.seen engine = i) (r : Report) (path : String) (total : Nat) :
    (p.advance r ⟨path, engine, total⟩).2 = (cell w total (i + 1) (marker r path), none) ∧
      (p.advance r ⟨path, engine, total⟩).1.seen engine =
        ((if i + 1 = total then 0 else i + 1 : Nat) : Int) := by
  have count : (i : Int) + 1 = ((i + 1 : Nat) : Int) := by omega
  have nonzero : (w : Int) ≠ 0 := by omega
  have divides : ((i + 1 : Nat) : Int).fmod w = 0 ↔ w ∣ i + 1 := by
    rw [← Int.dvd_iff_fmod_eq_zero, Int.natCast_dvd_natCast]
  rw [DotPrinter.seen] at seen
  simp only [advance, seen, width, count, nonzero, if_false, Int.natCast_inj, divides, cell]
  by_cases last : i + 1 = total
  · simp [DotPrinter.seen, last]
  · by_cases full : w ∣ i + 1
    · simp [DotPrinter.seen, last, full]
    · simp [DotPrinter.seen, last, full]

/-- Files of one run: their markers make a page, and the count starts anew behind the last one. -/
theorem showAll_eq {p : DotPrinter} {engine i : Nat} {news : List (Notice × Report)}
    (positive : 0 < w) (width : p.width = w) (seen : p.seen engine = i)
    (same : ∀ n ∈ news, n.1.engine = engine ∧ n.1.total = total)
    (within : i + news.length ≤ total) :
    (p.showAll news).2 = page w total (i + 1) (news.map fun n => marker n.2 n.1.path) ∧
      (i + news.length = total → news ≠ [] → (p.showAll news).1.seen engine = 0) := by
  induction news generalizing p i with
  | nil => exact ⟨rfl, fun _ none => absurd rfl none⟩
  | cons first news ih =>
    obtain ⟨⟨path, _, _⟩, r⟩ := first
    obtain ⟨⟨rfl, rfl⟩, others⟩ := List.forall_mem_cons.1 same
    rw [List.length_cons] at within
    obtain ⟨written, counted⟩ := advance_eq positive width seen r path total
    rw [showAll, List.map_cons, page_cons, written]
    by_cases last : i + 1 = total
    · obtain rfl : news = [] := List.eq_nil_of_length_eq_zero (by omega)
      rw [if_pos last] at counted
      exact ⟨rfl, fun _ _ => counted⟩
    · rw [if_neg last] at counted
      obtain ⟨rest, ended⟩ := ih ((width_advance ..).trans width) counted others (by omega)
      refine ⟨by rw [rest], fun whole _ => ended ?_ ?_⟩
      · rw [List.length_cons] at whole
        omega
      · rintro rfl
        rw [List.length_singleton] at whole
        omega

/-- Only the messages of a file matter for its marker. -/
theorem marker_congr {r s : Report} {path : String} (same : r.messages path = s.messages path) :
    marker r path = marker s path := by
  rw [marker, marker, errors, errors, warnings, warnings, same]

end DotPrinter

/-! ## The report at the end -/

/-- The check adds messages to no file but the one that it checks. -/
def Trial.IsOwn (t : Trial) : Prop :=
  ∀ q, q ≠ t.file.path → t.done.report.messages q = t.before.messages q

theorem Trial.messages_of_isOwn {t : Trial} (own : t.IsOwn) {q : String}
    (other : q ≠ t.file.path) : t.messages q = [] := by
  rw [messages, gained, own q other, List.drop_length, if_neg other, List.append_nil]

theorem Trial.isOwn_of_confined {t : Trial} (confined : t.rule.isConfined = true)
    (mem : t.file.path ∈ t.before.files) : t.IsOwn := by
  intro q other
  have added := messages_of_confined confined mem q
  rw [if_neg other, messages, if_neg other, List.append_nil] at added
  rw [t.grows_done.messages_eq q, added, List.append_nil]

namespace Visit

variable {tools : Tools}

theorem messages_of_isOwn {v : Visit} (opened : tools.open? v.path = some v.opening)
    (own : ∀ t ∈ v.trials, t.IsOwn) {q : String} (other : q ≠ v.path) : v.messages q = [] := by
  obtain ⟨r, rules, path, o⟩ := v
  cases o with
  | rejected verdict => exact if_neg other
  | accepted verdict file =>
    rw [messages, List.flatMap_eq_nil_iff]
    intro t mem
    refine Trial.messages_of_isOwn (own t mem) ?_
    rwa [Trial.file_of_mem_each mem, Tools.path_of_accepted opened]

/-- What a visit leaves of its file is in the report at the end, and nothing else is. -/
theorem messages_conclude_of_isOwn {files : List String} (distinct : files.Nodup) {r : Report}
    {rules : List Rule} (own : ∀ v ∈ history tools r rules files, ∀ t ∈ v.trials, t.IsOwn) :
    ∀ v ∈ history tools r rules files,
      (conclude r (history tools r rules files)).messages v.path = v.after.messages v.path := by
  induction files generalizing r rules with
  | nil => simp [history]
  | cons path paths ih =>
    obtain ⟨fresh, others⟩ := List.nodup_cons.1 distinct
    cases opened : tools.open? path with
    | none => simp [history, opened]
    | some o =>
      let first : Visit := ⟨r, rules, path, o⟩
      let later := history tools first.after first.rulesAfter paths
      have whole : history tools r rules (path :: paths) = first :: later := by
        simp only [history, opened, first, later]
      rw [whole] at own ⊢
      obtain ⟨-, own⟩ := List.forall_mem_cons.1 own
      have quiet : later.flatMap (·.messages path) = [] := by
        rw [List.flatMap_eq_nil_iff]
        intro v mem
        refine messages_of_isOwn (open?_of_mem_history mem) (own v mem) ?_
        rintro rfl
        exact fresh (path_mem_of_mem_history mem)
      refine List.forall_mem_cons.2 ⟨?_, ih others own⟩
      rw [conclude_cons, messages_conclude]
      change first.after.messages path ++ later.flatMap (·.messages path) = _
      rw [quiet, List.append_nil]

end Visit

theorem Engine.isOwn_of_confined {tools : Tools} {rules : List Rule} {files : List String}
    (confined : ∀ rule ∈ rules, rule.isConfined = true) :
    ∀ t ∈ trials tools rules files, t.IsOwn := by
  intro t mem
  obtain ⟨known, -⟩ := mem_trials_of_confined confined mem
  exact Trial.isOwn_of_confined (confined _ known) (mem_before_of_mem_trials mem)

/-! ## What a run prints -/

namespace RunState

/-- From the one state to the other, the printer writes what it shows of the notices. -/
def Prints (p : RunState) (d : DotPrinter) (q : RunState) : Prop :=
  ∃ told, q.notices = p.notices ++ told ∧ q.observer = some (.dots (d.showAll told).1) ∧
    q.output = p.output ++ (d.showAll told).2

theorem Prints.trans {p q r : RunState} {d : DotPrinter} (first : p.Prints d q)
    (second : ∀ e, q.observer = some (.dots e) → q.Prints e r) : p.Prints d r := by
  obtain ⟨told, notices, observer, output⟩ := first
  obtain ⟨more, notices', observer', output'⟩ := second _ observer
  refine ⟨told ++ more, ?_, ?_, ?_⟩
  · rw [notices', notices, List.append_assoc]
  · rw [observer', DotPrinter.showAll_append]
  · rw [output', output, DotPrinter.showAll_append, String.append_assoc]

end RunState

namespace Engine

variable {tools : Tools} {rules : List Rule} {files : List String}

theorem prints_analyzeFile (tools : Tools) {p : RunState} {d : DotPrinter}
    (watched : p.observer = some (.dots d)) (path : String) :
    p.Prints d (analyzeFile tools p path).1 := by
  have heard := notices_analyzeFile tools p path
  obtain ⟨report, rules, did, fault, -, frame⟩ := exists_outcome tools path p.report p.rules
  rw [frame p rfl rfl] at heard ⊢
  exact ⟨[], heard.trans (List.append_nil _).symm, watched, String.append_empty.symm⟩

theorem prints_tell {p : RunState} {d : DotPrinter} (watched : p.observer = some (.dots d))
    (n : Notice) : p.Prints d (tell p n).1 := by
  refine ⟨[(n, p.report)], ?_, ?_, ?_⟩
  · rw [notices_tell, watched]
    rfl
  · simp only [tell, watched, Observer.notify, RunState.note, DotPrinter.showAll]
  · simp only [tell, watched, Observer.notify, RunState.note, DotPrinter.showAll,
      String.append_empty]

theorem prints_analyzeFiles (tools : Tools) (engine : Nat) (total : Int) {p : RunState}
    {d : DotPrinter} (watched : p.observer = some (.dots d)) (files : List String) :
    p.Prints d (analyzeFiles tools engine total p files).1 := by
  induction files generalizing p d with
  | nil =>
    refine ⟨[], ?_, watched, String.append_empty.symm⟩
    rw [analyzeFiles, RunState.notices_note]
    rfl
  | cons path paths ih =>
    have analyzed := prints_analyzeFile tools watched path
    have told := analyzed.trans fun e watching => prints_tell watching ⟨path, engine, total⟩
    rw [analyzeFiles_step]
    cases (analyzeFile tools p path).2 with
    | some f => exact analyzed
    | none =>
      cases (tell (analyzeFile tools p path).1 ⟨path, engine, total⟩).2 with
      | some f => exact told
      | none => exact told.trans fun e watching => ih watching

/-- What a run prints is what the printer shows of the notices. -/
theorem dots_run (e : Engine) (tools : Tools) (rules : List Rule) (files : List String)
    (d : DotPrinter) :
    let run := e.run tools rules files (some (.dots d))
    run.state.observer = some (.dots (d.showAll run.state.notices).1) ∧
      run.state.output = (d.showAll run.state.notices).2 := by
  by_cases noRules : rules = []
  · simp [run, noRules, RunState.notices, DotPrinter.showAll]
  · by_cases noFiles : files = []
    · simp [run, noRules, noFiles, RunState.notices, DotPrinter.showAll]
    · rw [run_of_ne_nil e noRules noFiles]
      obtain ⟨told, notices, observer, output⟩ := prints_analyzeFiles tools e.identity files.length
        (p := { rules, observer := some (.dots d) }) rfl files
      have heard : (analyzeFiles tools e.identity files.length
          { rules, observer := some (.dots d) } files).1.notices = told := notices
      exact ⟨by rw [heard]; exact observer, by rw [heard, output]; exact String.empty_append⟩

/-- The notices of a run are about the visits, from the first on; a run that completes has told
about all of them, one for each file, and its report is theirs. -/
theorem notices_run (e : Engine) (tools : Tools) (rules : List Rule) (files : List String)
    (o : Observer) :
    let run := e.run tools rules files (some o)
    let news := (visits tools rules files).map fun v =>
      ((⟨v.path, e.identity, files.length⟩ : Notice), v.after)
    run.state.notices <+: news ∧
      (run.fault = none → files ≠ [] ∧ run.state.notices = news ∧
        (visits tools rules files).map Visit.path = files ∧
        run.state.report = Visit.conclude Report.empty (visits tools rules files)) := by
  intro run news
  by_cases noRules : rules = []
  · simp [run, Engine.run, noRules, RunState.notices]
  · by_cases noFiles : files = []
    · simp [run, Engine.run, noRules, noFiles, RunState.notices]
    · have whole : run = _ := run_of_ne_nil e noRules noFiles (some o)
      obtain ⟨told, notices, part, every⟩ := notices_analyzeFiles tools e.identity files.length
        { rules, observer := some o } files
      have heard : run.state.notices = told := by
        rw [whole]
        exact notices
      refine ⟨heard ▸ part, fun quiet => ?_⟩
      have ended : (analyzeFiles tools e.identity files.length
          { rules, observer := some o } files).2 = none := by
        rw [whole] at quiet
        exact quiet
      have opened := open?_of_analyzeFiles ended
      refine ⟨noFiles, heard.trans (every ended), Visit.map_path_history opened _ _, ?_⟩
      rcases run_cases e noRules noFiles opened (some o) with
        ⟨-, -, report⟩ | ⟨-, o, failed⟩ | ⟨f, -, failed⟩
      · exact report
      · cases quiet.symm.trans failed
      · cases quiet.symm.trans failed

/-- The marker of a file after its visit is that of the report at the end. -/
theorem map_marker_visits (paths : (visits tools rules files).map Visit.path = files)
    (distinct : files.Nodup) (own : ∀ t ∈ trials tools rules files, t.IsOwn) :
    (visits tools rules files).map (fun v => DotPrinter.marker v.after v.path) =
      files.map (DotPrinter.marker (Visit.conclude Report.empty (visits tools rules files))) := by
  have last := Visit.messages_conclude_of_isOwn distinct fun v mem t tried =>
    own t (List.mem_flatMap.2 ⟨v, mem, tried⟩)
  conv_rhs => rw [← paths, List.map_map, paths]
  refine List.map_congr_left fun v mem => ?_
  exact DotPrinter.marker_congr (last v mem).symm

/-- A run that completes with a printer whose count is zero prints a page with the markers of its
report, and leaves the count at zero. -/
theorem run_prints_page (e : Engine) {w : Nat} (positive : 0 < w) {d : DotPrinter}
    (width : d.width = w) (start : d.seen e.identity = 0)
    (completed : (e.run tools rules files (some (.dots d))).fault = none) :
    let run := e.run tools rules files (some (.dots d))
    (d.showAll run.state.notices).1.seen e.identity = 0 ∧
      (files.Nodup → (∀ t ∈ trials tools rules files, t.IsOwn) →
        run.state.output =
          DotPrinter.page w files.length 1 (files.map (DotPrinter.marker run.state.report))) := by
  intro run
  obtain ⟨some_files, notices, paths, report⟩ :=
    (notices_run e tools rules files (.dots d)).2 completed
  have size : run.state.notices.length = files.length := by
    rw [notices, List.length_map, ← List.length_map (f := Visit.path), paths]
  have told : run.state.notices ≠ [] := by
    rw [← List.length_pos_iff, size]
    exact List.length_pos_iff.2 some_files
  have same : ∀ n ∈ run.state.notices,
      n.1.engine = e.identity ∧ n.1.total = (files.length : Nat) := by
    rw [notices]
    simp
  obtain ⟨written, counted⟩ := DotPrinter.showAll_eq (i := 0) positive width start same (by omega)
  refine ⟨counted (by omega) told, fun distinct own => ?_⟩
  have marks : run.state.notices.map (fun n => DotPrinter.marker n.2 n.1.path) =
      files.map (DotPrinter.marker run.state.report) := by
    rw [notices, List.map_map, report]
    exact map_marker_visits paths distinct own
  rw [(dots_run e tools rules files d).2, written, marks]

end Engine

/-! ## Runs that share a printer -/

/-- Rules that an engine is to run on files. -/
structure Job where
  engine : Engine
  tools : Tools
  rules : List Rule
  files : List String

namespace Job

/-- The run of a job. -/
def run (j : Job) (o : Option Observer) : Run :=
  j.engine.run j.tools j.rules j.files o

/-- Jobs, one after the other, each with its run; they share the observer. -/
def runAll (o : Option Observer) : List Job → List (Job × Run)
  | [] => []
  | j :: js => (j, j.run o) :: runAll (j.run o).state.observer js

/-- Whether the observer was told about a file at all. -/
def shows (done : Job × Run) : Bool :=
  !done.2.state.notices.isEmpty

/-- The first run completes, or the second is of another engine. -/
def Restarts (done next : Job × Run) : Prop :=
  done.2.fault.isNone = true ∨ done.1.engine.identity ≠ next.1.engine.identity

instance (done next : Job × Run) : Decidable (Restarts done next) :=
  inferInstanceAs (Decidable (_ ∨ _))

/-- The files of a job are distinct, and its checks report on their own file only. -/
def IsOrderly (j : Job) : Prop :=
  j.files.Nodup ∧ ∀ t ∈ Engine.trials j.tools j.rules j.files, t.IsOwn

theorem shows_of_fault_eq_none {j : Job} {o : Observer} (quiet : (j.run (some o)).fault = none) :
    shows (j, j.run (some o)) = true := by
  obtain ⟨some_files, notices, paths, -⟩ :=
    (Engine.notices_run j.engine j.tools j.rules j.files o).2 quiet
  have told : (j.run (some o)).state.notices ≠ [] := by
    rintro none
    rw [run, notices, List.map_eq_nil_iff] at none
    rw [none] at paths
    exact some_files paths.symm
  rw [shows, List.isEmpty_eq_false_iff.2 told]
  rfl

/-- What a run that shows a file leaves in the printer: the count is zero for every engine for which
it has to be. -/
theorem seen_of_restarts {j : Job} {w : Nat} (positive : 0 < w) {d : DotPrinter}
    (width : d.width = w) (start : d.seen j.engine.identity = 0)
    (shown : shows (j, j.run (some (.dots d))) = true) {next : Job × Run}
    (restarts : Restarts (j, j.run (some (.dots d))) next) :
    (d.showAll (j.run (some (.dots d))).state.notices).1.seen next.1.engine.identity = 0 := by
  have told : (j.run (some (.dots d))).state.notices ≠ [] := by
    rintro none
    rw [shows, none] at shown
    cases shown
  obtain ⟨part, -⟩ := Engine.notices_run j.engine j.tools j.rules j.files (.dots d)
  have own : ∀ n ∈ (j.run (some (.dots d))).state.notices, n.1.engine = j.engine.identity := by
    intro n mem
    obtain ⟨v, -, rfl⟩ := List.mem_map.1 (part.subset mem)
    rfl
  have engine := DotPrinter.engine_showAll told own d
  by_cases same : j.engine.identity = next.1.engine.identity
  · have completed : (j.run (some (.dots d))).fault = none :=
      Option.isNone_iff_eq_none.1 (restarts.resolve_right fun other => other same)
    rw [← same]
    exact (Engine.run_prints_page j.engine positive width start completed).1
  · rw [DotPrinter.seen, engine, if_neg fun equal => same (Option.some.inj equal)]

/-- Every run that shows a file starts with a printer whose count for its engine is zero. -/
theorem exists_printer {w : Nat} (positive : 0 < w) {d : DotPrinter} (width : d.width = w)
    {jobs : List Job} (restarts : ((runAll (some (.dots d)) jobs).filter shows).IsChain Restarts)
    (start : ∀ next ∈ ((runAll (some (.dots d)) jobs).filter shows).head?,
      d.seen next.1.engine.identity = 0) :
    ∀ done ∈ runAll (some (.dots d)) jobs, ∃ p : DotPrinter, p.width = w ∧
      done.2 = done.1.run (some (.dots p)) ∧
      (shows done = true → p.seen done.1.engine.identity = 0) := by
  -- A run that shows nothing leaves the printer, and the next run that does, as they were.
  induction jobs generalizing d with
  | nil => simp [runAll]
  | cons j js ih =>
    have left : (j.run (some (.dots d))).state.observer =
        some (.dots (d.showAll (j.run (some (.dots d))).state.notices).1) :=
      (Engine.dots_run j.engine j.tools j.rules j.files d).1
    rw [runAll, left] at restarts start ⊢
    have width' := (d.width_showAll (j.run (some (.dots d))).state.notices).trans width
    cases shown : shows (j, j.run (some (.dots d))) with
    | false =>
      rw [List.filter_cons_of_neg (by simp [shown])] at restarts start
      have silent : (j.run (some (.dots d))).state.notices = [] := by
        simpa [shows] using shown
      refine List.forall_mem_cons.2 ⟨⟨d, width, rfl, ?_⟩, ih width' restarts ?_⟩
      · rw [shown]
        exact fun never => by cases never
      · intro next first
        have zero := start next first
        rwa [silent]
    | true =>
      rw [List.filter_cons_of_pos shown] at restarts start
      obtain ⟨follows, restarts⟩ := List.isChain_cons.1 restarts
      have zero := start _ rfl
      refine List.forall_mem_cons.2 ⟨⟨d, width, rfl, fun _ => zero⟩, ih width' restarts ?_⟩
      intro next first
      exact seen_of_restarts positive width zero shown (follows next first)

theorem map_fst_runAll (o : Option Observer) (jobs : List Job) :
    (runAll o jobs).map Prod.fst = jobs := by
  induction jobs generalizing o with
  | nil => rfl
  | cons j js ih => rw [runAll, List.map_cons, ih]

/-- Runs of engines that are all different restart the count, however they end. -/
theorem isChain_restarts_of_nodup {jobs : List Job}
    (different : (jobs.map (·.engine.identity)).Nodup) (o : Option Observer) :
    ((runAll o jobs).filter shows).IsChain Restarts := by
  rw [← map_fst_runAll o jobs, List.map_map, List.Nodup, List.pairwise_map] at different
  refine List.Pairwise.isChain ((different.sublist List.filter_sublist).imp ?_)
  intro done next other
  exact .inr other

/-- Jobs share a printer of a width, and of the runs that show a file each completes or the next one
is of another engine. Then every run that completes, on distinct files and with checks that report
on their own file only, writes for each file the marker that its report gives it, with a counter
behind the last file and behind every `w`-th, and nothing else. In lines: all but the last have `w`
markers, none is empty, and line `k` counts `k * w` files or all of them. Any engine writes the same
with a new printer, whatever ran before. -/
theorem runs_print_pages (w : Nat) (positive : 0 < w) (jobs : List Job)
    (restarts : ((runAll (some (.dots { width := w })) jobs).filter shows).IsChain Restarts) :
    ∀ done ∈ runAll (some (.dots { width := w })) jobs, done.1.IsOrderly →
      ∀ report, done.2.result = .ok report →
        let n := done.1.files.length
        let marks := done.1.files.map (DotPrinter.marker report)
        done.2.state.output = DotPrinter.page w n 1 marks ∧
          (∃ rows, DotPrinter.IsWrapped w marks rows ∧
            done.2.state.output = DotPrinter.lines w n 1 rows) ∧
          ∀ e : Engine, done.2.state.output =
            (e.run done.1.tools done.1.rules done.1.files
              (some (.dots { width := w }))).state.output := by
  rintro ⟨j, r⟩ mem ⟨distinct, own⟩ report ok n marks
  obtain ⟨p, width, whole, zero⟩ := exists_printer positive rfl restarts (fun _ _ => rfl) _ mem
  obtain rfl : r = j.run (some (.dots p)) := whole
  obtain ⟨quiet, rfl⟩ := Run.result_eq_ok_iff.1 ok
  have start := zero (shows_of_fault_eq_none quiet)
  have printed := (Engine.run_prints_page j.engine positive width start quiet).2 distinct own
  obtain ⟨rows, wrapped, text⟩ := DotPrinter.exists_rows positive 0 marks
  have size : 0 * w + marks.length = n := by
    rw [Nat.zero_mul, Nat.zero_add, List.length_map]
  rw [size, Nat.zero_mul, Nat.zero_add] at text
  refine ⟨printed, ⟨rows, wrapped, printed.trans text⟩, fun e => ?_⟩
  have alike : Observer.Alike j.engine.identity e.identity (some (.dots p))
      (some (.dots { width := w })) := .dots width start
  exact (Engine.run_alike alike j.tools j.rules j.files).1.output

/-- Tools that reject `b.py`, cannot read `gone.py` and read one line from every other file. -/
def brittleTools : Tools where
  lint path := .ok { passed := path != "b.py" }
  read path := if path = "gone.py" then .error .undecodable else .ok "x = 1\n"

/-- A job with one built-in rule. -/
def brittle (engine : Nat) (files : List String) : Job :=
  ⟨{ identity := engine }, brittleTools, [.builtin .bareExcept], files⟩

theorem isOrderly_brittle {engine : Nat} {files : List String} (distinct : files.Nodup) :
    (brittle engine files).IsOrderly := by
  refine ⟨distinct, Engine.isOwn_of_confined ?_⟩
  change ∀ rule ∈ [Rule.builtin .bareExcept], rule.isConfined = true
  decide

/-- A run that ends at its second file, one of another engine, and two more of that engine. -/
def brittleJobs : List Job :=
  [brittle 1 ["a.py", "gone.py"], brittle 2 ["a.py", "b.py", "c.py"], brittle 2 ["gone.py"],
    brittle 2 ["c.py"]]

theorem runs_print_pages_of_brittle :
    ∃ done ∈ runAll (some (.dots { width := 2 })) brittleJobs,
      done.2.fault.isNone = true ∧ done.2.state.output = ".E 2 / 3\n. 3 / 3\n" ∧
        ∃ rows, DotPrinter.IsWrapped 2 [".", "E", "."] rows ∧
          done.2.state.output = DotPrinter.lines 2 3 1 rows := by
  have restarts : ((runAll (some (.dots { width := 2 })) brittleJobs).filter shows).IsChain
      Restarts := by decide +kernel
  let second := (brittle 2 ["a.py", "b.py", "c.py"]).run
    ((brittle 1 ["a.py", "gone.py"]).run (some (.dots { width := 2 }))).state.observer
  have mem : (brittle 2 ["a.py", "b.py", "c.py"], second) ∈
      runAll (some (.dots { width := 2 })) brittleJobs := .tail _ (.head _)
  have quiet : second.fault.isNone = true := by decide +kernel
  have marks : ["a.py", "b.py", "c.py"].map (DotPrinter.marker second.state.report) =
      [".", "E", "."] := by decide +kernel
  obtain ⟨-, rows, -⟩ := runs_print_pages 2 (by decide) brittleJobs restarts _ mem
    (isOrderly_brittle (by decide)) _
    (Run.result_eq_ok_iff.2 ⟨Option.isNone_iff_eq_none.1 quiet, rfl⟩)
  exact ⟨_, mem, quiet, by decide +kernel, marks ▸ rows⟩

/-- A run that ends at its second file, one of another engine that ends at its first, and one of the
first engine. -/
def strandedJobs : List Job :=
  [brittle 1 ["a.py", "gone.py"], brittle 2 ["gone.py"], brittle 1 ["a.py", "c.py"]]

/-- Each run completes or is followed by one of another engine, and yet the last one, which
completes, goes on with the count of the first. -/
theorem silent_run_keeps_count :
    (∀ j ∈ strandedJobs, j.IsOrderly) ∧
      (runAll (some (.dots {})) strandedJobs).IsChain Restarts ∧
      ∃ done ∈ runAll (some (.dots {})) strandedJobs, ∃ report, done.2.result = .ok report ∧
        done.2.state.output ≠
          DotPrinter.page 60 done.1.files.length 1
            (done.1.files.map (DotPrinter.marker report)) := by
  refine ⟨?_, by decide +kernel, ?_⟩
  · simp only [strandedJobs, List.forall_mem_cons]
    exact ⟨isOrderly_brittle (by decide), isOrderly_brittle (by decide),
      isOrderly_brittle (by decide), by simp⟩
  · let last := (brittle 1 ["a.py", "c.py"]).run ((brittle 2 ["gone.py"]).run
      ((brittle 1 ["a.py", "gone.py"]).run (some (.dots {}))).state.observer).state.observer
    have quiet : last.fault.isNone = true := by decide +kernel
    refine ⟨(_, last), .tail _ (.tail _ (.head _)), _,
      Run.result_eq_ok_iff.2 ⟨Option.isNone_iff_eq_none.1 quiet, rfl⟩, ?_⟩
    have printed : last.state.output = ". 2 / 2\n." := by decide +kernel
    change last.state.output ≠ _
    rw [printed]
    decide +kernel

end Job

end SourceAudit
