import Mathlib.Data.List.TakeWhile
import SourceAudit.Proofs.Rendering
import SourceAudit.Proofs.Views

/-!
# Where a run starts to count

A printer does not hear of a run that begins or ends, so a run goes on with the count that the runs
before it have left. From a count below the number of files it counts to that number and then from
one on; from any other it just counts on (`DotPrinter.reel`, `DotPrinter.carry`). Whatever has run
before with the same printer, a run that completes prints such a reel for the count that
`Job.carried` adds up, and it prints a page, as a run with a new printer does, exactly when that
count is zero (`Job.completed_run_continues_count`). A run that a fault ends leaves as many files
as it has shown, so the next run of its engine starts with one only if it has shown none
(`Job.aborted_run_keeps_count`).
-/

namespace SourceAudit

theorem intText_natCast (n : Nat) : intText n = natText n := by
  rw [intText, if_neg (by omega), Int.natAbs_natCast]

namespace DotPrinter

/-! ## Reels -/

/-- What is written for files with the given markers when `count` files have been counted before. -/
def reel (width total count : Nat) (marks : List String) : String :=
  if count < total then
    page width total (count + 1) (marks.take (total - count)) ++
      page width total 1 (marks.drop (total - count))
  else page width total (count + 1) marks

/-- The count after `shown` more files. -/
def carry (total count shown : Nat) : Nat :=
  if count < total ∧ total ≤ count + shown then count + shown - total else count + shown

variable {w total : Nat} {p : DotPrinter} {engine i : Nat} {news : List (Notice × Report)}

/-- Files none of which is the last one are counted on. -/
theorem showAll_of_passing (positive : 0 < w) (width : p.width = w) (seen : p.seen engine = i)
    (same : ∀ n ∈ news, n.1.engine = engine ∧ n.1.total = total)
    (passing : total ≤ i ∨ i + news.length < total) :
    (p.showAll news).2 = page w total (i + 1) (news.map fun n => marker n.2 n.1.path) ∧
      (p.showAll news).1.seen engine = ((i + news.length : Nat) : Int) := by
  induction news generalizing p i with
  | nil => exact ⟨rfl, seen⟩
  | cons first news ih =>
    obtain ⟨⟨path, _, _⟩, r⟩ := first
    obtain ⟨⟨rfl, rfl⟩, others⟩ := List.forall_mem_cons.1 same
    rw [List.length_cons] at passing
    obtain ⟨written, counted⟩ := advance_eq positive width seen r path total
    rw [if_neg (by omega)] at counted
    obtain ⟨rest, ended⟩ := ih ((width_advance ..).trans width) counted others (by omega)
    rw [showAll, List.map_cons, page_cons, written, rest, ended, List.length_cons]
    exact ⟨rfl, by omega⟩

/-- The files of one run make a reel. -/
theorem showAll_eq_reel (positive : 0 < w) (width : p.width = w) (seen : p.seen engine = i)
    (same : ∀ n ∈ news, n.1.engine = engine ∧ n.1.total = total)
    (within : news.length ≤ total) :
    (p.showAll news).2 = reel w total i (news.map fun n => marker n.2 n.1.path) ∧
      (p.showAll news).1.seen engine = (carry total i news.length : Int) := by
  by_cases below : i < total
  · by_cases reached : total ≤ i + news.length
    · -- The count starts anew behind the file that brings it to the total.
      obtain ⟨front, back, rfl, size⟩ : ∃ front back, news = front ++ back ∧
          front.length = total - i :=
        ⟨_, _, (List.take_append_drop (total - i) news).symm, by rw [List.length_take]; omega⟩
      rw [List.length_append] at within reached
      obtain ⟨first, others⟩ := List.forall_mem_append.1 same
      obtain ⟨written, zero⟩ := showAll_eq positive width seen first (by omega)
      have anew := zero (by omega) (List.length_pos_iff.1 (by omega))
      obtain ⟨rest, counted⟩ := showAll_of_passing (i := 0) positive
        ((p.width_showAll front).trans width) anew others (.inr (by omega))
      rw [reel, if_pos below, carry, List.length_append, if_pos ⟨below, reached⟩, List.map_append,
        List.take_left' (by simpa using size), List.drop_left' (by simpa using size),
        showAll_append, written, rest, counted]
      exact ⟨rfl, by omega⟩
    · obtain ⟨written, counted⟩ := showAll_of_passing positive width seen same (.inr (by omega))
      rw [reel, if_pos below, carry, if_neg (by omega), List.take_of_length_le (by simp; omega),
        List.drop_eq_nil_of_le (by simp; omega), page_nil, String.append_empty]
      exact ⟨written, counted⟩
  · obtain ⟨written, counted⟩ := showAll_of_passing positive width seen same (.inl (by omega))
    rw [reel, if_neg below, carry, if_neg (by omega)]
    exact ⟨written, counted⟩

/-! ## Reels that are pages -/

/-- The counter at the end of a text can be read off. -/
theorem count_eq_of_append_counter {text other : String} {a b : Nat}
    (same : text ++ counter a total = other ++ counter b total) : a = b := by
  have digits (n : Nat) : ∀ c ∈ (natText n).toList.reverse, (c != ' ') = true := by
    intro c mem
    have digit := Report.isDigit_of_mem_natText (List.mem_reverse.1 mem)
    rw [bne_iff_ne]
    rintro rfl
    cases digit
  -- Read from its end, the text goes back over the digits to the space before them.
  have read (s : String) (n : Nat) :
      ((s ++ " " ++ natText n).toList.reverse.takeWhile (· != ' ')) =
        (natText n).toList.reverse := by
    rw [String.toList_append, String.toList_append, List.reverse_append, List.reverse_append,
      List.takeWhile_append_of_pos (digits n)]
    simp
  rw [← String.toList_inj] at same
  simp only [counter, intText_natCast, String.toList_append, ← List.append_assoc] at same
  have shorter :=
    List.append_cancel_right (List.append_cancel_right (List.append_cancel_right same))
  simp only [← String.toList_append] at shorter
  have backwards := congrArg (fun cs => cs.reverse.takeWhile (· != ' ')) shorter
  simp only [read] at backwards
  exact Report.natText_inj (String.toList_inj.1 (List.reverse_inj.1 backwards))

theorem marker_cases (r : Report) (path : String) :
    marker r path = "E" ∨ marker r path = "W" ∨ marker r path = "." := by
  unfold marker
  split
  · exact .inl rfl
  · split
    · exact .inr (.inl rfl)
    · exact .inr (.inr rfl)

/-- What is written for a file that is not the last does not end with the counter of the last. -/
theorem append_cell_ne {count : Nat} (early : count ≠ total) {mark : String}
    (known : mark = "E" ∨ mark = "W" ∨ mark = ".") (text other : String) :
    text ++ cell w total count mark ≠ other ++ counter total total := by
  intro same
  rw [cell] at same
  split at same
  · rw [← String.append_assoc] at same
    exact early (count_eq_of_append_counter same)
  · rw [String.append_empty] at same
    have ends : (text ++ mark).toList.getLast? = some '\n' := by
      rw [same, counter, ← String.append_assoc, String.toList_append]
      exact List.getLast?_concat
    rcases known with rfl | rfl | rfl <;> simp at ends

theorem page_concat (w total count : Nat) (marks : List String) (mark : String) :
    page w total count (marks ++ [mark]) =
      page w total count marks ++ cell w total (count + marks.length) mark := by
  rw [page_append, page_cons, page_nil, String.append_empty]

/-- The reel for all files is a page exactly when nothing has been counted before. -/
theorem reel_eq_page_iff {marks : List String} (size : marks.length = total)
    (some_files : 0 < total) (known : ∀ mark ∈ marks, mark = "E" ∨ mark = "W" ∨ mark = ".")
    (count : Nat) :
    reel w total count marks = page w total 1 marks ↔ count = 0 := by
  constructor
  · intro same
    by_contra started
    obtain ⟨front, mark, rfl⟩ :=
      (List.eq_nil_or_concat' marks).resolve_left (List.length_pos_iff.1 (by omega))
    have last := known mark (by simp)
    rw [List.length_append, List.length_singleton] at size
    have whole : page w total 1 (front ++ [mark]) =
        page w total 1 front ++ mark ++ counter total total := by
      have place : 1 + front.length = total := by omega
      rw [page_concat, place, cell, if_pos (.inl rfl), String.append_assoc]
    rw [whole, reel] at same
    split at same
    · rename_i below
      rw [List.drop_append_of_le_length (by omega), page_concat, ← String.append_assoc] at same
      refine append_cell_ne ?_ last _ _ same
      rw [List.length_drop]
      omega
    · rw [page_concat] at same
      exact append_cell_ne (by omega) last _ _ same
  · rintro rfl
    rw [reel, if_pos some_files, Nat.sub_zero, ← size, List.take_length, List.drop_length, page_nil,
      String.append_empty]

/-- A printer of some width does not fail. -/
theorem failure_advance {p : DotPrinter} (wide : p.width ≠ 0) (r : Report) (n : Notice) :
    (p.advance r n).2.2 = none := by
  simp only [advance, wide, if_false]
  split_ifs <;> rfl

end DotPrinter

/-! ## How many files a run shows -/

theorem Visit.length_history_le (tools : Tools) (r : Report) (rules : List Rule)
    (files : List String) : (history tools r rules files).length ≤ files.length := by
  induction files generalizing r rules with
  | nil => exact le_rfl
  | cons path paths ih =>
    unfold history
    split
    · exact Nat.zero_le _
    · exact Nat.succ_le_succ (ih _ _)

namespace Engine

variable {tools : Tools}

/-- A run that a fault ends shows fewer files than it has: the printer does not end it, and the file
that does is not shown. -/
theorem length_notices_analyzeFiles {engine : Nat} {total : Int} {p : RunState} {d : DotPrinter}
    (watched : p.observer = some (.dots d)) (wide : d.width ≠ 0) {files : List String} {f : Fault}
    (ended : (analyzeFiles tools engine total p files).2 = some f) :
    (analyzeFiles tools engine total p files).1.notices.length <
      p.notices.length + files.length := by
  induction files generalizing p d with
  | nil => cases ended
  | cons path paths ih =>
    have quiet := notices_analyzeFile tools p path
    let q := (analyzeFile tools p path).1
    let n : Notice := ⟨path, engine, total⟩
    have watching : q.observer = some (.dots d) :=
      (observer_analyzeFile tools p path).trans watched
    have told : (tell q n).2 = none ∧
        (tell q n).1.observer = some (.dots (d.advance q.report n).1) := by
      simp only [tell, watching, Observer.notify, DotPrinter.failure_advance wide]
      exact ⟨rfl, rfl⟩
    have heard : (tell q n).1.notices.length = p.notices.length + 1 := by
      rw [notices_tell, watching, quiet]
      simp
    rw [List.length_cons]
    rcases analyzeFiles_cons tools engine total p path paths with
      ⟨f, -, out⟩ | ⟨-, f, failed, -⟩ | ⟨-, -, out⟩
    · rw [out, quiet]
      omega
    · cases told.1.symm.trans failed
    · rw [out] at ended ⊢
      have rest := ih told.2 (by rwa [DotPrinter.width_advance]) ended
      rw [heard] at rest
      exact rest.trans_eq (by omega)

theorem length_notices_run {e : Engine} {rules : List Rule} {files : List String} {d : DotPrinter}
    (wide : d.width ≠ 0) (failed : (e.run tools rules files (some (.dots d))).fault ≠ none) :
    (e.run tools rules files (some (.dots d))).state.notices = [] ∨
      (e.run tools rules files (some (.dots d))).state.notices.length < files.length := by
  by_cases noRules : rules = []
  · exact .inl (by simp [run, noRules, RunState.notices])
  · by_cases noFiles : files = []
    · exact .inl (by simp [run, noRules, noFiles, RunState.notices])
    · rw [run_of_ne_nil e noRules noFiles] at failed ⊢
      obtain ⟨f, ended⟩ := Option.ne_none_iff_exists'.1 failed
      refine .inr ?_
      have fewer := length_notices_analyzeFiles rfl wide ended
      simpa [RunState.notices] using fewer

end Engine

/-! ## Counts that are handed on -/

namespace Job

/-- The count for an engine after a run, with `count` files counted before it. -/
def carried (engine count : Nat) (done : Job × Run) : Nat :=
  if done.1.engine.identity = engine then
    DotPrinter.carry done.1.files.length count done.2.state.notices.length
  else if shows done then 0
  else count

/-- The count for an engine that runs with a new printer leave. -/
def carriedAll (engine : Nat) (before : List (Job × Run)) : Nat :=
  before.foldl (carried engine) 0

variable {w : Nat} {d : DotPrinter}

theorem notices_of_run (j : Job) (o : Observer) :
    (j.run (some o)).state.notices.length ≤ j.files.length ∧
      ∀ n ∈ (j.run (some o)).state.notices,
        n.1.engine = j.engine.identity ∧ n.1.total = (j.files.length : Nat) := by
  obtain ⟨part, -⟩ := Engine.notices_run j.engine j.tools j.rules j.files o
  constructor
  · have fewer := part.length_le
    rw [List.length_map] at fewer
    exact fewer.trans (Visit.length_history_le _ _ _ _)
  · intro n mem
    obtain ⟨v, -, rfl⟩ := List.mem_map.1 (part.subset mem)
    exact ⟨rfl, rfl⟩

/-- A run of the engine writes a reel. -/
theorem output_run (positive : 0 < w) (width : d.width = w) (j : Job) {count : Nat}
    (seen : d.seen j.engine.identity = count) :
    (j.run (some (.dots d))).state.output =
      DotPrinter.reel w j.files.length count
        ((j.run (some (.dots d))).state.notices.map fun n => DotPrinter.marker n.2 n.1.path) := by
  obtain ⟨fewer, same⟩ := j.notices_of_run (.dots d)
  have written := (Engine.dots_run j.engine j.tools j.rules j.files d).2
  exact written.trans (DotPrinter.showAll_eq_reel positive width seen same fewer).1

/-- The count that a run hands on. -/
theorem seen_run (positive : 0 < w) (width : d.width = w) (j : Job) {engine count : Nat}
    (seen : d.seen engine = count) :
    (d.showAll (j.run (some (.dots d))).state.notices).1.seen engine =
      (carried engine count (j, j.run (some (.dots d))) : Int) := by
  obtain ⟨fewer, same⟩ := j.notices_of_run (.dots d)
  rw [carried]
  split
  · rename_i own
    subst own
    exact (DotPrinter.showAll_eq_reel positive width seen same fewer).2
  · rename_i other
    split
    · rename_i shown
      have told : (j.run (some (.dots d))).state.notices ≠ [] := by simpa [shows] using shown
      have last := DotPrinter.engine_showAll told (fun n mem => (same n mem).1) d
      rw [DotPrinter.seen, last, if_neg fun equal => other (Option.some.inj equal)]
      rfl
    · rename_i silent
      have none : (j.run (some (.dots d))).state.notices = [] := by simpa [shows] using silent
      rw [none]
      exact seen

/-- Every run has a printer whose count for an engine is what the runs before it hand on. -/
theorem exists_printer_of_append (positive : 0 < w) {e c : Nat} {jobs : List Job}
    {before after : List (Job × Run)} {done : Job × Run} (width : d.width = w)
    (seen : d.seen e = c)
    (split : runAll (some (.dots d)) jobs = before ++ done :: after) :
    ∃ p : DotPrinter, p.width = w ∧ done.2 = done.1.run (some (.dots p)) ∧
      p.seen e = (before.foldl (carried e) c : Nat) := by
  -- The runs before are taken off one by one; each leaves its printer to the next.
  induction before generalizing d c jobs with
  | nil =>
    cases jobs with
    | nil => cases split
    | cons j js =>
      obtain ⟨rfl, -⟩ := List.cons.inj split
      exact ⟨d, width, rfl, seen⟩
  | cons first before ih =>
    cases jobs with
    | nil => cases split
    | cons j js =>
      rw [runAll, List.cons_append] at split
      obtain ⟨rfl, rest⟩ := List.cons.inj split
      have left : (j.run (some (.dots d))).state.observer =
          some (.dots (d.showAll (j.run (some (.dots d))).state.notices).1) :=
        (Engine.dots_run j.engine j.tools j.rules j.files d).1
      rw [left] at rest
      exact ih ((d.width_showAll _).trans width) (seen_run positive width j seen) rest

/-- A run that a fault ends hands on as many files as it has shown, on top of a count of zero. -/
theorem carried_of_fault {j : Job} (wide : d.width ≠ 0)
    (failed : (j.run (some (.dots d))).fault ≠ none) :
    carried j.engine.identity 0 (j, j.run (some (.dots d))) =
      (j.run (some (.dots d))).state.notices.length := by
  have fewer : (j.run (some (.dots d))).state.notices = [] ∨
      (j.run (some (.dots d))).state.notices.length < j.files.length :=
    Engine.length_notices_run wide failed
  rw [carried, if_pos rfl, DotPrinter.carry, Nat.zero_add, if_neg]
  -- The count would start anew behind the last file only, and that file is not shown.
  rintro ⟨some_files, reached⟩
  rcases fewer with none | fewer
  · simp only [none, List.length_nil] at reached
    exact absurd some_files (Nat.not_lt.2 reached)
  · exact absurd reached (Nat.not_le.2 fewer)

/-- Jobs share a new printer of a width. A run that completes has shown its files in order, and what
it writes is the reel of their markers behind the count `c` that the runs before it hand on. That is
a page, with the marker of each file and a counter behind every `w`-th and behind the last, exactly
when `c` is zero. If the run before it is of the same engine, was ended by a fault and itself
started with a count of zero, then `c` is the number of files that it has shown. -/
theorem completed_run_continues_count (w : Nat) (positive : 0 < w) (jobs : List Job)
    (before after : List (Job × Run)) (done : Job × Run)
    (split : runAll (some (.dots { width := w })) jobs = before ++ done :: after)
    (completed : done.2.fault = none) :
    let m := done.1.files.length
    let c := carriedAll done.1.engine.identity before
    let marks := done.2.state.notices.map fun n => DotPrinter.marker n.2 n.1.path
    done.2.state.notices.map (·.1.path) = done.1.files ∧
    done.2.state.output = DotPrinter.reel w m c marks ∧
    (done.2.state.output = DotPrinter.page w m 1 marks ↔ c = 0) ∧
    ∀ earlier last, before = earlier ++ [last] →
      last.1.engine.identity = done.1.engine.identity → last.2.fault ≠ none →
      carriedAll done.1.engine.identity earlier = 0 → c = last.2.state.notices.length := by
  intro m c marks
  obtain ⟨j, r⟩ := done
  obtain ⟨p, width, whole, seen⟩ :=
    exists_printer_of_append (e := j.engine.identity) (c := 0) positive rfl rfl split
  obtain rfl : r = j.run (some (.dots p)) := whole
  obtain ⟨some_files, notices, paths, -⟩ :=
    (Engine.notices_run j.engine j.tools j.rules j.files (.dots p)).2 completed
  have shown : (j.run (some (.dots p))).state.notices.map (·.1.path) = j.files := by
    rw [run, notices, List.map_map]
    exact paths
  have size : marks.length = m := by
    rw [List.length_map, ← List.length_map (f := (·.1.path)), shown]
  have known : ∀ mark ∈ marks, mark = "E" ∨ mark = "W" ∨ mark = "." := by
    intro mark mem
    obtain ⟨n, -, rfl⟩ := List.mem_map.1 mem
    exact DotPrinter.marker_cases _ _
  have written := output_run positive width j seen
  refine ⟨shown, written, ?_, ?_⟩
  · rw [written]
    exact DotPrinter.reel_eq_page_iff size (List.length_pos_iff.2 some_files) known c
  · rintro earlier ⟨k, r⟩ rfl same failed zero
    rw [List.append_assoc, List.singleton_append] at split
    obtain ⟨q, width, whole, -⟩ := exists_printer_of_append (e := 0) (c := 0) positive rfl rfl split
    obtain rfl : r = k.run (some (.dots q)) := whole
    have wide : q.width ≠ 0 := by omega
    simp only [c, carriedAll, List.foldl_append, List.foldl_cons, List.foldl_nil]
    rw [← carried_of_fault wide failed, same]
    exact congrArg (carried _ · _) zero

theorem completed_run_continues_count_of_brittle :
    let jobs := [brittle 1 ["gone.py"], brittle 1 ["a.py", "b.py", "c.py"]]
    ∃ last done, runAll (some (.dots { width := 2 })) jobs = [last, done] ∧
      last.2.fault.isSome = true ∧ done.2.fault.isNone = true ∧
      done.2.state.output = DotPrinter.page 2 3 1 [".", "E", "."] := by
  intro jobs
  let first := (brittle 1 ["gone.py"]).run (some (.dots { width := 2 }))
  let second := (brittle 1 ["a.py", "b.py", "c.py"]).run first.state.observer
  have quiet : second.fault.isNone = true := by decide +kernel
  have marks : second.state.notices.map (fun n => DotPrinter.marker n.2 n.1.path) =
      [".", "E", "."] := by decide +kernel
  have zero : carriedAll 1 [(brittle 1 ["gone.py"], first)] = 0 := by decide +kernel
  obtain ⟨-, -, printed, -⟩ := completed_run_continues_count 2 (by decide) jobs
    [(brittle 1 ["gone.py"], first)] [] (brittle 1 ["a.py", "b.py", "c.py"], second) rfl
    (Option.isNone_iff_eq_none.1 quiet)
  exact ⟨_, _, rfl, by decide +kernel, quiet, marks ▸ printed.2 zero⟩

/-- A run ends at its second file, and the next one of its engine, which completes, counts on from
the first file of that run. -/
theorem aborted_run_keeps_count :
    let jobs := [brittle 1 ["a.py", "gone.py"], brittle 1 ["a.py", "c.py"]]
    ∃ last done, runAll (some (.dots { width := 60 })) jobs = [last, done] ∧
      last.2.fault.isSome = true ∧ done.2.fault.isNone = true ∧
      done.2.state.output = ". 2 / 2\n." ∧
      done.2.state.output ≠ DotPrinter.page 60 2 1
        (done.2.state.notices.map fun n => DotPrinter.marker n.2 n.1.path) := by
  exact ⟨_, _, rfl, by decide +kernel, by decide +kernel, by decide +kernel, by decide +kernel⟩

end Job

end SourceAudit
