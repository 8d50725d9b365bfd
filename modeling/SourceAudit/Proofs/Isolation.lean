import SourceAudit.Proofs.History

/-!
# Failures of rules stay with the rule

A rule may have no check, no name, add messages for files nobody has added, add files, and raise
half way. As long as it raises nothing that interrupts the program, its failure becomes one message
for the file that is checked, directly behind what the rule itself has added to that file, and the
run goes on (`Engine.run_isolates_failures`). There is one exception: when asking the failure for
its text raises, the message about it cannot be written, and what is raised ends the run
(`Engine.untold_failure_ends_run`).
-/

namespace SourceAudit

open Report

/-- A rule is called by its name, or by that of its class when it has none or one that counts as
false. -/
def Rule.IsCalled (rule : Rule) (name : Value) : Prop :=
  (rule.name? = some name ∧ name.truthy = true) ∨
    ((∀ v, rule.name? = some v → v.truthy = false) ∧ name = .text rule.className)

theorem Rule.isCalled_reportName (rule : Rule) : rule.IsCalled rule.reportName := by
  unfold IsCalled reportName
  cases rule.name? with
  | none => exact .inr ⟨by simp, rfl⟩
  | some v =>
    by_cases hv : v.truthy = true
    · refine .inl ?_
      simp [hv]
    · refine .inr ?_
      simp [hv]

namespace Trial

/-- Whether the check raises nothing that interrupts the program. -/
def isCalm (t : Trial) : Bool :=
  t.done.failure.all fun f => !f.interrupts

/-- Whether the message about the failure of the check can be made, if the check fails. -/
def isTold (t : Trial) : Bool :=
  t.untold?.isNone

/-- What a trial leaves in the report when its check fails with `f`: the message `m` and nothing
else, directly behind what the check itself has added to the file. -/
structure Records (t : Trial) (f : Failure) (m : Message) : Prop where
  added : t.done.report.addMessage m = .ok t.after
  path : m.path = t.file.path
  rule : ∃ name, t.rule.IsCalled name ∧ m.finding = .rule name ∧
    m.text = "Rule " ++ name.display ++ ": " ++ f.message
  /-- It stands behind what the check has added to the file. -/
  last : t.after.messages t.file.path =
    t.before.messages t.file.path ++ t.before.gained t.done.report t.file.path ++ [m]
  /-- Other files have what the check has added to them. -/
  others : ∀ q, q ≠ t.file.path → t.after.messages q = t.done.report.messages q

theorem ending?_of_isCalm {t : Trial} (h : t.isCalm = true) :
    t.ending? = t.untold?.map .raised := by
  unfold isCalm at h
  unfold ending? untold?
  cases hf : t.done.failure with
  | none => rfl
  | some f =>
    rw [hf, Option.all_some, Bool.not_eq_true'] at h
    simp [h]

/-- A check that fails leaves exactly one message about it. -/
theorem exists_records {t : Trial} (h : t.file.path ∈ t.before.files) {f : Failure}
    (hf : t.done.failure = some f) : ∃ m, t.Records f m := by
  have hc : t.complaint = some (Engine.failureMessage t.file.path t.rule.reportName f) := by
    rw [complaint, hf, Option.map_some]
  have hafter : t.after =
      t.done.report.push (Engine.failureMessage t.file.path t.rule.reportName f) := by
    rw [after, hc]
    rfl
  refine ⟨Engine.failureMessage t.file.path t.rule.reportName f, ?_, rfl,
    ⟨_, t.rule.isCalled_reportName, rfl, rfl⟩, ?_, fun q hq => ?_⟩
  · rw [hafter]
    exact addMessage_of_mem (mem_files_done h)
  · rw [messages_after h, messages, hc, if_pos rfl, Option.toList_some, List.append_assoc]
  · rw [hafter, messages_push, if_neg fun hm => hq hm.1]

/-- A check that does not fail leaves what it has added and no message about a failure. -/
theorem after_of_failure_eq_none {t : Trial} (hf : t.done.failure = none) :
    t.after = t.done.report := by
  rw [after, complaint, hf]
  rfl

theorem map_rule_each (file : TokenFile) (rules : List Rule) (r : Report) :
    (each file r rules).map Trial.rule = rules := by
  induction rules generalizing r with
  | nil => rfl
  | cons rule rules ih => rw [each, List.map_cons, ih]

end Trial

/-- Every accepted file is tried with every rule, in order. -/
theorem Visit.map_rule_trials {v : Visit} {verdict : Verdict} {file : TokenFile}
    (h : v.opening = .accepted verdict file) : v.trials.map Trial.rule = v.rules := by
  simp only [trials, h]
  exact Trial.map_rule_each _ _ _

namespace Engine

variable {tools : Tools} {rules : List Rule} {files : List String}

theorem mem_before_of_mem_trials {t : Trial} (h : t ∈ trials tools rules files) :
    t.file.path ∈ t.before.files := by
  obtain ⟨v, hv, ht⟩ := List.mem_flatMap.1 h
  have ho := Visit.open?_of_mem_history hv
  unfold Visit.trials at ht
  split at ht
  · cases ht
  · rename_i verdict file hopen
    rw [hopen] at ho
    refine Trial.mem_before_of_mem_each ?_ ht
    rw [Tools.path_of_accepted ho]
    exact mem_files_addFile.2 (.inr rfl)

/-- In a run without interruptions the first trial whose failure cannot be told ends the run. -/
theorem findSome?_untold? {ts : List Trial} (hcalm : ∀ t ∈ ts, t.isCalm = true) {f : Failure}
    (hend : ts.findSome? Trial.ending? = some f) :
    ∃ e, ts.findSome? Trial.untold? = some e ∧ f = .raised e := by
  obtain ⟨before, t, after, rfl, ht, hbefore⟩ := List.findSome?_eq_some_iff.1 hend
  rw [List.forall_mem_append, List.forall_mem_cons] at hcalm
  rw [Trial.ending?_of_isCalm hcalm.2.1] at ht
  obtain ⟨e, he, rfl⟩ := Option.map_eq_some_iff.1 ht
  refine ⟨e, List.findSome?_eq_some_iff.2 ⟨before, t, after, rfl, he, fun s hs => ?_⟩, rfl⟩
  have told := hbefore s hs
  rwa [Trial.ending?_of_isCalm (hcalm.1 s hs), Option.map_eq_none_iff] at told

theorem exists_untold_iff {ts : List Trial} :
    (∃ e, ts.findSome? Trial.untold? = some e) ↔ ∃ t ∈ ts, t.isTold = false := by
  rw [← Option.isSome_iff_exists, List.findSome?_isSome_iff]
  simp [Trial.isTold, Option.isSome_iff_ne_none]

/-- A run without interruptions gives the report of its history when every failure can be told, and
ends with what the first one that cannot be told raises otherwise. -/
theorem run_of_isCalm (e : Engine) (observer : Option Observer) (hr : rules ≠ []) (hf : files ≠ [])
    (hopen : ∀ p ∈ files, (tools.open? p).isSome)
    (hcalm : ∀ t ∈ trials tools rules files, t.isCalm = true)
    (hobs : ∀ o, (e.run tools rules files observer).fault ≠ some (.observer o)) :
    let run := e.run tools rules files observer
    ((∀ t ∈ trials tools rules files, t.isTold = true) ∧
        run.result = .ok (Visit.conclude Report.empty (visits tools rules files))) ∨
      ∃ x, (trials tools rules files).findSome? Trial.untold? = some x ∧
        run.result = .error (.failure (.raised x)) := by
  rcases run_cases e hr hf hopen observer with
    ⟨hall, hfault, hreport⟩ | ⟨-, o, ho⟩ | ⟨f, hend, hfault⟩
  · refine .inl ⟨fun t ht => ?_, by simp only [Run.result, hfault, hreport]⟩
    have hend := hall t ht
    rw [Trial.ending?_of_isCalm (hcalm t ht), Option.map_eq_none_iff] at hend
    rw [Trial.isTold, hend, Option.isNone_none]
  · exact absurd ho (hobs o)
  · obtain ⟨x, hx, rfl⟩ := findSome?_untold? hcalm hend
    exact .inr ⟨x, hx, by simp only [Run.result, hfault]⟩

/-- For every choice of rules and files, where each file comes to the rules, no check raises what
interrupts the program and the observer does not fail: the run gives a report exactly when every
failure can be told, and ends with what the first one that cannot be told raises otherwise. There is
one visit for each file,
with one trial for each rule where the file is accepted. A check that fails leaves one message about
it, directly behind its own, and a check that does not fail leaves none. In the report all files
were analyzed, and each file has the messages of the visits and no others. -/
theorem run_isolates_failures (e : Engine) (tools : Tools) (rules : List Rule)
    (files : List String) (observer : Option Observer) (hr : rules ≠ []) (hf : files ≠ [])
    (hopen : ∀ p ∈ files, (tools.open? p).isSome)
    (hcalm : ∀ t ∈ trials tools rules files, t.isCalm = true)
    (hobs : ∀ o, (e.run tools rules files observer).fault ≠ some (.observer o)) :
    let run := e.run tools rules files observer
    ((∃ report, run.result = .ok report) ↔ ∀ t ∈ trials tools rules files, t.isTold = true) ∧
      ((∃ t ∈ trials tools rules files, t.isTold = false) →
        ∃ x, (trials tools rules files).findSome? Trial.untold? = some x ∧
          run.result = .error (.failure (.raised x))) ∧
      (visits tools rules files).map Visit.path = files ∧
      (∀ v ∈ visits tools rules files, v.rules.length = rules.length ∧
        ∀ verdict file, tools.open? v.path = some (.accepted verdict file) →
          v.trials.map Trial.rule = v.rules) ∧
      (∀ t ∈ trials tools rules files,
        (∀ f, t.done.failure = some f → ∃ m, t.Records f m) ∧
          (t.done.failure = none → t.after = t.done.report)) ∧
      ∀ report, run.result = .ok report →
        (∀ p ∈ files, report.wasAnalyzed p = true) ∧
          ∀ q, report.messages q = (visits tools rules files).flatMap (·.messages q) := by
  intro run
  have hvisit : ∀ v ∈ visits tools rules files, v.rules.length = rules.length ∧
      ∀ verdict file, tools.open? v.path = some (.accepted verdict file) →
        v.trials.map Trial.rule = v.rules := by
    refine fun v hv => ⟨Visit.length_rules_of_mem_history hv, fun verdict file ho => ?_⟩
    rw [Visit.open?_of_mem_history hv, Option.some.injEq] at ho
    exact Visit.map_rule_trials ho
  have htrial : ∀ t ∈ trials tools rules files,
      (∀ f, t.done.failure = some f → ∃ m, t.Records f m) ∧
        (t.done.failure = none → t.after = t.done.report) := fun t ht =>
    ⟨fun f hfail => Trial.exists_records (mem_before_of_mem_trials ht) hfail,
      Trial.after_of_failure_eq_none⟩
  have hfinal : (∀ p ∈ files,
      (Visit.conclude Report.empty (visits tools rules files)).wasAnalyzed p = true) ∧
      ∀ q, (Visit.conclude Report.empty (visits tools rules files)).messages q =
        (visits tools rules files).flatMap (·.messages q) := by
    refine ⟨fun p hp => ?_, Visit.messages_conclude files Report.empty rules⟩
    rw [wasAnalyzed_iff]
    exact Visit.mem_files_conclude hopen _ _ hp
  rcases run_of_isCalm e observer hr hf hopen hcalm hobs with ⟨hall, hok⟩ | ⟨x, hx, herr⟩
  · refine ⟨⟨fun _ => hall, fun _ => ⟨_, hok⟩⟩, ?_, Visit.map_path_history hopen _ _, hvisit,
      htrial, fun report hreport => ?_⟩
    · rintro ⟨t, ht, hn⟩
      exact absurd (hall t ht) (by simp [hn])
    · obtain rfl := Except.ok.inj (hok.symm.trans hreport)
      exact hfinal
  · obtain ⟨t, ht, hn⟩ := exists_untold_iff.1 ⟨x, hx⟩
    refine ⟨⟨?_, fun hall => absurd (hall t ht) (by simp [hn])⟩, fun _ => ⟨x, hx, herr⟩,
      Visit.map_path_history hopen _ _, hvisit, htrial, fun report hreport => ?_⟩
    · rintro ⟨report, hreport⟩
      cases herr.symm.trans hreport
    · cases herr.symm.trans hreport

/-- Tools that accept every file but `b.py` and read one line from each. -/
def sampleTools : Tools where
  lint path := .ok { passed := path != "b.py" }
  read _ := .ok "x = 1\n"

/-- A rule without a name that reports on an unknown file, one without a check, and one that adds a
file and raises. -/
def unrulyRules : List Rule :=
  [.script {
      style := .plain
      name := none
      steps := [.warn "seen" .current, .message .warning "other.py" "lost"] },
   .script { style := .unchecked, name := some (.text "") },
   .script {
      style := .token
      name := some (.text "rulecheck.rules.loud")
      steps := [.addFile "more.py", .raise (Raised.make "ValueError" [.text "boom"])] }]

theorem run_isolates_failures_of_unruly :
    ∃ report, (({} : Engine).run sampleTools unrulyRules ["a.py", "b.py", "a.py"]
        (some .recorder)).result = .ok report ∧
      ∀ p ∈ ["a.py", "b.py", "a.py"], report.wasAnalyzed p = true := by
  have quiet : (({} : Engine).run sampleTools unrulyRules ["a.py", "b.py", "a.py"]
      (some .recorder)).fault.isNone = true := by decide +kernel
  obtain ⟨hiff, -, -, -, -, hreport⟩ := run_isolates_failures {} sampleTools
    unrulyRules ["a.py", "b.py", "a.py"] (some .recorder) (by decide) (by decide)
    (by decide +kernel) (by decide +kernel) fun o ho => by rw [ho] at quiet; cases quiet
  obtain ⟨report, hok⟩ := hiff.2 (by decide +kernel)
  exact ⟨report, hok, (hreport report hok).1⟩

/-- A rule that raises an exception whose text cannot be told. -/
def untoldRule : Rule :=
  .script {
    style := .token
    name := some (.text "rulecheck.rules.mute")
    steps := [.raise (Raised.make "UnicodeEncodeError"
      [.text "ascii", .text "abc", .int (-1), .int 0, .text "reason"])] }

/-- Nothing interrupts the program and the file comes to the rule, yet there is no report. -/
theorem untold_failure_ends_run :
    (∀ p ∈ ["a.py"], (sampleTools.open? p).isSome = true) ∧
      (∀ t ∈ trials sampleTools [untoldRule] ["a.py"], t.isCalm = true) ∧
      ¬ ∃ report,
        (({} : Engine).run sampleTools [untoldRule] ["a.py"] none).result = .ok report := by
  have hopen : ∀ p ∈ ["a.py"], (sampleTools.open? p).isSome = true := by decide +kernel
  have hcalm : ∀ t ∈ trials sampleTools [untoldRule] ["a.py"], t.isCalm = true := by decide +kernel
  refine ⟨hopen, hcalm, ?_⟩
  rintro ⟨report, hok⟩
  have failed : (({} : Engine).run sampleTools [untoldRule] ["a.py"] none).fault.isSome = true := by
    decide +kernel
  rw [(Run.result_eq_ok_iff.1 hok).1] at failed
  cases failed

end Engine

end SourceAudit
