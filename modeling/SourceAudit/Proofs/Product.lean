import SourceAudit.Proofs.Effect
import SourceAudit.Proofs.Isolation

/-!
# The report of a run as a product

All rules of a run share one cursor and one report, and the same rules see every file. For confined
rules and distinct files none of this shows: the messages of an accepted file are what each rule
finds on it alone, one rule after the other, and a file that is not accepted has the message of the
syntax check (`Engine.run_report_eq_product`). So a rule that fails, drains the cursor or sends it
anywhere changes nothing for the other rules, and a file changes nothing for the other files.
-/

namespace SourceAudit

open Report

/-! ## Trials of confined rules -/

namespace Rule

/-- What a rule leaves in the report about a file: what it reports and, when it fails, the message
about that. -/
def findings (rule : Rule) (file : TokenFile) : List Message :=
  (rule.effect file.rewind).messages ++
    (rule.effect file.rewind).failure.toList.map (Engine.failureMessage file.path rule.reportName)

/-- What raises when the message about the failure of the rule on a file is made. -/
def untold? (rule : Rule) (file : TokenFile) : Option Raised :=
  (rule.effect file.rewind).failure.bind (Engine.untold? rule.reportName)

/-- Whether the message about the failure of the rule on a file can be made, if it fails. -/
def isTellable (rule : Rule) (file : TokenFile) : Bool :=
  (rule.untold? file).isNone

end Rule

namespace Trial

variable {t : Trial}

theorem done_of_confined (hc : t.rule.isConfined = true) (h : t.file.path ∈ t.before.files) :
    t.done = ⟨{ rule := t.rule }, (t.rule.effect t.file.rewind).file,
      t.before.pushAll (t.rule.effect t.file.rewind).messages,
      (t.rule.effect t.file.rewind).failure⟩ :=
  Rule.check_of_confined hc (f := t.file.rewind) h

theorem isCalm_of_confined (hc : t.rule.isConfined = true) (h : t.file.path ∈ t.before.files) :
    t.isCalm = true := by
  rw [isCalm, done_of_confined hc h, Option.all_eq_true]
  intro f hf
  simp [Rule.effect_calm hc hf]

theorem untold?_of_confined (hc : t.rule.isConfined = true) (h : t.file.path ∈ t.before.files) :
    t.untold? = t.rule.untold? t.file := by
  rw [untold?, done_of_confined hc h]
  rfl

theorem isTold_of_confined (hc : t.rule.isConfined = true) (h : t.file.path ∈ t.before.files) :
    t.isTold = t.rule.isTellable t.file := by
  rw [isTold, untold?_of_confined hc h, Rule.isTellable]

theorem files_after_of_confined (hc : t.rule.isConfined = true)
    (h : t.file.path ∈ t.before.files) : t.after.files = t.before.files := by
  rw [files_after, done_of_confined hc h, files_pushAll]

/-- A trial of a confined rule adds its findings to the file and nothing to any other. -/
theorem messages_of_confined (hc : t.rule.isConfined = true) (h : t.file.path ∈ t.before.files)
    (q : String) : t.messages q = if q = t.file.path then t.rule.findings t.file else [] := by
  have own : ∀ m ∈ (t.rule.effect t.file.rewind).messages, m.path = t.file.path :=
    fun m hm => Rule.path_of_mem_effect (f := t.file.rewind) hc hm
  unfold messages gained complaint
  rw [done_of_confined hc h]
  by_cases hq : q = t.file.path
  · subst hq
    rw [messages_pushAll_self h own, List.drop_left, if_pos rfl, if_pos rfl, Rule.findings,
      Option.toList_map]
  · rw [messages_pushAll_of_ne _ fun m hm => (own m hm) ▸ Ne.symm hq, List.drop_length, if_neg hq,
      if_neg hq, List.nil_append]

/-- Trials of confined rules on one file leave the rules and the files of the report as they are,
and add to that file what each rule finds on it. Which failure is the first that cannot be told is
up to the rules and the file. -/
theorem each_of_confined (file : TokenFile) {rules : List Rule} {r : Report}
    (hc : ∀ rule ∈ rules, rule.isConfined = true) (hr : file.path ∈ r.files) :
    (each file r rules).map (·.done.session.rule) = rules ∧
      (conclude r (each file r rules)).files = r.files ∧
      (each file r rules).findSome? untold? = rules.findSome? (·.untold? file) ∧
      ∀ q, (each file r rules).flatMap (·.messages q) =
        if q = file.path then rules.flatMap (·.findings file) else [] := by
  induction rules generalizing r with
  | nil => exact ⟨rfl, rfl, rfl, fun q => by simp [each]⟩
  | cons rule rules ih =>
    have first : (Trial.mk rule file r).rule.isConfined = true := hc rule List.mem_cons_self
    have hr' : file.path ∈ (after ⟨rule, file, r⟩).files :=
      mem_files_after (t := ⟨rule, file, r⟩) hr
    obtain ⟨hrules, hfiles, huntold, hmessages⟩ :=
      ih (fun s hs => hc s (List.mem_cons_of_mem _ hs)) hr'
    refine ⟨?_, ?_, ?_, fun q => ?_⟩
    · rw [each, List.map_cons, hrules, done_of_confined first hr]
    · rw [each, conclude_cons, hfiles, files_after_of_confined first hr]
    · rw [each, List.findSome?_cons, List.findSome?_cons, huntold, untold?_of_confined first hr]
    · rw [each, List.flatMap_cons, hmessages, messages_of_confined first hr]
      split
      · rw [List.flatMap_cons]
      · rfl

end Trial

/-! ## Visits of confined rules -/

/-- What the first failure that cannot be told raises, of rules on a file that comes to them. -/
def Opening.untold? (rules : List Rule) : Opening → Option Raised
  | .rejected _ => none
  | .accepted _ file => rules.findSome? (·.untold? file)

/-- What a file has in the report when confined rules have visited it. -/
def Opening.messages (rules : List Rule) (path : String) : Opening → List Message
  | .rejected verdict => [Message.lint path verdict.complaint]
  | .accepted _ file => rules.flatMap (·.findings file)

namespace Visit

variable {tools : Tools} {rules : List Rule}

/-- A visit with confined rules leaves the rules as they are, puts the file into the report and adds
messages to this file only. -/
theorem eq_of_confined {v : Visit} (hc : ∀ rule ∈ v.rules, rule.isConfined = true)
    (h : tools.open? v.path = some v.opening) :
    v.rulesAfter = v.rules ∧ v.after.files = (v.before.addFile v.path).files ∧
      v.trials.findSome? Trial.untold? = v.opening.untold? v.rules ∧
      ∀ q, v.messages q = if q = v.path then v.opening.messages v.rules v.path else [] := by
  obtain ⟨r, rules, path, o⟩ := v
  have hp : path ∈ (r.addFile path).files := mem_files_addFile.2 (.inr rfl)
  cases o with
  | rejected verdict => exact ⟨rfl, files_push _ _, rfl, fun q => rfl⟩
  | accepted verdict file =>
    have hfile := Tools.path_of_accepted h
    obtain ⟨hrules, hfiles, huntold, hmessages⟩ :=
      Trial.each_of_confined file hc (r := r.addFile path) (by rwa [hfile])
    refine ⟨hrules, hfiles, huntold, fun q => ?_⟩
    rw [← hfile]
    exact hmessages q

variable (hc : ∀ rule ∈ rules, rule.isConfined = true)

include hc

theorem rules_of_mem_history {files : List String} {r : Report} {v : Visit}
    (h : v ∈ history tools r rules files) : v.rules = rules := by
  induction files generalizing r with
  | nil => cases h
  | cons path paths ih =>
    cases ho : tools.open? path with
    | none =>
      rw [history, ho] at h
      cases h
    | some o =>
      obtain ⟨hrules, -⟩ := eq_of_confined (v := ⟨r, rules, path, o⟩) hc ho
      simp only [history, ho, hrules] at h
      rcases List.mem_cons.1 h with rfl | h
      · rfl
      · exact ih h

theorem findSome?_untold?_history {files : List String}
    (hopen : ∀ p ∈ files, (tools.open? p).isSome) (r : Report) :
    ((history tools r rules files).flatMap trials).findSome? Trial.untold? =
      files.findSome? fun p => (tools.open? p).bind (Opening.untold? rules) := by
  induction files generalizing r with
  | nil => rfl
  | cons path paths ih =>
    obtain ⟨o, ho⟩ := Option.isSome_iff_exists.1 (hopen path List.mem_cons_self)
    obtain ⟨hrules, -, huntold, -⟩ := eq_of_confined (v := ⟨r, rules, path, o⟩) hc ho
    simp only [history, ho, List.flatMap_cons, List.findSome?_append, List.findSome?_cons, hrules,
      huntold, Option.bind_some, ih fun p hp => hopen p (List.mem_cons_of_mem _ hp)]
    cases o.untold? rules <;> rfl

theorem flatMap_messages_of_notMem {files : List String} {r : Report} {q : String}
    (hq : q ∉ files) : (history tools r rules files).flatMap (·.messages q) = [] := by
  induction files generalizing r with
  | nil => rfl
  | cons path paths ih =>
    rw [List.mem_cons, not_or] at hq
    cases ho : tools.open? path with
    | none => simp [history, ho]
    | some o =>
      obtain ⟨hrules, -, -, hmessages⟩ := eq_of_confined (v := ⟨r, rules, path, o⟩) hc ho
      simp only [history, ho, List.flatMap_cons, hrules, hmessages, if_neg hq.1, ih hq.2,
        List.nil_append]

/-- On distinct files, only the visit of a file adds messages to it. -/
theorem flatMap_messages_history {files : List String}
    (hopen : ∀ p ∈ files, (tools.open? p).isSome) (hn : files.Nodup) {path : String} {o : Opening}
    (hp : path ∈ files) (ho : tools.open? path = some o) (r : Report) :
    (history tools r rules files).flatMap (·.messages path) = o.messages rules path := by
  induction files generalizing r with
  | nil => cases hp
  | cons first paths ih =>
    obtain ⟨hfirst, hn'⟩ := List.nodup_cons.1 hn
    obtain ⟨u, hu⟩ := Option.isSome_iff_exists.1 (hopen first List.mem_cons_self)
    obtain ⟨hrules, -, -, hmessages⟩ := eq_of_confined (v := ⟨r, rules, first, u⟩) hc hu
    simp only [history, hu, List.flatMap_cons, hrules, hmessages]
    by_cases he : path = first
    · subst he
      obtain rfl : u = o := Option.some.inj (hu.symm.trans ho)
      rw [if_pos rfl, flatMap_messages_of_notMem hc hfirst, List.append_nil]
    · have hp' : path ∈ paths := (List.mem_cons.1 hp).resolve_left he
      rw [if_neg he, List.nil_append]
      exact ih (fun p hp => hopen p (List.mem_cons_of_mem _ hp)) hn' hp' _

theorem files_conclude {files : List String} (hopen : ∀ p ∈ files, (tools.open? p).isSome)
    (hn : files.Nodup) {r : Report} (hr : ∀ p ∈ files, p ∉ r.files) :
    (conclude r (history tools r rules files)).files = r.files ++ files := by
  induction files generalizing r with
  | nil => simp [history]
  | cons path paths ih =>
    obtain ⟨hfirst, hn'⟩ := List.nodup_cons.1 hn
    obtain ⟨o, ho⟩ := Option.isSome_iff_exists.1 (hopen path List.mem_cons_self)
    obtain ⟨hrules, hfiles, -⟩ := eq_of_confined (v := ⟨r, rules, path, o⟩) hc ho
    have hafter : (after ⟨r, rules, path, o⟩).files = r.files ++ [path] := by
      rw [hfiles, files_addFile, if_neg (hr path List.mem_cons_self)]
    simp only [history, ho, conclude_cons, hrules]
    rw [ih (fun p hp => hopen p (List.mem_cons_of_mem _ hp)) hn' fun p hp => ?_, hafter,
      List.append_assoc, List.singleton_append]
    rw [hafter, List.mem_append, List.mem_singleton, not_or]
    exact ⟨hr p (List.mem_cons_of_mem _ hp), fun e => hfirst (e ▸ hp)⟩

end Visit

/-! ## Runs of confined rules -/

namespace Engine

variable {tools : Tools} {rules : List Rule} {files : List String}

/-- The trials of a run with confined rules are those of the rules on the accepted files. -/
theorem mem_trials_of_confined (hc : ∀ rule ∈ rules, rule.isConfined = true) {t : Trial}
    (h : t ∈ trials tools rules files) :
    t.rule ∈ rules ∧ ∃ p ∈ files, ∃ verdict, tools.open? p = some (.accepted verdict t.file) := by
  obtain ⟨v, hv, ht⟩ := List.mem_flatMap.1 h
  have hrules := Visit.rules_of_mem_history hc hv
  have hopen := Visit.open?_of_mem_history hv
  cases ho : v.opening with
  | rejected verdict =>
    simp only [Visit.trials, ho, List.not_mem_nil] at ht
  | accepted verdict file =>
    have hrule : t.rule ∈ v.trials.map Trial.rule := List.mem_map_of_mem ht
    rw [Visit.map_rule_trials ho, hrules] at hrule
    simp only [Visit.trials, ho] at ht
    rw [Trial.file_of_mem_each ht]
    exact ⟨hrule, v.path, Visit.path_mem_of_mem_history hv, verdict, ho ▸ hopen⟩

/-- Every rule is tried on every accepted file. -/
theorem exists_mem_trials (hc : ∀ rule ∈ rules, rule.isConfined = true)
    (hopen : ∀ p ∈ files, (tools.open? p).isSome) {rule : Rule} (hrule : rule ∈ rules)
    {path : String} (hp : path ∈ files) {verdict : Verdict} {file : TokenFile}
    (ho : tools.open? path = some (.accepted verdict file)) :
    ∃ t ∈ trials tools rules files, t.rule = rule ∧ t.file = file := by
  have hpath : path ∈ (visits tools rules files).map Visit.path := by
    rwa [visits, Visit.map_path_history hopen]
  obtain ⟨v, hv, rfl⟩ := List.mem_map.1 hpath
  have hv' : v.opening = .accepted verdict file :=
    Option.some.inj ((Visit.open?_of_mem_history hv).symm.trans ho)
  have hmem : rule ∈ v.trials.map Trial.rule := by
    rwa [Visit.map_rule_trials hv', Visit.rules_of_mem_history hc hv]
  obtain ⟨t, ht, rfl⟩ := List.mem_map.1 hmem
  refine ⟨t, List.mem_flatMap.2 ⟨v, hv, ht⟩, rfl, ?_⟩
  simp only [Visit.trials, hv'] at ht
  exact Trial.file_of_mem_each ht

/-- Whether every failure of the rules on the accepted files can be told. -/
def AllTellable (tools : Tools) (rules : List Rule) (files : List String) : Prop :=
  ∀ p ∈ files, ∀ verdict file, tools.open? p = some (.accepted verdict file) →
    ∀ rule ∈ rules, rule.isTellable file = true

theorem isTold_trials_iff (hc : ∀ rule ∈ rules, rule.isConfined = true)
    (hopen : ∀ p ∈ files, (tools.open? p).isSome) :
    (∀ t ∈ trials tools rules files, t.isTold = true) ↔ AllTellable tools rules files := by
  constructor
  · intro h p hp verdict file ho rule hrule
    obtain ⟨t, ht, rfl, rfl⟩ := exists_mem_trials hc hopen hrule hp ho
    rw [← Trial.isTold_of_confined (hc _ hrule) (mem_before_of_mem_trials ht)]
    exact h t ht
  · intro h t ht
    obtain ⟨hrule, p, hp, verdict, ho⟩ := mem_trials_of_confined hc ht
    rw [Trial.isTold_of_confined (hc _ hrule) (mem_before_of_mem_trials ht)]
    exact h p hp verdict t.file ho t.rule hrule

/-- What the first failure that cannot be told raises, of rules on files. -/
def firstUntold (tools : Tools) (rules : List Rule) (files : List String) : Option Raised :=
  files.findSome? fun p => (tools.open? p).bind (Opening.untold? rules)

/-- How a run of confined rules ends. -/
theorem run_of_confined (e : Engine) (hr : rules ≠ []) (hf : files ≠ [])
    (hc : ∀ rule ∈ rules, rule.isConfined = true)
    (hopen : ∀ p ∈ files, (tools.open? p).isSome) :
    (AllTellable tools rules files ∧ (e.run tools rules files none).result =
        .ok (Visit.conclude Report.empty (visits tools rules files))) ∨
      (¬ AllTellable tools rules files ∧ ∃ x, firstUntold tools rules files = some x ∧
        (e.run tools rules files none).result = .error (.failure (.raised x))) := by
  have hcalm : ∀ t ∈ trials tools rules files, t.isCalm = true := by
    intro t ht
    obtain ⟨hrule, -⟩ := mem_trials_of_confined hc ht
    exact Trial.isCalm_of_confined (hc _ hrule) (mem_before_of_mem_trials ht)
  have hobs : ∀ o, (e.run tools rules files none).fault ≠ some (.observer o) := by
    intro o ho
    rcases run_cases e hr hf hopen none with ⟨-, hn, -⟩ | ⟨hsome, -⟩ | ⟨f, -, hfail⟩
    · rw [ho] at hn
      cases hn
    · cases hsome
    · rw [ho] at hfail
      cases hfail
  rcases run_of_isCalm e none hr hf hopen hcalm hobs with ⟨hall, hok⟩ | ⟨x, hx, herr⟩
  · exact .inl ⟨(isTold_trials_iff hc hopen).1 hall, hok⟩
  · refine .inr ⟨fun hall => ?_, x, ?_, herr⟩
    · obtain ⟨t, ht, hn⟩ := exists_untold_iff.1 ⟨x, hx⟩
      rw [(isTold_trials_iff hc hopen).2 hall t ht] at hn
      cases hn
    · rw [firstUntold, ← Visit.findSome?_untold?_history hc hopen Report.empty]
      exact hx

/-- The messages of a file at the end of a run of confined rules. -/
theorem messages_conclude_of_confined (hc : ∀ rule ∈ rules, rule.isConfined = true)
    (hopen : ∀ p ∈ files, (tools.open? p).isSome) (hn : files.Nodup) {path : String}
    (hp : path ∈ files) {o : Opening} (ho : tools.open? path = some o) :
    (Visit.conclude Report.empty (visits tools rules files)).messages path =
      o.messages rules path := by
  rw [visits, Visit.messages_conclude, Visit.flatMap_messages_history hc hopen hn hp ho]
  rfl

/-- The run of one confined rule on one accepted file leaves what the rule finds on it. -/
theorem run_alone (e : Engine) {rule : Rule} (hc : rule.isConfined = true) {path : String}
    {verdict : Verdict} {file : TokenFile}
    (ho : tools.open? path = some (.accepted verdict file)) (htold : rule.isTellable file = true) :
    ∃ report, (e.run tools [rule] [path] none).result = .ok report ∧
      report.messages path = rule.findings file := by
  have hc' : ∀ r ∈ [rule], r.isConfined = true := by simpa using hc
  have hopen : ∀ p ∈ [path], (tools.open? p).isSome := by simp [ho]
  have hall : AllTellable tools [rule] [path] := by
    intro p hp v g hg r hr
    rw [List.mem_singleton] at hp hr
    subst hp hr
    rw [ho, Option.some.injEq, Opening.accepted.injEq] at hg
    rwa [← hg.2]
  rcases run_of_confined e (by simp) (by simp) hc' hopen with ⟨-, hok⟩ | ⟨hnot, -⟩
  · refine ⟨_, hok, ?_⟩
    rw [messages_conclude_of_confined hc' hopen (by simp) List.mem_cons_self ho]
    simp only [Opening.messages, List.flatMap_cons, List.flatMap_nil, List.append_nil]
  · exact absurd hall hnot

/-- For confined rules and distinct files that come to the rules: the run gives a report exactly
when every failure of a rule on an accepted file can be told, and ends with what the first one that
cannot be told raises otherwise. The files of the report are the given ones, in order. The messages
of an accepted file are, one rule after the other, those of the run of this rule alone on this file
alone, and a file that is not accepted has one message, that of the syntax check. -/
theorem run_report_eq_product (e : Engine) (tools : Tools) (rules : List Rule)
    (files : List String) (hr : rules ≠ []) (hf : files ≠ [])
    (hc : ∀ rule ∈ rules, rule.isConfined = true) (hn : files.Nodup)
    (hopen : ∀ p ∈ files, (tools.open? p).isSome) :
    let run := e.run tools rules files none
    ((∃ report, run.result = .ok report) ↔ AllTellable tools rules files) ∧
      (¬ AllTellable tools rules files → ∃ x, firstUntold tools rules files = some x ∧
        run.result = .error (.failure (.raised x))) ∧
      ∀ report, run.result = .ok report →
        report.files = files ∧
        ∀ p ∈ files, ∀ verdict, tools.lint p = .ok verdict →
          (verdict.passed = true → ∃ alone : Rule → Report,
            (∀ rule ∈ rules, (e.run tools [rule] [p] none).result = .ok (alone rule)) ∧
            report.messages p = rules.flatMap fun rule => (alone rule).messages p) ∧
          (verdict.passed = false →
            report.messages p = [Message.lint p verdict.complaint]) := by
  intro run
  rcases run_of_confined e hr hf hc hopen with ⟨hall, hok⟩ | ⟨hnot, x, hx, herr⟩
  · refine ⟨⟨fun _ => hall, fun _ => ⟨_, hok⟩⟩, fun hnot => absurd hall hnot, ?_⟩
    intro report hreport
    obtain rfl := Except.ok.inj (hok.symm.trans hreport)
    refine ⟨?_, fun p hp verdict hl => ?_⟩
    · rw [visits, Visit.files_conclude hc hopen hn fun p _ => by simp]
      rfl
    · obtain ⟨o, ho⟩ := Option.isSome_iff_exists.1 (hopen p hp)
      have hmessages := messages_conclude_of_confined hc hopen hn hp ho
      cases o with
      | rejected v =>
        obtain ⟨hv, hfailed⟩ := Tools.open?_eq_rejected ho
        obtain rfl := Except.ok.inj (hv.symm.trans hl)
        exact ⟨fun hpassed => (by rw [hfailed] at hpassed; cases hpassed), fun _ => hmessages⟩
      | accepted v file =>
        obtain ⟨hv, hpassed, -⟩ := Tools.open?_eq_accepted ho
        obtain rfl := Except.ok.inj (hv.symm.trans hl)
        refine ⟨fun _ => ?_, fun hfailed => (by rw [hpassed] at hfailed; cases hfailed)⟩
        have single : ∀ rule ∈ rules, ∃ report,
            (e.run tools [rule] [p] none).result = .ok report ∧
              report.messages p = rule.findings file :=
          fun rule hrule => run_alone e (hc rule hrule) ho (hall p hp v file ho rule hrule)
        refine ⟨fun rule => (e.run tools [rule] [p] none).state.report, fun rule hrule => ?_, ?_⟩
        · obtain ⟨s, hs, -⟩ := single rule hrule
          simp only [hs, (Run.result_eq_ok_iff.1 hs).2]
        · rw [hmessages, Opening.messages, List.flatMap_def, List.flatMap_def]
          refine congrArg _ (List.map_congr_left fun rule hrule => ?_)
          obtain ⟨s, hs, hfound⟩ := single rule hrule
          simp only [(Run.result_eq_ok_iff.1 hs).2, hfound]
  · refine ⟨⟨?_, fun hall => absurd hall hnot⟩, fun _ => ⟨x, hx, herr⟩, fun report hreport => ?_⟩
    · rintro ⟨report, hreport⟩
      cases herr.symm.trans hreport
    · cases herr.symm.trans hreport

/-- A built-in rule, a rule that warns, sends the cursor away and raises, and one that drains the
file. -/
def restlessRules : List Rule :=
  [.builtin .trailingWhitespace,
   .script {
      style := .token
      name := some (.text "rulecheck.rules.restless")
      steps := [.warn "seen" .next, .seek (-1), .raise (Raised.make "KeyError" [.text "boom"])] },
   .script {
      style := .plain
      name := none
      steps := [.drain, .state] }]

theorem run_report_eq_product_of_restless :
    ∃ report, (({} : Engine).run sampleTools restlessRules ["a.py", "b.py"] none).result =
        .ok report ∧ report.files = ["a.py", "b.py"] ∧
      report.messages "b.py" = [Message.lint "b.py" (Verdict.complaint { passed := false })] := by
  have quiet : (({} : Engine).run sampleTools restlessRules ["a.py", "b.py"] none).fault.isNone =
      true := by decide +kernel
  obtain ⟨-, -, hreport⟩ := run_report_eq_product {} sampleTools restlessRules ["a.py", "b.py"]
    (by decide) (by decide) (by decide) (by decide) (by decide +kernel)
  have hok := Run.result_eq_ok_iff.2 ⟨Option.isNone_iff_eq_none.1 quiet, rfl⟩
  obtain ⟨hfiles, hmessages⟩ := hreport _ hok
  exact ⟨_, hok, hfiles, (hmessages "b.py" (by decide) _ rfl).2 rfl⟩

/-- The two rules are confined and the file comes to them, yet there is no report, because the
failure of the first cannot be told. -/
theorem untold_failure_hides_other_rules :
    (∀ rule ∈ [untoldRule, .builtin .bareExcept], rule.isConfined = true) ∧
      (∀ p ∈ ["a.py"], (sampleTools.open? p).isSome = true) ∧
      ¬ ∃ report, (({} : Engine).run sampleTools [untoldRule, .builtin .bareExcept] ["a.py"]
        none).result = .ok report := by
  refine ⟨by decide, by decide +kernel, ?_⟩
  rintro ⟨report, hok⟩
  have failed : (({} : Engine).run sampleTools [untoldRule, .builtin .bareExcept] ["a.py"]
      none).fault.isSome = true := by decide +kernel
  rw [(Run.result_eq_ok_iff.1 hok).1] at failed
  cases failed

end Engine

end SourceAudit
