import SourceAudit.Engine
import SourceAudit.Proofs.Growth

/-!
# The history of a run

A run is a list of visits, one for each file in the order the files are given. A visit of a file
that is not accepted adds one message; a visit of an accepted file tries every rule on it, each
from the report that the one before left. A trial adds what the rule adds and, when the rule fails,
one message about the failure behind it.

* `Engine.dispatch_eq`: a trial ends the run exactly when its failure interrupts the program or the
  message about it cannot be made; otherwise the report is `Trial.after`. That message can always be
  added, because a check never takes the file out of the report.
* `Engine.exists_outcome`: what processing a file comes to, case by case. All that is proved about
  single files rests on it.
* `Engine.analyzeFiles_cases`: a run that the observer does not end is ended by the first trial that
  ends a run, or else its report is that of the whole history.
* `Visit.messages_conclude`: the messages of every file are those of the visits, in order.
-/

namespace SourceAudit

open Report

/-! ## Files -/

/-- How a file comes to the rules. -/
inductive Opening where
  | rejected (verdict : Verdict)
  | accepted (verdict : Verdict) (file : TokenFile)

namespace Tools

/-- How a file comes to the rules; it does not when the syntax check gives no verdict, or when an
accepted file cannot be read or has no tokens. -/
def open? (tools : Tools) (path : String) : Option Opening :=
  match tools.lint path with
  | .error _ => none
  | .ok verdict =>
    if verdict.passed then
      match tools.read path with
      | .error _ => none
      | .ok source =>
        match TokenFile.ofSource path source with
        | .error _ => none
        | .ok file => some (.accepted verdict file)
    else some (.rejected verdict)

variable {tools : Tools} {path : String}

theorem open?_eq_rejected {verdict : Verdict} (h : tools.open? path = some (.rejected verdict)) :
    tools.lint path = .ok verdict ∧ verdict.passed = false := by
  unfold open? at h
  split at h
  · cases h
  · rename_i v hv
    split at h
    · split at h
      · cases h
      · split at h <;> cases h
    · rename_i hp
      cases h
      exact ⟨hv, by simpa using hp⟩

theorem open?_eq_accepted {verdict : Verdict} {file : TokenFile}
    (h : tools.open? path = some (.accepted verdict file)) :
    tools.lint path = .ok verdict ∧ verdict.passed = true ∧
      ∃ source, tools.read path = .ok source ∧ TokenFile.ofSource path source = .ok file := by
  unfold open? at h
  split at h
  · cases h
  · rename_i v hv
    split at h
    · rename_i hp
      split at h
      · cases h
      · rename_i source hs
        split at h
        · cases h
        · rename_i g hg
          cases h
          exact ⟨hv, hp, source, hs, hg⟩
    · cases h

theorem path_of_accepted {verdict : Verdict} {file : TokenFile}
    (h : tools.open? path = some (.accepted verdict file)) : file.path = path := by
  obtain ⟨-, -, source, -, hf⟩ := open?_eq_accepted h
  unfold TokenFile.ofSource at hf
  split at hf <;> cases hf
  rfl

end Tools

/-! ## Trials -/

/-- One start of a rule on a file, with the rule and the report as they were before it. -/
structure Trial where
  rule : Rule
  file : TokenFile
  before : Report

namespace Trial

/-- What the check leaves behind. -/
def done (t : Trial) : Checked :=
  t.rule.check t.file.rewind t.before

/-- The message about the failure of the check, if it fails. -/
def complaint (t : Trial) : Option Message :=
  t.done.failure.map (Engine.failureMessage t.file.path t.rule.reportName)

/-- The report afterwards. -/
def after (t : Trial) : Report :=
  t.done.report.pushAll t.complaint.toList

/-- What raises when the message about the failure of the check is made. -/
def untold? (t : Trial) : Option Raised :=
  t.done.failure.bind (Engine.untold? t.rule.reportName)

/-- The failure by which the trial ends the run: one that interrupts the program, or what raises
when the message about it is made. -/
def ending? (t : Trial) : Option Failure :=
  t.done.failure.bind fun f =>
    if f.interrupts then some f else (Engine.untold? t.rule.reportName f).map .raised

/-- The messages that the trial adds to a file: those of the check, then that about its failure. -/
def messages (t : Trial) (path : String) : List Message :=
  t.before.gained t.done.report path ++ if path = t.file.path then t.complaint.toList else []

/-- What the engine does during a trial that does not end the run. -/
def actions (t : Trial) : List Action :=
  .dispatched t.file.path t.rule.reportName 0 ::
    t.done.failure.toList.map fun f => .failed t.file.path t.rule.reportName f.message

/-- The trials of rules on one file. -/
def each (file : TokenFile) (r : Report) : List Rule → List Trial
  | [] => []
  | rule :: rules => ⟨rule, file, r⟩ :: each file (after ⟨rule, file, r⟩) rules

/-- The report after trials that began with the report `r`. -/
def conclude (r : Report) (ts : List Trial) : Report :=
  ts.foldl (fun _ t => t.after) r

@[simp] theorem conclude_nil (r : Report) : conclude r [] = r := rfl

@[simp] theorem conclude_cons (r : Report) (t : Trial) (ts : List Trial) :
    conclude r (t :: ts) = conclude t.after ts := rfl

theorem path_of_complaint {t : Trial} {m : Message} (h : t.complaint = some m) :
    m.path = t.file.path := by
  obtain ⟨f, -, rfl⟩ := Option.map_eq_some_iff.1 h
  rfl

theorem grows_done (t : Trial) : t.before.Grows t.done.report :=
  t.rule.check_grows _ _

/-- The file of a trial is in the report when its check is over, so a message about it can be
added. -/
theorem mem_files_done {t : Trial} (h : t.file.path ∈ t.before.files) :
    t.file.path ∈ t.done.report.files :=
  t.grows_done.mem h

theorem files_after (t : Trial) : t.after.files = t.done.report.files :=
  files_pushAll _ _

theorem mem_files_after {t : Trial} (h : t.file.path ∈ t.before.files) :
    t.file.path ∈ t.after.files := by
  rw [files_after]
  exact mem_files_done h

theorem grows (t : Trial) : t.before.Grows t.after := by
  refine t.grows_done.trans ?_
  unfold after
  cases t.complaint with
  | none => exact Grows.refl _
  | some m => exact Grows.push _ m

theorem messages_after {t : Trial} (h : t.file.path ∈ t.before.files) (path : String) :
    t.after.messages path = t.before.messages path ++ t.messages path := by
  have checked := t.grows_done.messages_eq path
  unfold after messages
  cases hc : t.complaint with
  | none => simpa using checked
  | some m =>
    have hm := path_of_complaint hc
    simp only [Option.toList_some, pushAll_cons, pushAll_nil, messages_push, hm]
    by_cases hq : path = t.file.path
    · subst hq
      simp only [mem_files_done h, and_self, if_true, checked, List.append_assoc]
    · simp only [hq, false_and, if_false, checked, List.append_nil]

theorem file_of_mem_each {file : TokenFile} {rules : List Rule} {r : Report} {t : Trial}
    (h : t ∈ each file r rules) : t.file = file := by
  induction rules generalizing r with
  | nil => cases h
  | cons rule rules ih =>
    rcases List.mem_cons.1 h with rfl | h
    · rfl
    · exact ih h

theorem mem_before_of_mem_each {file : TokenFile} {rules : List Rule} {r : Report} {t : Trial}
    (hr : file.path ∈ r.files) (h : t ∈ each file r rules) : t.file.path ∈ t.before.files := by
  induction rules generalizing r with
  | nil => cases h
  | cons rule rules ih =>
    rcases List.mem_cons.1 h with rfl | h
    · exact hr
    · exact ih (mem_files_after (t := ⟨rule, file, r⟩) hr) h

theorem length_each (file : TokenFile) (rules : List Rule) (r : Report) :
    (each file r rules).length = rules.length := by
  induction rules generalizing r with
  | nil => rfl
  | cons rule rules ih => simp [each, ih]

theorem grows_each (file : TokenFile) (rules : List Rule) (r : Report) :
    r.Grows (conclude r (each file r rules)) := by
  induction rules generalizing r with
  | nil => exact Grows.refl r
  | cons rule rules ih => exact (grows ⟨rule, file, r⟩).trans (ih _)

/-- Trials on one file add to every file what each of them adds, in order. -/
theorem messages_conclude_each {file : TokenFile} {rules : List Rule} {r : Report}
    (hr : file.path ∈ r.files) (path : String) :
    (conclude r (each file r rules)).messages path =
      r.messages path ++ (each file r rules).flatMap (·.messages path) := by
  induction rules generalizing r with
  | nil => simp [each]
  | cons rule rules ih =>
    have hr' : file.path ∈ (after ⟨rule, file, r⟩).files :=
      mem_files_after (t := ⟨rule, file, r⟩) hr
    rw [each, conclude_cons, ih hr', messages_after (t := ⟨rule, file, r⟩) hr, List.flatMap_cons,
      List.append_assoc]

end Trial

namespace Engine

/-! ## Dispatching -/

/-- Starting a rule is noted, and its failure when that can be told; nothing else is. -/
theorem actions_dispatch (rule : Rule) (file : TokenFile) (r : Report) :
    ∃ failures : List String, (dispatch rule file r).actions =
      .dispatched file.path rule.reportName 0 ::
        failures.map (.failed file.path rule.reportName) := by
  unfold dispatch
  simp only
  split
  · exact ⟨[], rfl⟩
  · rename_i f failed
    split
    · exact ⟨[], rfl⟩
    · split
      · exact ⟨[], rfl⟩
      · split <;> exact ⟨[f.message], rfl⟩

/-- What neither starts of rules nor their failures show cannot be seen of a sweep. -/
theorem filterMap_sweep {α : Type} {show? : Action → Option α}
    (dispatched : ∀ path rule cursor, show? (.dispatched path rule cursor) = none)
    (failed : ∀ path rule text, show? (.failed path rule text) = none)
    (file : TokenFile) (rules : List Rule) (r : Report) :
    (sweep file r rules).actions.filterMap show? = [] := by
  induction rules generalizing r with
  | nil => rfl
  | cons rule rules ih =>
    obtain ⟨failures, actions⟩ := actions_dispatch rule file r
    have first : (dispatch rule file r).actions.filterMap show? = [] := by
      simp [actions, dispatched, failed, List.filterMap_eq_nil_iff]
    simp only [sweep]
    split
    · exact first
    · rw [List.filterMap_append, first, ih, List.append_nil]

/-- Everything that starting a rule does, for a file that is in the report. -/
theorem dispatch_eq (rule : Rule) {file : TokenFile} {r : Report} (h : file.path ∈ r.files) :
    let t : Trial := ⟨rule, file, r⟩
    dispatch rule file r =
      match t.ending? with
      | none => ⟨t.done.session.rule, t.after, t.actions, none⟩
      | some f => ⟨t.done.session.rule, t.done.report, [.dispatched file.path rule.reportName 0],
          some f⟩ := by
  intro t
  have hd : rule.check file.rewind r = t.done := rfl
  have hm : ∀ f, t.done.report.addMessage (failureMessage file.path rule.reportName f) =
      .ok (t.done.report.push (failureMessage file.path rule.reportName f)) :=
    fun f => addMessage_of_mem (Trial.mem_files_done (t := t) h)
  simp only [dispatch, hd]
  cases hf : t.done.failure with
  | none =>
    simp only [Trial.ending?, Trial.after, Trial.complaint, Trial.actions, hf, Option.bind_none,
      Option.map_none, Option.toList_none, pushAll_nil, List.map_nil]
    rfl
  | some f =>
    by_cases hi : f.interrupts = true
    · simp only [Trial.ending?, hf, Option.bind_some, hi, if_true]
      rfl
    · have same : t.rule.reportName = rule.reportName := rfl
      cases ht : untold? rule.reportName f with
      | none =>
        simp only [Trial.ending?, Trial.after, Trial.complaint, Trial.actions, hf, hi, ht, hm, same,
          Option.bind_some, Option.map_some, Option.map_none, Option.toList_some, if_false,
          Bool.false_eq_true, pushAll_cons, pushAll_nil, List.map_cons, List.map_nil]
        rfl
      | some e =>
        simp only [Trial.ending?, hf, hi, ht, same, Option.bind_some, Option.map_some, if_false,
          Bool.false_eq_true]
        rfl

/-- A sweep ends with the first trial that ends a run; without one, every trial is made and the
report is that after the last. -/
theorem sweep_eq {file : TokenFile} (rules : List Rule) {r : Report} (h : file.path ∈ r.files) :
    (sweep file r rules).fault = (Trial.each file r rules).findSome? Trial.ending? ∧
      ((∀ t ∈ Trial.each file r rules, t.ending? = none) →
        sweep file r rules =
          ⟨(Trial.each file r rules).map (·.done.session.rule),
            Trial.conclude r (Trial.each file r rules),
            (Trial.each file r rules).flatMap Trial.actions, none⟩) := by
  induction rules generalizing r with
  | nil => exact ⟨rfl, fun _ => rfl⟩
  | cons rule rules ih =>
    have first := dispatch_eq rule h
    have later := ih (Trial.mem_files_after (t := ⟨rule, file, r⟩) h)
    cases he : (Trial.ending? ⟨rule, file, r⟩) with
    | some f =>
      simp only [he] at first
      refine ⟨?_, fun hall => ?_⟩
      · simp only [sweep, first, Trial.each, List.findSome?_cons, he]
      · rw [hall _ List.mem_cons_self] at he
        cases he
    | none =>
      simp only [he] at first
      refine ⟨?_, fun hall => ?_⟩
      · simp only [sweep, first, Trial.each, List.findSome?_cons, he, later.1]
      · have rest := later.2 fun t ht => hall t (List.mem_cons_of_mem _ ht)
        simp only [sweep, first, rest, Trial.each, List.map_cons, List.flatMap_cons,
          Trial.conclude_cons]

end Engine

/-! ## Visits -/

/-- The visit of one file, with the report and the rules as they were before it. -/
structure Visit where
  before : Report
  rules : List Rule
  path : String
  /-- How the file comes to the rules. -/
  opening : Opening

namespace Visit

/-- The trials of the rules; there are none on a file that is not accepted. -/
def trials (v : Visit) : List Trial :=
  match v.opening with
  | .rejected _ => []
  | .accepted _ file => Trial.each file (v.before.addFile v.path) v.rules

/-- The report afterwards. -/
def after (v : Visit) : Report :=
  match v.opening with
  | .rejected verdict => (v.before.addFile v.path).push (Message.lint v.path verdict.complaint)
  | .accepted .. => Trial.conclude (v.before.addFile v.path) v.trials

/-- The rules afterwards. -/
def rulesAfter (v : Visit) : List Rule :=
  match v.opening with
  | .rejected _ => v.rules
  | .accepted .. => v.trials.map (·.done.session.rule)

/-- The failure by which the visit ends the run. -/
def ending? (v : Visit) : Option Failure :=
  v.trials.findSome? Trial.ending?

/-- The messages that the visit adds to a file. -/
def messages (v : Visit) (path : String) : List Message :=
  match v.opening with
  | .rejected verdict => if path = v.path then [Message.lint v.path verdict.complaint] else []
  | .accepted .. => v.trials.flatMap (·.messages path)

/-- What the engine does during a visit that does not end the run. -/
def actions (v : Visit) : List Action :=
  match v.opening with
  | .rejected verdict => [.linted v.path verdict]
  | .accepted verdict _ =>
    [.linted v.path verdict, .read v.path, .tokenized v.path] ++ v.trials.flatMap Trial.actions

/-- The report after visits that began with the report `r`. -/
def conclude (r : Report) (vs : List Visit) : Report :=
  vs.foldl (fun _ v => v.after) r

@[simp] theorem conclude_nil (r : Report) : conclude r [] = r := rfl

@[simp] theorem conclude_cons (r : Report) (v : Visit) (vs : List Visit) :
    conclude r (v :: vs) = conclude v.after vs := rfl

/-- The visits of files, up to the first that does not come to the rules. -/
def history (tools : Tools) (r : Report) (rules : List Rule) : List String → List Visit
  | [] => []
  | path :: paths =>
    match tools.open? path with
    | none => []
    | some o =>
      let v : Visit := ⟨r, rules, path, o⟩
      v :: history tools v.after v.rulesAfter paths

theorem ending?_eq_none_iff {v : Visit} :
    v.ending? = none ↔ ∀ t ∈ v.trials, t.ending? = none := by
  rw [ending?, List.findSome?_eq_none_iff]

/-- The first visit that ends a run ends it by its first trial that does. -/
theorem findSome?_ending? (vs : List Visit) :
    (vs.flatMap trials).findSome? Trial.ending? = vs.findSome? ending? := by
  induction vs with
  | nil => rfl
  | cons v vs ih =>
    rw [List.flatMap_cons, List.findSome?_append, ih, List.findSome?_cons, ← ending?]
    cases v.ending? <;> rfl

variable {tools : Tools}

theorem grows (v : Visit) : v.before.Grows v.after := by
  refine (Grows.addFile v.before v.path).trans ?_
  unfold after trials
  split
  · exact Grows.push _ _
  · exact Trial.grows_each _ _ _

theorem mem_files_after (v : Visit) : v.path ∈ v.after.files := by
  have hp : v.path ∈ (v.before.addFile v.path).files := mem_files_addFile.2 (.inr rfl)
  unfold after trials
  split
  · rwa [files_push]
  · exact (Trial.grows_each _ _ _).mem hp

/-- A visit adds to every file the messages that belong to it. -/
theorem messages_after {v : Visit} (h : tools.open? v.path = some v.opening) (q : String) :
    v.after.messages q = v.before.messages q ++ v.messages q := by
  obtain ⟨r, rules, path, o⟩ := v
  have hp : path ∈ (r.addFile path).files := mem_files_addFile.2 (.inr rfl)
  cases o with
  | rejected verdict =>
    have hm : (Message.lint path verdict.complaint).path = path := rfl
    simp only [after, messages, messages_push, hm, messages_addFile]
    by_cases hq : q = path
    · subst hq
      simp [hp]
    · simp [hq]
  | accepted verdict file =>
    have hfile : file.path ∈ (r.addFile path).files := by rwa [Tools.path_of_accepted h]
    simp only [after, messages, trials, Trial.messages_conclude_each hfile, messages_addFile]

/-- The visits of a history are those of the files, each opened as the tools do. -/
theorem open?_of_mem_history {files : List String} {r : Report} {rules : List Rule} {v : Visit}
    (h : v ∈ history tools r rules files) : tools.open? v.path = some v.opening := by
  induction files generalizing r rules with
  | nil => cases h
  | cons path paths ih =>
    unfold history at h
    split at h
    · cases h
    · rename_i o ho
      rcases List.mem_cons.1 h with rfl | h
      · exact ho
      · exact ih h

theorem path_mem_of_mem_history {files : List String} {r : Report} {rules : List Rule} {v : Visit}
    (h : v ∈ history tools r rules files) : v.path ∈ files := by
  induction files generalizing r rules with
  | nil => cases h
  | cons path paths ih =>
    unfold history at h
    split at h
    · cases h
    · rcases List.mem_cons.1 h with rfl | h
      · exact List.mem_cons_self
      · exact List.mem_cons_of_mem _ (ih h)

theorem map_path_history {files : List String} (hopen : ∀ p ∈ files, (tools.open? p).isSome)
    (r : Report) (rules : List Rule) : (history tools r rules files).map Visit.path = files := by
  induction files generalizing r rules with
  | nil => rfl
  | cons path paths ih =>
    obtain ⟨o, ho⟩ := Option.isSome_iff_exists.1 (hopen path List.mem_cons_self)
    simp only [history, ho, List.map_cons]
    rw [ih fun p hp => hopen p (List.mem_cons_of_mem _ hp)]

theorem length_rulesAfter (v : Visit) : v.rulesAfter.length = v.rules.length := by
  unfold rulesAfter trials
  split
  · rfl
  · rw [List.length_map, Trial.length_each]

theorem length_rules_of_mem_history {files : List String} {r : Report} {rules : List Rule}
    {v : Visit} (h : v ∈ history tools r rules files) : v.rules.length = rules.length := by
  induction files generalizing r rules with
  | nil => cases h
  | cons path paths ih =>
    unfold history at h
    split at h
    · cases h
    · rcases List.mem_cons.1 h with rfl | h
      · rfl
      · exact (ih h).trans (length_rulesAfter _)

/-- The messages of every file are those of the visits, in order. -/
theorem messages_conclude (files : List String) (r : Report) (rules : List Rule) (q : String) :
    (conclude r (history tools r rules files)).messages q =
      r.messages q ++ (history tools r rules files).flatMap (·.messages q) := by
  induction files generalizing r rules with
  | nil => simp [history]
  | cons path paths ih =>
    cases ho : tools.open? path with
    | none => simp [history, ho]
    | some o =>
      have first := messages_after (v := ⟨r, rules, path, o⟩) ho q
      simp only [history, ho, conclude_cons, ih, first, List.flatMap_cons, List.append_assoc]

theorem grows_conclude (files : List String) (r : Report) (rules : List Rule) :
    r.Grows (conclude r (history tools r rules files)) := by
  induction files generalizing r rules with
  | nil => exact Grows.refl r
  | cons path paths ih =>
    cases ho : tools.open? path with
    | none => simpa [history, ho] using Grows.refl r
    | some o =>
      simp only [history, ho, conclude_cons]
      exact (grows ⟨r, rules, path, o⟩).trans (ih _ _)

/-- Every file that comes to the rules is in the report at the end. -/
theorem mem_files_conclude {files : List String} (hopen : ∀ p ∈ files, (tools.open? p).isSome)
    (r : Report) (rules : List Rule) {path : String} (hp : path ∈ files) :
    path ∈ (conclude r (history tools r rules files)).files := by
  induction files generalizing r rules with
  | nil => cases hp
  | cons first paths ih =>
    obtain ⟨o, ho⟩ := Option.isSome_iff_exists.1 (hopen first List.mem_cons_self)
    simp only [history, ho, conclude_cons]
    rcases List.mem_cons.1 hp with rfl | hp
    · exact (grows_conclude paths _ _).mem (mem_files_after ⟨r, rules, path, o⟩)
    · exact ih (fun p hp => hopen p (List.mem_cons_of_mem _ hp)) _ _ hp

end Visit

/-! ## Runs -/

theorem Run.result_eq_ok_iff {run : Run} {report : Report} :
    run.result = .ok report ↔ run.fault = none ∧ run.state.report = report := by
  unfold Run.result
  split
  · rename_i h
    rw [h, Except.ok.injEq, and_iff_right rfl]
  · rename_i f h
    rw [h]
    simp

namespace Engine

variable {tools : Tools}

/-- What processing a file comes to, up to the observer: the report and the rules afterwards, what
was done, and the fault that ends the run, if there is one. -/
inductive Outcome (tools : Tools) (path : String) (r : Report) (rules : List Rule) :
    Report → List Rule → List Action → Option Fault → Prop
  | unjudged {f : Fault} (judged : tools.lint path = .error f) :
    Outcome tools path r rules (r.addFile path) rules [.unjudged path] (some f)
  | rejected {verdict : Verdict} (opened : tools.open? path = some (.rejected verdict)) :
    Outcome tools path r rules ((r.addFile path).push (Message.lint path verdict.complaint)) rules
      [.linted path verdict] none
  | unread {verdict : Verdict} {e : SourceError} (judged : tools.lint path = .ok verdict)
      (passed : verdict.passed = true) (failed : tools.read path = .error e) :
    Outcome tools path r rules (r.addFile path) rules [.linted path verdict, .read path]
      (some (.source e))
  | uncut {verdict : Verdict} {source : String} {e : LexError}
      (judged : tools.lint path = .ok verdict) (passed : verdict.passed = true)
      (read : tools.read path = .ok source)
      (failed : TokenFile.ofSource path source = .error e) :
    Outcome tools path r rules (r.addFile path) rules
      [.linted path verdict, .read path, .tokenized path] (some (.lexical e))
  | swept {verdict : Verdict} {file : TokenFile}
      (opened : tools.open? path = some (.accepted verdict file)) :
    Outcome tools path r rules (sweep file (r.addFile path) rules).report
      (sweep file (r.addFile path) rules).rules
      ([.linted path verdict, .read path, .tokenized path] ++
        (sweep file (r.addFile path) rules).actions)
      ((sweep file (r.addFile path) rules).fault.map .failure)

/-- What is done to a file depends on the report and the rules alone, and changes nothing else. -/
theorem exists_outcome (tools : Tools) (path : String) (r : Report) (rules : List Rule) :
    ∃ r' rules' did fault, Outcome tools path r rules r' rules' did fault ∧
      ∀ p : RunState, p.report = r → p.rules = rules → analyzeFile tools p path =
        ({ p with report := r', rules := rules' }.note did, fault) := by
  cases judged : tools.lint path with
  | error f =>
    refine ⟨_, _, _, _, .unjudged judged, ?_⟩
    rintro p rfl rfl
    simp only [analyzeFile, judged]
  | ok verdict =>
    cases passed : verdict.passed with
    | false =>
      have opened : tools.open? path = some (.rejected verdict) := by
        simp [Tools.open?, judged, passed]
      have added : (r.addFile path).addMessage (Message.lint path verdict.complaint) =
          .ok ((r.addFile path).push (Message.lint path verdict.complaint)) :=
        addMessage_of_mem (mem_files_addFile.2 (.inr rfl))
      refine ⟨_, _, _, _, .rejected opened, ?_⟩
      rintro p rfl rfl
      simp [analyzeFile, judged, passed, added, RunState.note]
    | true =>
      cases text : tools.read path with
      | error e =>
        refine ⟨_, _, _, _, .unread judged passed text, ?_⟩
        rintro p rfl rfl
        simp [analyzeFile, judged, passed, text, RunState.note]
      | ok source =>
        cases cut : TokenFile.ofSource path source with
        | error e =>
          refine ⟨_, _, _, _, .uncut judged passed text cut, ?_⟩
          rintro p rfl rfl
          simp [analyzeFile, judged, passed, text, cut, RunState.note]
        | ok file =>
          have opened : tools.open? path = some (.accepted verdict file) := by
            simp [Tools.open?, judged, passed, text, cut]
          refine ⟨_, _, _, _, .swept opened, ?_⟩
          rintro p rfl rfl
          simp [analyzeFile, judged, passed, text, cut, RunState.note]

/-- Everything that processing a file does, up to the observer, for a file that comes to the
rules. -/
theorem analyzeFile_eq {path : String} {o : Opening} (h : tools.open? path = some o)
    (p : RunState) :
    let v : Visit := ⟨p.report, p.rules, path, o⟩
    (analyzeFile tools p path).2 = v.ending?.map .failure ∧
      (v.ending? = none → analyzeFile tools p path =
        ({ p with report := v.after, rules := v.rulesAfter, actions := p.actions ++ v.actions },
          none)) := by
  intro v
  obtain ⟨r, rules, did, fault, outcome, done⟩ := exists_outcome tools path p.report p.rules
  rw [done p rfl rfl]
  cases outcome with
  | unjudged judged => simp [Tools.open?, judged] at h
  | unread judged passed failed => simp [Tools.open?, judged, passed, failed] at h
  | uncut judged passed read failed => simp [Tools.open?, judged, passed, read, failed] at h
  | rejected opened =>
    cases opened.symm.trans h
    exact ⟨rfl, fun _ => rfl⟩
  | @swept verdict file opened =>
    cases opened.symm.trans h
    have own : file.path ∈ (p.report.addFile path).files := by
      rw [Tools.path_of_accepted opened]
      exact mem_files_addFile.2 (.inr rfl)
    obtain ⟨ended, swept⟩ := sweep_eq p.rules own
    refine ⟨by rw [ended]; rfl, fun quiet => ?_⟩
    rw [swept (Visit.ending?_eq_none_iff.1 quiet)]
    rfl

@[simp] theorem report_tell (p : RunState) (n : Notice) : (tell p n).1.report = p.report := by
  unfold tell
  split <;> rfl

@[simp] theorem rules_tell (p : RunState) (n : Notice) : (tell p n).1.rules = p.rules := by
  unfold tell
  split <;> rfl

@[simp] theorem isSome_observer_tell (p : RunState) (n : Notice) :
    (tell p n).1.observer.isSome = p.observer.isSome := by
  unfold tell
  split <;> rename_i h <;> simp [h, RunState.note]

/-- What a notice does not show cannot be seen of telling the observer. -/
theorem filterMap_tell {α : Type} {show? : Action → Option α}
    (notified : ∀ notice report, show? (.notified notice report) = none) (p : RunState)
    (n : Notice) : (tell p n).1.actions.filterMap show? = p.actions.filterMap show? := by
  unfold tell
  split
  · rfl
  · simp [RunState.note, notified]

theorem fault_tell {p : RunState} {n : Notice} {f : Fault} (h : (tell p n).2 = some f) :
    p.observer.isSome = true ∧ ∃ e, f = .observer e := by
  unfold tell at h
  split at h
  · cases h
  · rename_i ho
    obtain ⟨e, -, rfl⟩ := Option.map_eq_some_iff.1 h
    exact ⟨by rw [ho]; rfl, e, rfl⟩

/-- One round of the loop over the files: the file ends the run, or the observer does, or the run
goes on with the next file. -/
theorem analyzeFiles_cons (tools : Tools) (engine : Nat) (total : Int) (p : RunState)
    (path : String) (paths : List String) :
    let q := analyzeFile tools p path
    let u := tell q.1 ⟨path, engine, total⟩
    let out := analyzeFiles tools engine total p (path :: paths)
    (∃ f, q.2 = some f ∧ out = (q.1, some f)) ∨
      (q.2 = none ∧ ∃ f, u.2 = some f ∧ out = (u.1, some f)) ∨
      (q.2 = none ∧ u.2 = none ∧ out = analyzeFiles tools engine total u.1 paths) := by
  simp only [analyzeFiles]
  cases hq : analyzeFile tools p path with
  | mk q fault =>
    cases fault with
    | some f => exact .inl ⟨f, rfl, rfl⟩
    | none =>
      refine .inr ?_
      cases hu : tell q ⟨path, engine, total⟩ with
      | mk u fault =>
        cases fault with
        | some f => exact .inl ⟨rfl, f, rfl, by simp only [hu]⟩
        | none => exact .inr ⟨rfl, rfl, by simp only [hu]⟩

/-- A run over files that come to the rules ends in one of three ways: with the report of its
history, through the observer, or with the failure of the first trial that ends a run. -/
theorem analyzeFiles_cases {files : List String} (hopen : ∀ p ∈ files, (tools.open? p).isSome)
    (engine : Nat) (total : Int) (p : RunState) :
    let vs := Visit.history tools p.report p.rules files
    let out := analyzeFiles tools engine total p files
    (out.2 = none ∧ (∀ v ∈ vs, v.ending? = none) ∧ out.1.report = Visit.conclude p.report vs) ∨
      (p.observer.isSome = true ∧ ∃ e, out.2 = some (.observer e)) ∨
      (∃ f, out.2 = some (.failure f) ∧ vs.findSome? Visit.ending? = some f) := by
  -- The report and the rules are all that the next file sees of the files before it.
  induction files generalizing p with
  | nil => exact .inl ⟨rfl, by simp [Visit.history], rfl⟩
  | cons path paths ih =>
    obtain ⟨o, ho⟩ := Option.isSome_iff_exists.1 (hopen path List.mem_cons_self)
    obtain ⟨hfault, hdone⟩ := analyzeFile_eq ho p
    simp only [Visit.history, ho]
    rcases analyzeFiles_cons tools engine total p path paths with
      ⟨f, hf, hout⟩ | ⟨hnone, f, hf, hout⟩ | ⟨hnone, -, hout⟩
    · rw [hfault] at hf
      obtain ⟨x, hx, rfl⟩ := Option.map_eq_some_iff.1 hf
      refine .inr (.inr ⟨x, by rw [hout], ?_⟩)
      rw [List.findSome?_cons, hx]
    · obtain ⟨hobs, e, rfl⟩ := fault_tell hf
      rw [hfault, Option.map_eq_none_iff] at hnone
      rw [hdone hnone] at hobs
      exact .inr (.inl ⟨hobs, e, by rw [hout]⟩)
    · rw [hfault, Option.map_eq_none_iff] at hnone
      have rest := ih (fun p hp => hopen p (List.mem_cons_of_mem _ hp))
        (tell (analyzeFile tools p path).1 ⟨path, engine, total⟩).1
      rw [report_tell, rules_tell, isSome_observer_tell, hdone hnone] at rest
      rw [hdone hnone] at hout
      rw [hout]
      rcases rest with ⟨hn, hall, hlast⟩ | hobs | ⟨f, hf, hfirst⟩
      · exact .inl ⟨hn, List.forall_mem_cons.2 ⟨hnone, hall⟩, hlast⟩
      · exact .inr (.inl hobs)
      · exact .inr (.inr ⟨f, hf, by rw [List.findSome?_cons, hnone]; exact hfirst⟩)

/-- The visits of a run of rules on files. -/
def visits (tools : Tools) (rules : List Rule) (files : List String) : List Visit :=
  Visit.history tools Report.empty rules files

/-- The trials of a run of rules on files. -/
def trials (tools : Tools) (rules : List Rule) (files : List String) : List Trial :=
  (visits tools rules files).flatMap Visit.trials

theorem run_of_ne_nil (e : Engine) {rules : List Rule} {files : List String} (hr : rules ≠ [])
    (hf : files ≠ []) (observer : Option Observer) :
    e.run tools rules files observer =
      let out := analyzeFiles tools e.identity files.length { rules, observer } files
      ⟨{ e with numberOfFiles := files.length }, out.1, out.2⟩ := by
  simp only [run, List.isEmpty_eq_false_iff.2 hr, List.isEmpty_eq_false_iff.2 hf,
    Bool.false_eq_true, if_false]

/-- How a run over files that come to the rules ends. -/
theorem run_cases (e : Engine) {rules : List Rule} {files : List String} (hr : rules ≠ [])
    (hf : files ≠ []) (hopen : ∀ p ∈ files, (tools.open? p).isSome)
    (observer : Option Observer) :
    let run := e.run tools rules files observer
    ((∀ t ∈ trials tools rules files, t.ending? = none) ∧ run.fault = none ∧
        run.state.report = Visit.conclude Report.empty (visits tools rules files)) ∨
      (observer.isSome = true ∧ ∃ o, run.fault = some (.observer o)) ∨
      (∃ f, (trials tools rules files).findSome? Trial.ending? = some f ∧
        run.fault = some (.failure f)) := by
  rw [run_of_ne_nil e hr hf]
  rcases analyzeFiles_cases hopen e.identity files.length { rules, observer } with
    ⟨hn, hall, hreport⟩ | hobs | ⟨f, hfault, hfirst⟩
  · refine .inl ⟨fun t ht => ?_, hn, hreport⟩
    obtain ⟨v, hv, htv⟩ := List.mem_flatMap.1 ht
    exact Visit.ending?_eq_none_iff.1 (hall v hv) t htv
  · exact .inr (.inl hobs)
  · exact .inr (.inr ⟨f, (Visit.findSome?_ending? _).trans hfirst, hfault⟩)

end Engine

end SourceAudit
