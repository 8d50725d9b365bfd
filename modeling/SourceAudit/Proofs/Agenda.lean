import Mathlib.Data.List.Chain
import SourceAudit.Proofs.Isolation

/-!
# The order of what a run does

Before a run begins it is known what it will do, and in which order (`Engine.agenda`): for each
file the syntax check, then, unless the file is rejected, one reading, one cutting into tokens and
one start of every rule with the cursor at zero, and at last one call of the observer. A run that
no fault ends does all of this and nothing else; a run that ends early has done a first part of it,
and the last thing it did is where the fault comes from (`Engine.Aborts`). What stands in the
report when the observer is called is told by the visits of the run.

The agenda is kept by every piece of the engine, from one rule to all files, and the pieces are put
together by `Follows.append` and `Follows.stop`.
-/

namespace SourceAudit

open Report

/-- What an action is about, apart from what came of it. -/
inductive Moment where
  | lint (path : String)
  | read (path : String)
  | tokenize (path : String)
  | dispatch (path : String) (rule : Value) (cursor : Nat)
  | notify (notice : Notice)

namespace Action

def moment? : Action → Option Moment
  | .linted path _ | .unjudged path => some (.lint path)
  | .read path => some (.read path)
  | .tokenized path => some (.tokenize path)
  | .dispatched path rule cursor => some (.dispatch path rule cursor)
  | .notified notice _ => some (.notify notice)
  | .failed .. | .finished _ => none

/-- What the observer was told, with the report as it was then. -/
def notice? : Action → Option (Notice × Report)
  | .notified notice report => some (notice, report)
  | _ => none

end Action

namespace RunState

/-- What has been done, in order. -/
def moments (p : RunState) : List Moment :=
  p.actions.filterMap Action.moment?

/-- What the observer has been told, in order. -/
def notices (p : RunState) : List (Notice × Report) :=
  p.actions.filterMap Action.notice?

theorem notices_note (p : RunState) (actions : List Action) :
    (p.note actions).notices = p.notices ++ actions.filterMap Action.notice? := by
  rw [notices, note, List.filterMap_append]
  rfl

end RunState

/-! ## Parts of a plan -/

/-- What is done of a plan: everything, or a first part whose last moment is where the fault comes
from. -/
def Follows (aborts : Moment → Fault → Prop) (done plan : List Moment) : Option Fault → Prop
  | none => done = plan
  | some f => done <+: plan ∧ ∃ before last, done = before ++ [last] ∧ aborts last f

namespace Follows

variable {aborts : Moment → Fault → Prop} {done plan : List Moment} {fault : Option Fault}

theorem append {more rest : List Moment} (first : Follows aborts done plan none)
    (second : Follows aborts more rest fault) :
    Follows aborts (done ++ more) (plan ++ rest) fault := by
  have same : done = plan := first
  subst same
  cases fault with
  | none =>
    have same : more = rest := second
    rw [same]
    rfl
  | some f =>
    obtain ⟨part, before, last, rfl, ended⟩ := second
    refine ⟨(List.prefix_append_right_inj done).2 part, done ++ before, last, ?_, ended⟩
    rw [List.append_assoc]

theorem prepend (start : List Moment) (next : Follows aborts done plan fault) :
    Follows aborts (start ++ done) (start ++ plan) fault := by
  have first : Follows aborts start start none := rfl
  exact first.append next

theorem stop {f : Fault} (first : Follows aborts done plan (some f)) (rest : List Moment) :
    Follows aborts done (plan ++ rest) (some f) :=
  ⟨first.1.trans (List.prefix_append plan rest), first.2⟩

theorem last {last : Moment} {f : Fault} (ended : aborts last f) (before rest : List Moment) :
    Follows aborts (before ++ [last]) (before ++ last :: rest) (some f) := by
  refine ⟨?_, before, last, rfl, ended⟩
  rw [List.append_cons before last rest]
  exact List.prefix_append _ _

theorem mono {others : Moment → Fault → Prop} (h : Follows aborts done plan fault)
    (weaker : ∀ m f, aborts m f → others m f) : Follows others done plan fault := by
  cases fault with
  | none => exact h
  | some f =>
    obtain ⟨part, before, last, same, ended⟩ := h
    exact ⟨part, before, last, same, weaker last f ended⟩

end Follows

/-- A rule keeps its name, whatever it does. -/
theorem Rule.reportName_check (rule : Rule) (f : TokenFile) (r : Report) :
    (rule.check f r).session.rule.reportName = rule.reportName := by
  cases rule with
  | builtin b => rfl
  | base => rfl
  | script c =>
    simp only [check, Session.check]
    split
    · rfl
    · split <;> rfl

namespace Engine

/-! ## The agenda -/

/-- Whether the syntax check turns the file away. -/
def rejects (tools : Tools) (path : String) : Bool :=
  match tools.lint path with
  | .ok verdict => !verdict.passed
  | .error _ => false

/-- What there is to do for a file, up to the observer. -/
def agendaOf (tools : Tools) (names : List Value) (path : String) : List Moment :=
  .lint path ::
    if rejects tools path then []
    else .read path :: .tokenize path :: names.map fun name => .dispatch path name 0

/-- What there is to do for files; the observer, if there is one, is told after each. -/
def agenda (tools : Tools) (rules : List Rule) (files : List String)
    (notice? : Option (String → Notice)) : List Moment :=
  files.flatMap fun path =>
    agendaOf tools (rules.map Rule.reportName) path ++
      (notice?.map fun notice => .notify (notice path)).toList

theorem agenda_cons (tools : Tools) (rules : List Rule) (path : String) (paths : List String)
    (observer : Option Observer) (notice : String → Notice) :
    agenda tools rules (path :: paths) (observer.map fun _ => notice) =
      agendaOf tools (rules.map Rule.reportName) path ++
        ((observer.map fun _ => Moment.notify (notice path)).toList ++
          agenda tools rules paths (observer.map fun _ => notice)) := by
  rw [agenda, List.flatMap_cons, List.append_assoc, Option.map_map]
  rfl

/-- Where a fault comes from: `ts` are the trials of the run. A rule ends the run when it interrupts
the program, or when it fails and the message about that cannot be made. -/
inductive Aborts (tools : Tools) (ts : List Trial) : Moment → Fault → Prop
  | lint {path : String} {f : Fault} (failed : tools.lint path = .error f) :
    Aborts tools ts (.lint path) f
  | read {path : String} {e : SourceError} (failed : tools.read path = .error e) :
    Aborts tools ts (.read path) (.source e)
  | tokenize {path source : String} {e : LexError} (read : tools.read path = .ok source)
      (failed : TokenFile.ofSource path source = .error e) :
    Aborts tools ts (.tokenize path) (.lexical e)
  | interrupt {t : Trial} {x : Failure} (mem : t ∈ ts) (failed : t.done.failure = some x)
      (interrupts : x.interrupts = true) :
    Aborts tools ts (.dispatch t.file.path t.rule.reportName 0) (.failure x)
  | untold {t : Trial} {x : Failure} {e : Raised} (mem : t ∈ ts) (failed : t.done.failure = some x)
      (calm : x.interrupts = false) (silent : untold? t.rule.reportName x = some e) :
    Aborts tools ts (.dispatch t.file.path t.rule.reportName 0) (.failure (.raised e))
  | observer {o : Observer} {report : Report} {notice : Notice} {x : ObserverFailure}
      (failed : (o.notify report notice).failure = some x) :
    Aborts tools ts (.notify notice) (.observer x)

variable {tools : Tools} {ts us : List Trial}

theorem Aborts.mono (sub : ∀ t ∈ ts, t ∈ us) (m : Moment) (f : Fault) (h : Aborts tools ts m f) :
    Aborts tools us m f := by
  cases h with
  | lint failed => exact .lint failed
  | read failed => exact .read failed
  | tokenize read failed => exact .tokenize read failed
  | interrupt mem failed interrupts => exact .interrupt (sub _ mem) failed interrupts
  | untold mem failed calm silent => exact .untold (sub _ mem) failed calm silent
  | observer failed => exact .observer failed

theorem aborts_of_ending? {t : Trial} {f : Failure} (mem : t ∈ ts) (ended : t.ending? = some f) :
    Aborts tools ts (.dispatch t.file.path t.rule.reportName 0) (.failure f) := by
  unfold Trial.ending? at ended
  cases failed : t.done.failure with
  | none =>
    rw [failed] at ended
    cases ended
  | some x =>
    rw [failed, Option.bind_some] at ended
    split at ended
    · cases ended
      exact .interrupt mem failed ‹_›
    · rename_i calm
      obtain ⟨e, silent, rfl⟩ := Option.map_eq_some_iff.1 ended
      exact .untold mem failed (by simpa using calm) silent

/-! ## One rule, all rules -/

theorem moments_dispatch (rule : Rule) (file : TokenFile) (r : Report) :
    (dispatch rule file r).actions.filterMap Action.moment? =
      [.dispatch file.path rule.reportName 0] := by
  obtain ⟨failures, actions⟩ := actions_dispatch rule file r
  simp [actions, Action.moment?, List.filterMap_map, Function.comp_def]

theorem follows_sweep (tools : Tools) {file : TokenFile} (rules : List Rule) {r : Report}
    (h : file.path ∈ r.files) :
    Follows (Aborts tools (Trial.each file r rules))
      ((sweep file r rules).actions.filterMap Action.moment?)
      ((rules.map Rule.reportName).map fun name => .dispatch file.path name 0)
      ((sweep file r rules).fault.map .failure) := by
  induction rules generalizing r with
  | nil => rfl
  | cons rule rules ih =>
    have started := moments_dispatch rule file r
    have first := dispatch_eq rule h
    have later := ih (Trial.mem_files_after (t := ⟨rule, file, r⟩) h)
    cases ended : (Trial.ending? ⟨rule, file, r⟩) with
    | some f =>
      have aborted : Aborts tools (Trial.each file r (rule :: rules))
          (.dispatch file.path rule.reportName 0) (.failure f) :=
        aborts_of_ending? (t := ⟨rule, file, r⟩) List.mem_cons_self ended
      simp only [ended] at first
      simp only [sweep, first]
      exact Follows.last aborted [] _
    | none =>
      simp only [ended] at first
      rw [first] at started
      simp only [sweep, first, List.filterMap_append, started]
      refine Follows.prepend [_] (later.mono (Aborts.mono fun t ht => ?_))
      exact List.mem_cons_of_mem _ ht

/-! ## One file -/

/-- A file for which nothing ends the run has come to the rules. -/
theorem open?_of_analyzeFile {p : RunState} {path : String}
    (going : (analyzeFile tools p path).2 = none) : (tools.open? path).isSome = true := by
  obtain ⟨r, rules, did, fault, outcome, done⟩ := exists_outcome tools path p.report p.rules
  rw [done p rfl rfl] at going
  cases outcome with
  | rejected opened | swept opened =>
    rw [opened]
    rfl
  | unjudged | unread | uncut => cases going

theorem notices_analyzeFile (tools : Tools) (p : RunState) (path : String) :
    (analyzeFile tools p path).1.notices = p.notices := by
  obtain ⟨r, rules, did, fault, outcome, done⟩ := exists_outcome tools path p.report p.rules
  have quiet : did.filterMap Action.notice? = [] := by
    cases outcome with
    | swept =>
      rw [List.filterMap_append]
      exact filterMap_sweep (fun _ _ _ => rfl) (fun _ _ _ => rfl) _ _ _
    | unjudged | rejected | unread | uncut => rfl
  rw [done p rfl rfl, RunState.notices_note, quiet]
  exact List.append_nil _

/-- The trials that a file leads to. -/
def trialsOf (tools : Tools) (r : Report) (rules : List Rule) (path : String) : List Trial :=
  (Visit.history tools r rules [path]).flatMap Visit.trials

theorem trialsOf_eq {path : String} {verdict : Verdict} {file : TokenFile}
    (h : tools.open? path = some (.accepted verdict file)) (r : Report) (rules : List Rule) :
    trialsOf tools r rules path = Trial.each file (r.addFile path) rules := by
  simp [trialsOf, Visit.history, h, Visit.trials]

theorem trialsOf_subset (tools : Tools) (r : Report) (rules : List Rule) (path : String)
    (paths : List String) :
    ∀ t ∈ trialsOf tools r rules path,
      t ∈ (Visit.history tools r rules (path :: paths)).flatMap Visit.trials := by
  intro t mem
  unfold trialsOf at mem
  simp only [Visit.history] at mem ⊢
  cases opened : tools.open? path with
  | none => simp [opened] at mem
  | some o =>
    simp only [opened, List.flatMap_cons, List.flatMap_nil, List.append_nil] at mem
    exact List.mem_append_left _ mem

theorem follows_analyzeFile (tools : Tools) (p : RunState) (path : String) :
    ∃ done, (analyzeFile tools p path).1.moments = p.moments ++ done ∧
      Follows (Aborts tools (trialsOf tools p.report p.rules path)) done
        (agendaOf tools (p.rules.map Rule.reportName) path) (analyzeFile tools p path).2 := by
  obtain ⟨r, rules, did, fault, outcome, done⟩ := exists_outcome tools path p.report p.rules
  rw [done p rfl rfl]
  refine ⟨did.filterMap Action.moment?, by simp [RunState.moments, RunState.note], ?_⟩
  unfold agendaOf rejects
  cases outcome with
  | unjudged judged =>
    rw [judged]
    exact Follows.last (.lint judged) [] _
  | rejected opened =>
    obtain ⟨judged, failed⟩ := Tools.open?_eq_rejected opened
    simp only [judged, failed, Bool.not_false, if_true]
    rfl
  | unread judged passed failed =>
    simp only [judged, passed, Bool.not_true, Bool.false_eq_true, if_false]
    exact Follows.last (.read failed) [.lint path] _
  | uncut judged passed read failed =>
    simp only [judged, passed, Bool.not_true, Bool.false_eq_true, if_false]
    exact Follows.last (.tokenize read failed) [.lint path, .read path] _
  | @swept verdict file opened =>
    obtain ⟨judged, passed, -⟩ := Tools.open?_eq_accepted opened
    have own : file.path = path := Tools.path_of_accepted opened
    have added : file.path ∈ (p.report.addFile path).files := mem_files_addFile.2 (.inr own)
    have swept := follows_sweep tools p.rules added
    rw [own] at swept
    simp only [judged, passed, Bool.not_true, Bool.false_eq_true, if_false]
    rw [trialsOf_eq opened, List.filterMap_append]
    exact swept.prepend [.lint path, .read path, .tokenize path]

/-! ## The observer -/

theorem moments_tell (p : RunState) (n : Notice) :
    (tell p n).1.moments = p.moments ++ (p.observer.map fun _ => Moment.notify n).toList := by
  unfold tell
  split <;> rename_i who <;> simp [who, RunState.moments, RunState.note, Action.moment?]

theorem notices_tell (p : RunState) (n : Notice) :
    (tell p n).1.notices = p.notices ++ (p.observer.map fun _ => (n, p.report)).toList := by
  unfold tell
  split <;> rename_i who <;> simp [who, RunState.notices, RunState.note, Action.notice?]

theorem follows_tell (tools : Tools) (ts : List Trial) (p : RunState) (n : Notice) :
    Follows (Aborts tools ts) (p.observer.map fun _ => Moment.notify n).toList
      (p.observer.map fun _ => Moment.notify n).toList (tell p n).2 := by
  unfold tell
  cases who : p.observer with
  | none => rfl
  | some o =>
    simp only [Option.map_some, Option.toList_some]
    cases failed : (o.notify p.report n).failure with
    | none => rfl
    | some x => exact Follows.last (.observer failed) [] []

theorem map_observer_tell {α : Type} (a : α) (p : RunState) (n : Notice) :
    ((tell p n).1.observer.map fun _ => a) = p.observer.map fun _ => a := by
  have same := isSome_observer_tell p n
  cases told : (tell p n).1.observer <;> cases before : p.observer <;> simp_all

end Engine

/-! ## All files -/

theorem Trial.map_reportName_done (ts : List Trial) :
    (ts.map (·.done.session.rule)).map Rule.reportName =
      (ts.map Trial.rule).map Rule.reportName := by
  rw [List.map_map, List.map_map]
  exact List.map_congr_left fun t _ => t.rule.reportName_check _ _

namespace Visit

/-- The rules keep their names from file to file. -/
theorem map_reportName_rulesAfter (v : Visit) :
    v.rulesAfter.map Rule.reportName = v.rules.map Rule.reportName := by
  unfold rulesAfter
  split
  · rfl
  · rename_i opened
    rw [Trial.map_reportName_done, map_rule_trials opened]

end Visit

namespace Engine

variable {tools : Tools}

/-- A run after a visit that does not end it. -/
def visited (p : RunState) (v : Visit) : RunState :=
  { p with report := v.after, rules := v.rulesAfter, actions := p.actions ++ v.actions }

/-- One round of the loop over the files: the file ends the run, or it is visited and the observer
is told, which ends the run or leads to the next file. -/
theorem analyzeFiles_round (tools : Tools) (engine : Nat) (total : Int) (p : RunState)
    (path : String) (paths : List String) :
    let out := analyzeFiles tools engine total p (path :: paths)
    (∃ f, (analyzeFile tools p path).2 = some f ∧ out = ((analyzeFile tools p path).1, some f)) ∨
      ∃ o, tools.open? path = some o ∧
        let q := visited p ⟨p.report, p.rules, path, o⟩
        let u := tell q ⟨path, engine, total⟩
        analyzeFile tools p path = (q, none) ∧
          ((∃ f, u.2 = some f ∧ out = (u.1, some f)) ∨
            (u.2 = none ∧ out = analyzeFiles tools engine total u.1 paths)) := by
  have visit : (analyzeFile tools p path).2 = none → ∃ o, tools.open? path = some o ∧
      analyzeFile tools p path = (visited p ⟨p.report, p.rules, path, o⟩, none) := by
    intro going
    obtain ⟨o, opened⟩ := Option.isSome_iff_exists.1 (open?_of_analyzeFile going)
    obtain ⟨fault, done⟩ := analyzeFile_eq opened p
    rw [going, eq_comm, Option.map_eq_none_iff] at fault
    exact ⟨o, opened, done fault⟩
  rcases analyzeFiles_cons tools engine total p path paths with
    ended | ⟨going, f, failed, out⟩ | ⟨going, quiet, out⟩
  · exact .inl ended
  · obtain ⟨o, opened, whole⟩ := visit going
    rw [whole] at failed out
    exact .inr ⟨o, opened, whole, .inl ⟨f, failed, out⟩⟩
  · obtain ⟨o, opened, whole⟩ := visit going
    rw [whole] at quiet out
    exact .inr ⟨o, opened, whole, .inr ⟨quiet, out⟩⟩

theorem follows_analyzeFiles (tools : Tools) (engine : Nat) (total : Int) (p : RunState)
    (files : List String) :
    ∃ done, (analyzeFiles tools engine total p files).1.moments = p.moments ++ done ∧
      Follows (Aborts tools ((Visit.history tools p.report p.rules files).flatMap Visit.trials))
        done (agenda tools p.rules files (p.observer.map fun _ path => ⟨path, engine, total⟩))
        (analyzeFiles tools engine total p files).2 := by
  induction files generalizing p with
  | nil =>
    refine ⟨[], ?_, rfl⟩
    simp [analyzeFiles, RunState.moments, RunState.note, Action.moment?]
  | cons path paths ih =>
    obtain ⟨first, moments, follows⟩ := follows_analyzeFile tools p path
    replace follows :=
      follows.mono (Aborts.mono (trialsOf_subset tools p.report p.rules path paths))
    rw [agenda_cons]
    rcases analyzeFiles_round tools engine total p path paths with
      ⟨f, failed, out⟩ | ⟨o, opened, whole, rest⟩
    · rw [failed] at follows
      rw [out]
      exact ⟨first, moments, follows.stop _⟩
    · let v : Visit := ⟨p.report, p.rules, path, o⟩
      let n : Notice := ⟨path, engine, total⟩
      have told : (tell (visited p v) n).1.moments = p.moments ++
          (first ++ (p.observer.map fun _ => Moment.notify n).toList) := by
        rw [moments_tell, ← List.append_assoc, ← moments, whole]
        rfl
      rw [whole] at follows
      have heard := follows.append (follows_tell tools _ (visited p v) n)
      rw [← List.append_assoc]
      rcases rest with ⟨f, failed, out⟩ | ⟨quiet, out⟩
      · rw [failed] at heard
        rw [out]
        exact ⟨_, told, heard.stop _⟩
      · rw [quiet] at heard
        obtain ⟨more, later, going⟩ := ih (tell (visited p v) n).1
        rw [told, List.append_assoc] at later
        rw [out]
        refine ⟨_, later, heard.append ?_⟩
        rw [report_tell, rules_tell, map_observer_tell] at going
        have names : agenda tools v.rulesAfter paths = agenda tools p.rules paths := by
          funext notice?
          rw [agenda, agenda, Visit.map_reportName_rulesAfter]
        rw [← names]
        refine going.mono (Aborts.mono fun t mem => ?_)
        simp only [Visit.history, opened, List.flatMap_cons]
        exact List.mem_append_right _ mem

/-- The observer is told about the visited files, in order, each time with the report that the
visit leaves. -/
theorem notices_analyzeFiles (tools : Tools) (engine : Nat) (total : Int) (p : RunState)
    (files : List String) :
    let vs := Visit.history tools p.report p.rules files
    let all := (p.observer.map fun _ => vs.map fun v => (⟨v.path, engine, total⟩, v.after)).getD []
    let out := analyzeFiles tools engine total p files
    ∃ told, out.1.notices = p.notices ++ told ∧ told <+: all ∧ (out.2 = none → told = all) := by
  induction files generalizing p with
  | nil =>
    refine ⟨[], ?_, List.nil_prefix, fun _ => ?_⟩
    · simp [analyzeFiles, RunState.notices, RunState.note, Action.notice?]
    · cases p.observer <;> rfl
  | cons path paths ih =>
    have before := notices_analyzeFile tools p path
    intro vs all
    rcases analyzeFiles_round tools engine total p path paths with
      ⟨f, failed, out⟩ | ⟨o, opened, whole, rest⟩
    · rw [out]
      refine ⟨[], ?_, List.nil_prefix, fun none => by cases none⟩
      rw [before, List.append_nil]
    · let v : Visit := ⟨p.report, p.rules, path, o⟩
      let n : Notice := ⟨path, engine, total⟩
      let later := Visit.history tools v.after v.rulesAfter paths
      have told : (tell (visited p v) n).1.notices =
          p.notices ++ (p.observer.map fun _ => (n, v.after)).toList := by
        rw [notices_tell, ← before, whole]
        rfl
      have split : all = (p.observer.map fun _ => (n, v.after)).toList ++
          (p.observer.map fun _ =>
            later.map fun v => ((⟨v.path, engine, total⟩ : Notice), v.after)).getD [] := by
        simp only [all, vs, Visit.history, opened]
        cases p.observer <;> rfl
      rcases rest with ⟨f, failed, out⟩ | ⟨quiet, out⟩
      · rw [out, split]
        exact ⟨_, told, List.prefix_append _ _, fun none => by cases none⟩
      · obtain ⟨more, after, part, every⟩ := ih (tell (visited p v) n).1
        rw [report_tell, rules_tell, map_observer_tell] at part every
        rw [out, split]
        refine ⟨_, ?_, (List.prefix_append_right_inj _).2 part, fun none => ?_⟩
        · rw [after, told, List.append_assoc]
        · rw [every none]
          rfl

theorem open?_of_analyzeFiles {engine : Nat} {total : Int} {p : RunState} {files : List String}
    (going : (analyzeFiles tools engine total p files).2 = none) :
    ∀ path ∈ files, (tools.open? path).isSome = true := by
  induction files generalizing p with
  | nil => simp
  | cons path paths ih =>
    rcases analyzeFiles_round tools engine total p path paths with
      ⟨f, -, out⟩ | ⟨o, opened, -, ⟨f, -, out⟩ | ⟨-, out⟩⟩
    · rw [out] at going
      cases going
    · rw [out] at going
      cases going
    · rw [out] at going
      exact List.forall_mem_cons.2 ⟨by rw [opened]; rfl, ih going⟩

end Engine

/-! ## What the observer sees -/

/-- The text of the message about a rejected file: the output of the check, unless there is none. -/
def Verdict.IsComplaint (verdict : Verdict) (text : String) : Prop :=
  (verdict.output = some text ∧ text ≠ "") ∨
    ((verdict.output = none ∨ verdict.output = some "") ∧ text = "Lint check failed")

theorem Verdict.isComplaint_complaint (verdict : Verdict) :
    verdict.IsComplaint verdict.complaint := by
  unfold IsComplaint complaint
  cases output : verdict.output with
  | none => simp
  | some text =>
    by_cases blank : text = ""
    · simp [blank]
    · simp [blank]

namespace Visit

/-- What a visit adds to the report. A rejected file is tried with no rule and gets one message; an
accepted one is tried with every rule, in order, and gets what the trials add. -/
structure IsGated (tools : Tools) (v : Visit) : Prop where
  rejected : ∀ verdict, tools.lint v.path = .ok verdict → verdict.passed = false →
    v.trials = [] ∧ ∃ text, verdict.IsComplaint text ∧
      ∀ q, v.after.messages q =
        v.before.messages q ++ if q = v.path then [Message.lint v.path text] else []
  accepted : ∀ verdict, tools.lint v.path = .ok verdict → verdict.passed = true →
    v.trials.map Trial.rule = v.rules ∧
      ∀ q, v.after.messages q = v.before.messages q ++ v.trials.flatMap (·.messages q)

variable {tools : Tools}

theorem isGated {v : Visit} (h : tools.open? v.path = some v.opening) : v.IsGated tools := by
  have added := messages_after h
  cases opened : v.opening with
  | rejected verdict =>
    rw [opened] at h
    obtain ⟨judged, failed⟩ := Tools.open?_eq_rejected h
    refine ⟨fun other same _ => ?_, fun other same passed => ?_⟩
    · obtain rfl := Except.ok.inj (judged.symm.trans same)
      refine ⟨by simp [trials, opened], _, verdict.isComplaint_complaint, fun q => ?_⟩
      rw [added, messages, opened]
    · obtain rfl := Except.ok.inj (judged.symm.trans same)
      rw [failed] at passed
      cases passed
  | accepted verdict file =>
    rw [opened] at h
    obtain ⟨judged, passed, -⟩ := Tools.open?_eq_accepted h
    refine ⟨fun other same failed => ?_, fun other same _ => ⟨map_rule_trials opened, fun q => ?_⟩⟩
    · obtain rfl := Except.ok.inj (judged.symm.trans same)
      rw [passed] at failed
      cases failed
    · rw [added, messages, opened]

/-- Every visit begins with the report that the one before it left, the first with `r`. -/
theorem isChain_history (tools : Tools) (r : Report) (rules : List Rule) (files : List String) :
    (∀ v ∈ (history tools r rules files).head?, v.before = r ∧ v.rules = rules) ∧
      (history tools r rules files).IsChain fun v w =>
        w.before = v.after ∧ w.rules = v.rulesAfter := by
  induction files generalizing r rules with
  | nil => exact ⟨by simp [history], List.IsChain.nil⟩
  | cons path paths ih =>
    unfold history
    split
    · exact ⟨by simp, List.IsChain.nil⟩
    · rename_i o opened
      obtain ⟨next, chain⟩ := ih (after ⟨r, rules, path, o⟩) (rulesAfter ⟨r, rules, path, o⟩)
      refine ⟨by simp, ?_⟩
      rw [List.isChain_cons]
      exact ⟨next, chain⟩

end Visit

namespace Engine

/-- Every run of rules on files follows the agenda. A run that no fault ends has done all of it, in
order and nothing else, and its result is the report of its visits, one for each file. A run that a
fault ends has done a first part of it, the last thing it did is where the fault comes from, and the
fault is its result. The observer is told about one visit after the other, with the number of files
and the report that the visit leaves. Visits begin with the report that the one before left, and add
to it what the syntax check or the rules have to say. -/
theorem run_keeps_agenda (e : Engine) (tools : Tools) (rules : List Rule) (files : List String)
    (observer : Option Observer) (hr : rules ≠ []) (hf : files ≠ []) :
    let run := e.run tools rules files observer
    let notice := fun path => (⟨path, e.identity, files.length⟩ : Notice)
    let plan := agenda tools rules files (observer.map fun _ => notice)
    let vs := visits tools rules files
    let news := (observer.map fun _ => vs.map fun v => (notice v.path, v.after)).getD []
    (run.fault = none → run.state.moments = plan ∧ run.state.notices = news ∧
      vs.map Visit.path = files ∧ run.result = .ok (Visit.conclude Report.empty vs)) ∧
    (∀ f, run.fault = some f → run.result = .error f ∧ run.state.moments <+: plan ∧
      ∃ before last, run.state.moments = before ++ [last] ∧
        Aborts tools (trials tools rules files) last f) ∧
    run.engine.numberOfFiles = files.length ∧
    run.state.notices <+: news ∧
    (∀ v ∈ vs, v.IsGated tools) ∧
    (∀ v ∈ vs.head?, v.before = Report.empty ∧ v.rules = rules) ∧
    vs.IsChain fun v w => w.before = v.after ∧ w.rules = v.rulesAfter := by
  intro run notice plan vs news
  have whole : run = _ := run_of_ne_nil e hr hf observer
  obtain ⟨done, moments, follows⟩ :=
    follows_analyzeFiles tools e.identity files.length { rules, observer } files
  obtain ⟨told, notices, part, every⟩ :=
    notices_analyzeFiles tools e.identity files.length { rules, observer } files
  have did : run.state.moments = done := by
    simp only [run, whole, moments]
    rfl
  have heard : run.state.notices = told := by
    simp only [run, whole, notices]
    rfl
  have fault : run.fault =
      (analyzeFiles tools e.identity files.length { rules, observer } files).2 := by
    simp only [run, whole]
  rw [← fault] at follows every
  obtain ⟨start, chain⟩ := Visit.isChain_history tools Report.empty rules files
  refine ⟨fun none => ?_, fun f failed => ?_, ?_, ?_, ?_, start, chain⟩
  · have hopen := open?_of_analyzeFiles (fault.symm.trans none)
    rw [none] at follows
    refine ⟨did.trans follows, heard.trans (every none), Visit.map_path_history hopen _ _, ?_⟩
    rcases run_cases e hr hf hopen observer with
      ⟨-, -, report⟩ | ⟨-, o, failed⟩ | ⟨f, -, failed⟩
    · exact Run.result_eq_ok_iff.2 ⟨none, report⟩
    · cases none.symm.trans failed
    · cases none.symm.trans failed
  · rw [failed] at follows
    obtain ⟨first, before, last, same, aborted⟩ := follows
    refine ⟨by simp only [Run.result, failed], did ▸ first, before, last, did.trans same, aborted⟩
  · simp only [run, whole]
  · rw [heard]
    exact part
  · exact fun v mem => Visit.isGated (Visit.open?_of_mem_history mem)

theorem run_keeps_agenda_of_unruly :
    (({} : Engine).run sampleTools unrulyRules ["a.py", "b.py", "a.py"]
        (some .recorder)).state.moments =
      agenda sampleTools unrulyRules ["a.py", "b.py", "a.py"] (some fun path => ⟨path, 0, 3⟩) := by
  have quiet : (({} : Engine).run sampleTools unrulyRules ["a.py", "b.py", "a.py"]
      (some .recorder)).fault.isNone = true := by decide +kernel
  exact ((run_keeps_agenda {} sampleTools unrulyRules ["a.py", "b.py", "a.py"] (some .recorder)
    (by decide) (by decide)).1 (Option.isNone_iff_eq_none.1 quiet)).1

/-- The file can be read and cut into tokens, no rule interrupts the program and the observer never
fails. Yet the second rule is not started and the observer is not told, because the failure of the
first cannot be told. -/
theorem untold_failure_cuts_agenda :
    (∀ p ∈ ["a.py"], (sampleTools.open? p).isSome = true) ∧
      (∀ t ∈ trials sampleTools [untoldRule, .builtin .bareExcept] ["a.py"], t.isCalm = true) ∧
      (∀ report n, (Observer.recorder.notify report n).failure.isNone = true) ∧
      (({} : Engine).run sampleTools [untoldRule, .builtin .bareExcept] ["a.py"]
          (some .recorder)).state.moments ≠
        agenda sampleTools [untoldRule, .builtin .bareExcept] ["a.py"]
          (some fun path => ⟨path, 0, 1⟩) := by
  refine ⟨by decide +kernel, by decide +kernel, fun _ _ => rfl, fun same => ?_⟩
  have short : (({} : Engine).run sampleTools [untoldRule, .builtin .bareExcept] ["a.py"]
      (some .recorder)).state.moments.length = 4 := by decide +kernel
  rw [same] at short
  revert short
  decide +kernel

end Engine

end SourceAudit
