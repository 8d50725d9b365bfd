import Mathlib.Data.List.TakeWhile
import SourceAudit.Application
import SourceAudit.Proofs.Agenda
import SourceAudit.Proofs.Bookkeeping
import SourceAudit.Proofs.Product

/-!
# What the validator says

The message about a file that the validator does not accept should be the stripped error output of
its process, or else the stripped plain output, or else a fixed text (`Subprocess.diagnosis`). It
is, except when the error output is not empty and yet blank: it then hides the plain output
(`Subprocess.isMasked`), because the choice between the two is made before they are stripped.

Whatever ends a run, the files that it has checked and found wanting have their message in the
report (`Engine.isAnswered_run`), and with confined rules they have no other
(`Engine.rejection_is_reported`).
-/

namespace SourceAudit

open Report

/-! ## Blank texts -/

namespace Text

theorem dropRight_eq_nil_iff {p : Char → Bool} {cs : List Char} :
    dropRight p cs = [] ↔ ∀ c ∈ cs, p c = true := by
  rw [dropRight, List.reverse_eq_nil_iff, List.dropWhile_eq_nil_iff]
  simp only [List.mem_reverse]

theorem stripChars_eq_nil_iff {cs : List Char} :
    stripChars cs = [] ↔ ∀ c ∈ cs, isBlank c = true := by
  rw [stripChars, dropRight_eq_nil_iff]
  constructor
  · intro rest
    -- Where dropping from the left stops there is a character that is not blank.
    cases left : cs.dropWhile isBlank with
    | nil => exact List.dropWhile_eq_nil_iff.1 left
    | cons c others =>
      have stopped : isBlank c = false := by
        have first := List.head?_dropWhile_not isBlank cs
        rwa [left] at first
      rw [rest c (left ▸ List.mem_cons_self)] at stopped
      cases stopped
  · intro all c mem
    exact all c ((List.dropWhile_sublist _).subset mem)

/-- A text is blank exactly when stripping it leaves nothing. -/
theorem strip_eq_empty_iff {s : String} : strip s = "" ↔ isBlankText s = true := by
  rw [strip, String.ofList_eq_empty_iff, stripChars_eq_nil_iff, isBlankText, List.all_eq_true]

end Text

/-! ## The text about a process -/

namespace Subprocess

/-- What there is to say about a process that does not accept its file: the stripped error output,
or else the stripped plain output, or else a fixed text. -/
def diagnosis (p : Subprocess) : String :=
  if Text.strip p.stderr ≠ "" then Text.strip p.stderr
  else if Text.strip p.stdout ≠ "" then Text.strip p.stdout
  else "Lint check failed"

/-- Whether the error output is blank but not empty, and the plain output is not blank. -/
def isMasked (p : Subprocess) : Bool :=
  !p.stderr.isEmpty && Text.isBlankText p.stderr && !Text.isBlankText p.stdout

end Subprocess

namespace Validator

/-- Whether the process ends within the time limit. -/
def isInTime (v : Validator) (p : Subprocess) : Bool :=
  v.timeout.all fun limit => !p.duration.gt limit

theorem check_of_isInTime {v : Validator} {w : World} {path : String}
    (inTime : v.isInTime (w.process path) = true) :
    v.check w path = .ok (ended (w.process path)) := by
  unfold isInTime at inTime
  unfold check judge
  split
  · rename_i limit given
    rw [given, Option.all_some, Bool.not_eq_true'] at inTime
    rw [if_neg (by simp [inTime])]
  · rfl

/-- The message about a process that ended in time is its diagnosis, unless that is hidden. -/
theorem complaint_ended (p : Subprocess) :
    (ended p).complaint = if p.isMasked then "Lint check failed" else p.diagnosis := by
  simp only [Verdict.complaint, ended, diagnostics, nonempty, Subprocess.isMasked,
    Subprocess.diagnosis, String.isEmpty_iff, Text.strip_eq_empty_iff, ne_eq]
  by_cases none : p.stderr = ""
  · have blank : Text.isBlankText "" = true := rfl
    by_cases quiet : Text.isBlankText p.stdout = true
    · simp [none, blank, quiet]
    · simp [none, blank, quiet, Text.strip_eq_empty_iff]
  · by_cases blank : Text.isBlankText p.stderr = true
    · by_cases quiet : Text.isBlankText p.stdout = true
      · simp [none, blank, quiet]
      · simp [none, blank, quiet]
    · simp [none, blank, Text.strip_eq_empty_iff]

end Validator

/-! ## Verdicts and reports -/

theorem Tools.open?_of_rejected {tools : Tools} {path : String} {verdict : Verdict}
    (judged : tools.lint path = .ok verdict) (failed : verdict.passed = false) :
    tools.open? path = some (.rejected verdict) := by
  simp only [open?, judged, failed, Bool.false_eq_true, if_false]

/-- The verdict that an action notes, with the file. -/
def Action.verdict? : Action → Option (String × Verdict)
  | .linted path verdict => some (path, verdict)
  | _ => none

namespace RunState

/-- The verdicts so far, in order. -/
def verdicts (p : RunState) : List (String × Verdict) :=
  p.actions.filterMap Action.verdict?

/-- The verdicts are those of the syntax check, and the report has a message for each one that is
not favourable. -/
def IsAnswered (tools : Tools) (p : RunState) : Prop :=
  ∀ path verdict, (path, verdict) ∈ p.verdicts → tools.lint path = .ok verdict ∧
    (verdict.passed = false → Message.lint path verdict.complaint ∈ p.report.messages path)

theorem verdicts_note (p : RunState) (actions : List Action) :
    (p.note actions).verdicts = p.verdicts ++ actions.filterMap Action.verdict? := by
  rw [verdicts, note, List.filterMap_append]
  rfl

end RunState

namespace Report

theorem Grows.addMessage {r s : Report} {m : Message} (ok : r.addMessage m = .ok s) :
    r.Grows s := by
  rcases r.addMessage_cases m with ⟨-, added⟩ | ⟨-, failed⟩
  · obtain rfl := Except.ok.inj (added.symm.trans ok)
    exact Grows.push r m
  · cases failed.symm.trans ok

end Report

namespace Engine

variable {tools : Tools}

theorem grows_dispatch (rule : Rule) (file : TokenFile) (r : Report) :
    r.Grows (dispatch rule file r).report := by
  have checked := rule.check_grows file.rewind r
  unfold dispatch
  simp only
  split
  · exact checked
  · split
    · exact checked
    · split
      · exact checked
      · split
        · rename_i added
          exact checked.trans (Grows.addMessage added)
        · exact checked

theorem grows_sweep (file : TokenFile) (rules : List Rule) (r : Report) :
    r.Grows (sweep file r rules).report := by
  induction rules generalizing r with
  | nil => exact Grows.refl r
  | cons rule rules ih =>
    have first := grows_dispatch rule file r
    simp only [sweep]
    split
    · exact first
    · exact first.trans (ih _)

/-- Processing a file notes the verdict about it, if there is one, and no other. -/
theorem verdicts_analyzeFile (tools : Tools) (p : RunState) (path : String) :
    (analyzeFile tools p path).1.verdicts =
      p.verdicts ++ (tools.lint path).toOption.toList.map (path, ·) := by
  obtain ⟨r, rules, did, fault, outcome, done⟩ := exists_outcome tools path p.report p.rules
  rw [done p rfl rfl, RunState.verdicts_note]
  refine congrArg _ ?_
  cases outcome with
  | unjudged judged | unread judged | uncut judged =>
    rw [judged]
    rfl
  | rejected opened =>
    rw [(Tools.open?_eq_rejected opened).1]
    rfl
  | swept opened =>
    rw [(Tools.open?_eq_accepted opened).1, List.filterMap_append,
      filterMap_sweep (fun _ _ _ => rfl) (fun _ _ _ => rfl)]
    rfl

theorem grows_analyzeFile (tools : Tools) (p : RunState) (path : String) :
    p.report.Grows (analyzeFile tools p path).1.report := by
  obtain ⟨r, rules, did, fault, outcome, done⟩ := exists_outcome tools path p.report p.rules
  have known := Grows.addFile p.report path
  rw [done p rfl rfl]
  cases outcome with
  | unjudged | unread | uncut => exact known
  | rejected => exact known.trans (Grows.push _ _)
  | swept => exact known.trans (grows_sweep _ _ _)

/-- A file that is not accepted gets its message. -/
theorem mem_messages_analyzeFile {path : String} {verdict : Verdict}
    (judged : tools.lint path = .ok verdict) (failed : verdict.passed = false) (p : RunState) :
    Message.lint path verdict.complaint ∈ (analyzeFile tools p path).1.report.messages path := by
  have opened := Tools.open?_of_rejected judged failed
  obtain ⟨-, done⟩ := analyzeFile_eq opened p
  rw [done rfl, Visit.messages_after opened]
  exact List.mem_append_right _ (by simp [Visit.messages])

theorem isAnswered_analyzeFile {p : RunState} (answered : p.IsAnswered tools) (path : String) :
    (analyzeFile tools p path).1.IsAnswered tools := by
  intro q verdict mem
  rw [verdicts_analyzeFile, List.mem_append] at mem
  -- A message from before stays, since a report only grows.
  rcases mem with before | new
  · obtain ⟨judged, told⟩ := answered q verdict before
    exact ⟨judged, fun failed => ((grows_analyzeFile tools p path).messages q).subset (told failed)⟩
  · obtain ⟨v, some_verdict, same⟩ := List.mem_map.1 new
    obtain ⟨rfl, rfl⟩ := Prod.mk.inj same
    have judged : tools.lint path = .ok v := by
      cases given : tools.lint path with
      | error f => simp [given, Except.toOption] at some_verdict
      | ok u => simpa [given, Except.toOption, eq_comm] using some_verdict
    exact ⟨judged, fun failed => mem_messages_analyzeFile judged failed p⟩

theorem isAnswered_tell {p : RunState} (answered : p.IsAnswered tools) (n : Notice) :
    (tell p n).1.IsAnswered tools := by
  have same : (tell p n).1.verdicts = p.verdicts := filterMap_tell (fun _ _ => rfl) p n
  rwa [RunState.IsAnswered, same, report_tell]

theorem isAnswered_analyzeFiles {p : RunState} (answered : p.IsAnswered tools) (engine : Nat)
    (total : Int) (files : List String) :
    (analyzeFiles tools engine total p files).1.IsAnswered tools := by
  induction files generalizing p with
  | nil =>
    intro path verdict mem
    rw [analyzeFiles, RunState.verdicts_note] at mem
    exact answered path verdict (by simpa [Action.verdict?] using mem)
  | cons path paths ih =>
    have analyzed := isAnswered_analyzeFile answered path
    have told := isAnswered_tell analyzed ⟨path, engine, total⟩
    rcases analyzeFiles_cons tools engine total p path paths with
      ⟨f, -, out⟩ | ⟨-, f, -, out⟩ | ⟨-, -, out⟩
    · rwa [out]
    · rwa [out]
    · rw [out]
      exact ih told

/-- Every unfavourable verdict of a run has its message in the report, however the run ends. -/
theorem isAnswered_run (e : Engine) (tools : Tools) (rules : List Rule) (files : List String)
    (observer : Option Observer) : (e.run tools rules files observer).state.IsAnswered tools := by
  have start : ({ rules, observer } : RunState).IsAnswered tools := by
    intro path verdict mem
    cases mem
  unfold run
  simp only
  split
  · exact start
  · split
    · exact start
    · exact isAnswered_analyzeFiles start _ _ files

/-- All files of a run that gives a report have come to the rules, and the report is that of their
visits. -/
theorem conclude_of_result {e : Engine} {rules : List Rule} {files : List String}
    {observer : Option Observer} {report : Report}
    (ok : (e.run tools rules files observer).result = .ok report) :
    (∀ p ∈ files, (tools.open? p).isSome = true) ∧
      report = Visit.conclude Report.empty (visits tools rules files) := by
  obtain ⟨quiet, rfl⟩ := Run.result_eq_ok_iff.1 ok
  have some_rules : rules ≠ [] := by
    rintro rfl
    cases quiet
  have some_files : files ≠ [] := by
    rintro rfl
    rw [run, if_neg (by simpa using some_rules)] at quiet
    cases quiet
  have opened : ∀ p ∈ files, (tools.open? p).isSome = true := by
    rw [run_of_ne_nil e some_rules some_files] at quiet
    exact open?_of_analyzeFiles quiet
  refine ⟨opened, ?_⟩
  rcases run_cases e some_rules some_files opened observer with
    ⟨-, -, report⟩ | ⟨-, o, failed⟩ | ⟨f, -, failed⟩
  · exact report
  · cases quiet.symm.trans failed
  · cases quiet.symm.trans failed

/-- The process for a file ends in time with a code other than zero. Then every verdict of a run
about this file is the one about the process, and whenever there is one, however the run ends, the
report has the message with the diagnosis of the process, or with the fixed text when the diagnosis
is hidden. A report that the run gives has it if the file is among those of the run; with distinct
files and confined rules it is the only message of the file. -/
theorem rejection_is_reported (e : Engine) (w : World) (v : Validator)
    (read : String → Except SourceError String) (rules : List Rule) (files : List String)
    (observer : Option Observer) (path : String) (failed : (w.process path).exitCode ≠ 0)
    (inTime : v.isInTime (w.process path) = true) :
    let tools : Tools := { lint := (Application.tools w v).lint, read }
    let run := e.run tools rules files observer
    let p := w.process path
    let message := Message.lint path (if p.isMasked then "Lint check failed" else p.diagnosis)
    (∀ verdict, (path, verdict) ∈ run.state.verdicts →
      verdict = Validator.ended p ∧ message ∈ run.state.report.messages path) ∧
    ∀ report, run.result = .ok report → path ∈ files →
      message ∈ report.messages path ∧
        (files.Nodup → (∀ rule ∈ rules, rule.isConfined = true) →
          report.messages path = [message]) := by
  intro tools run p message
  have judged : tools.lint path = .ok (Validator.ended p) := by
    simp only [tools, Application.tools, Validator.check_of_isInTime inTime]
    rfl
  have rejected : (Validator.ended p).passed = false := beq_eq_false_iff_ne.2 failed
  have opened := Tools.open?_of_rejected judged rejected
  have same : message = Message.lint path (Validator.ended p).complaint := by
    rw [Validator.complaint_ended]
  rw [same]
  refine ⟨fun verdict mem => ?_, fun report ok mem => ?_⟩
  · obtain ⟨checked, told⟩ := isAnswered_run e _ rules files observer path verdict mem
    obtain rfl := Except.ok.inj (judged.symm.trans checked)
    exact ⟨rfl, told rejected⟩
  · obtain ⟨every, rfl⟩ := conclude_of_result ok
    refine ⟨?_, fun distinct confined => ?_⟩
    · rw [visits, Visit.messages_conclude]
      refine List.mem_append_right _ (List.mem_flatMap.2 ?_)
      rw [← Visit.map_path_history every Report.empty rules] at mem
      obtain ⟨visit, known, rfl⟩ := List.mem_map.1 mem
      have opening := Option.some.inj ((Visit.open?_of_mem_history known).symm.trans opened)
      exact ⟨visit, known, by simp [Visit.messages, opening]⟩
    · exact messages_conclude_of_confined confined every distinct mem opened

/-- A world in which the process for `a.py` fails after it has written to its two outputs. -/
def talkingWorld (stdout stderr : String) : World where
  processes := [("a.py", { exitCode := 1, stdout, stderr })]

theorem rejection_is_reported_of_talking :
    ∃ report, (({} : Engine).run (Application.tools (talkingWorld " boom\n" "") ⟨"python", none⟩)
        [.builtin .bareExcept] ["a.py"] none).result = .ok report ∧
      report.messages "a.py" = [Message.lint "a.py" "boom"] := by
  have quiet : (({} : Engine).run (Application.tools (talkingWorld " boom\n" "") ⟨"python", none⟩)
      [.builtin .bareExcept] ["a.py"] none).fault.isNone = true := by decide +kernel
  have ok := Run.result_eq_ok_iff.2 ⟨Option.isNone_iff_eq_none.1 quiet, rfl⟩
  refine ⟨_, ok, ?_⟩
  exact ((rejection_is_reported {} (talkingWorld " boom\n" "") ⟨"python", none⟩ _
    [.builtin .bareExcept] ["a.py"] none "a.py" (by decide) rfl).2 _ ok (by decide)).2
    (by decide) (by decide)

/-- The process has something to say, and yet the only message is the fixed text, because a line
feed is all of its error output. -/
theorem blank_line_hides_diagnosis :
    let p := (talkingWorld "boom" "\n").process "a.py"
    p.exitCode ≠ 0 ∧ p.diagnosis = "boom" ∧
      ∃ report, (({} : Engine).run (Application.tools (talkingWorld "boom" "\n") ⟨"python", none⟩)
          [.builtin .bareExcept] ["a.py"] none).result = .ok report ∧
        (report.messages "a.py").map Message.text = ["Lint check failed"] := by
  have quiet : (({} : Engine).run (Application.tools (talkingWorld "boom" "\n") ⟨"python", none⟩)
      [.builtin .bareExcept] ["a.py"] none).fault.isNone = true := by decide +kernel
  exact ⟨by decide, by decide +kernel, _,
    Run.result_eq_ok_iff.2 ⟨Option.isNone_iff_eq_none.1 quiet, rfl⟩, by decide +kernel⟩

end Engine

end SourceAudit
