import SourceAudit.Fault
import SourceAudit.Rule.Check
import SourceAudit.Validator

/-!
# The analysis of files

The engine takes the files in order. Each is checked for syntax first; a file that is not accepted
gets one message and no rule sees it. An accepted file is read and cut into tokens once, and every
rule checks it from its first token on. A rule that fails gets a message of its own and the next
rule goes on; what is raised while the message is made ends the run. After each file the observer is
told. Everything the engine does is a list of actions, from which the log and the started processes
can be read off.
-/

namespace SourceAudit

/-- What the engine does, in order. -/
inductive Action where
  | linted (path : String) (verdict : Verdict)
  /-- The check of a file for syntax gave no verdict. -/
  | unjudged (path : String)
  | read (path : String)
  | tokenized (path : String)
  /-- A rule was started on a file with the cursor at a position. -/
  | dispatched (path : String) (rule : Value) (position : Nat)
  | failed (path : String) (rule : Value) (text : String)
  /-- The observer was told about a file, with the report as it was then. -/
  | notified (notice : Notice) (report : Report)
  | finished (report : Report)
  deriving Repr

namespace Action

def log : Action → List LogEntry
  | .linted path verdict => [verdict.log path]
  | .unjudged _ | .read _ | .tokenized _ | .notified .. => []
  | .dispatched path rule _ =>
    [⟨.debug, "rulecheck.engine", "Checking " ++ path ++ " with " ++ rule.display⟩]
  | .failed path rule text =>
    [⟨.warning, "rulecheck.engine",
      "Rule " ++ rule.display ++ " failed on " ++ path ++ ": " ++ text⟩,
     ⟨.debug, "rulecheck.engine", "Rule failure traceback\n<traceback>"⟩]
  | .finished report =>
    [⟨.debug, "rulecheck.engine",
      "Analyzed " ++ natText report.numberOfFiles ++ " file(s): " ++ natText report.errorCount ++
        " error(s), " ++ natText report.warningCount ++ " warning(s)"⟩]

/-- The file whose validator process an action starts. -/
def started? : Action → Option String
  | .linted path _ | .unjudged path => some path
  | _ => none

end Action

/-- What the engine works with. -/
structure Tools where
  lint : String → Except Fault Verdict
  read : String → Except SourceError String

/-- What a run has at some moment. -/
structure RunState where
  report : Report := {}
  /-- The rules, with their counts. -/
  rules : List Rule
  observer : Option Observer := none
  output : String := ""
  events : List Event := []
  actions : List Action := []
  deriving Repr

namespace RunState

def note (p : RunState) (actions : List Action) : RunState :=
  { p with actions := p.actions ++ actions }

end RunState

namespace Engine

/-- What one rule leaves behind on one file. -/
structure Dispatched where
  rule : Rule
  report : Report
  actions : List Action
  /-- The failure that ends the run. -/
  fault : Option Failure
  deriving Repr

/-- The message about a rule that failed. Halves of pairs in its name stand there as `Value.display`
reads them. -/
def failureMessage (path : String) (name : Value) (f : Failure) : Message :=
  Message.rule path ("Rule " ++ name.display ++ ": " ++ f.message) name

/-- What raises when the message about a rule that failed is made: the rule's name cannot be shown,
or asking for the text of the failure raises. -/
def untold? (name : Value) (f : Failure) : Option Raised :=
  if name.isShowable then f.telling else some .tooManyDigits

/-- Starts a rule on a file. -/
def dispatch (rule : Rule) (file : TokenFile) (report : Report) : Dispatched :=
  let name := rule.reportName
  let start := file.rewind
  let began := Action.dispatched file.path name start.position
  let done := rule.check start report
  match done.failure with
  | none => ⟨done.session.rule, done.report, [began], none⟩
  | some f =>
    if f.interrupts then ⟨done.session.rule, done.report, [began], some f⟩
    else
      match untold? name f with
      | some e => ⟨done.session.rule, done.report, [began], some (.raised e)⟩
      | none =>
        let did := [began, .failed file.path name f.message]
        match done.report.addMessage (failureMessage file.path name f) with
        | .ok report => ⟨done.session.rule, report, did, none⟩
        | .error e => ⟨done.session.rule, done.report, did, some (.unknownFile e)⟩

/-- What all rules leave behind on one file. -/
structure Swept where
  rules : List Rule
  report : Report
  actions : List Action
  /-- The failure that ends the run. -/
  fault : Option Failure
  deriving Repr

/-- Starts the rules on a file, one after the other. -/
def sweep (file : TokenFile) (report : Report) : List Rule → Swept
  | [] => ⟨[], report, [], none⟩
  | rule :: rules =>
    let d := dispatch rule file report
    match d.fault with
    | some f => ⟨d.rule :: rules, d.report, d.actions, some f⟩
    | none =>
      let s := sweep file d.report rules
      ⟨d.rule :: s.rules, s.report, d.actions ++ s.actions, s.fault⟩

/-- Processes one file, up to the observer. -/
def analyzeFile (tools : Tools) (p : RunState) (path : String) : RunState × Option Fault :=
  let report := p.report.addFile path
  let p := { p with report := report }
  match tools.lint path with
  | .error f => (p.note [.unjudged path], some f)
  | .ok verdict =>
    let p := p.note [.linted path verdict]
    if !verdict.passed then
      match report.addMessage (Message.lint path verdict.complaint) with
      | .ok report => ({ p with report := report }, none)
      | .error e => (p, some (.failure (.unknownFile e)))
    else
      let p := p.note [.read path]
      match tools.read path with
      | .error e => (p, some (.source e))
      | .ok source =>
        let p := p.note [.tokenized path]
        match TokenFile.ofSource path source with
        | .error e => (p, some (.lexical e))
        | .ok file =>
          let s := sweep file report p.rules
          let p := { p with report := s.report, rules := s.rules }.note s.actions
          (p, s.fault.map .failure)

/-- Tells the observer about a file. -/
def tell (p : RunState) (n : Notice) : RunState × Option Fault :=
  match p.observer with
  | none => (p, none)
  | some o =>
    let r := o.notify p.report n
    ({ p with
        observer := some r.observer, output := p.output ++ r.output,
        events := p.events ++ r.event.toList }.note [.notified n p.report],
      r.failure.map .observer)

/-- Processes files, up to the first fault. -/
def analyzeFiles (tools : Tools) (engine : Nat) (total : Int) (p : RunState) :
    List String → RunState × Option Fault
  | [] => (p.note [.finished p.report], none)
  | path :: paths =>
    match analyzeFile tools p path with
    | (p, some f) => (p, some f)
    | (p, none) =>
      match tell p ⟨path, engine, total⟩ with
      | (p, some f) => (p, some f)
      | (p, none) => analyzeFiles tools engine total p paths

end Engine

/-- An engine: its identity and the number of files of its last run. -/
structure Engine where
  /-- What tells engines apart. -/
  identity : Nat := 0
  /-- The number of files of its last run that began. -/
  numberOfFiles : Nat := 0
  deriving DecidableEq, Repr

/-- A run: the engine afterwards, what it left behind and how it ended. -/
structure Run where
  engine : Engine
  state : RunState
  fault : Option Fault
  deriving Repr

namespace Run

/-- The report of a run that was not ended by a fault. -/
def result (r : Run) : Except Fault Report :=
  match r.fault with
  | none => .ok r.state.report
  | some f => .error f

end Run

/-- Runs the rules on the files. -/
def Engine.run (e : Engine) (tools : Tools) (rules : List Rule) (files : List String)
    (observer : Option Observer) : Run :=
  let start : RunState := { rules := rules, observer := observer }
  if rules.isEmpty then ⟨e, start, some (.refused .noRules)⟩
  else if files.isEmpty then ⟨e, start, some (.refused .noFiles)⟩
  else
    let (p, f) := Engine.analyzeFiles tools e.identity files.length start files
    ⟨{ e with numberOfFiles := files.length }, p, f⟩

end SourceAudit
