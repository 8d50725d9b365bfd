import SourceAudit.Engine
import SourceAudit.Registry
import SourceAudit.Settings

/-!
# The application

The application keeps a registry, the wanted suffixes, a time limit and an observer. A run finds
the validator, loads the rules, finds the files and gives them to a new engine. Nothing is checked
before all of that has succeeded.
-/

namespace SourceAudit

/-- The analyzer with its settings and what it remembers of its last run. -/
structure Application where
  registry : Registry := {}
  extensions : List String := defaultExtensions
  lintTimeout : Option Quantity := none
  observer : Option Observer := none
  engine : Option Engine := none
  /-- The number of engines made so far, which is the identity of the next. -/
  engines : Nat := 0
  deriving Repr

/-- What a run of the application did and gave. -/
structure Analysis where
  result : Except Fault Report
  validator : Option Validator := none
  /-- What was logged before the engine began. -/
  log : List LogEntry := []
  actions : List Action := []
  output : String := ""
  events : List Event := []

namespace Analysis

/-- An analysis that did not get to the engine. -/
def stopped (f : Fault) (log : List LogEntry) : Analysis where
  result := .error f
  log := log

def fullLog (a : Analysis) : List LogEntry :=
  a.log ++ a.actions.flatMap Action.log

/-- The validator processes that were started: the program and the file of each. -/
def commands (a : Analysis) : List (String × String) :=
  match a.validator with
  | none => []
  | some v => (a.actions.filterMap Action.started?).map fun path => (v.executable, path)

end Analysis

namespace Application

/-- Adds a path for rules; a broken wording names none. -/
def addPath (t : FileTree) (r : Registry) : Text.Wording → Except Fault Registry
  | .text path => r.addPath t path
  | name => .error (.refused (.rulePathNotFound name.display))

def addPaths (t : FileTree) (r : Registry) : List Text.Wording → Except Fault Registry
  | [] => .ok r
  | path :: paths =>
    match addPath t r path with
    | .error e => .error e
    | .ok r => addPaths t r paths

def disableAll (r : Registry) : List Text.Wording → Except Refusal Registry
  | [] => .ok r
  | name :: names =>
    match r.disable (.ofWording name) with
    | .error e => .error e
    | .ok r => disableAll r names

/-- The application of a draft: validates, then adds the paths, then leaves out the rules. No file
has a broken wording as its suffix. -/
def ofDraft (t : FileTree) (d : Draft) : Except Fault Application := do
  let s ← Draft.orFault d.validate
  let registry ← addPaths t { enableBuiltin := s.builtinRules } s.rulePaths
  let registry ← Draft.orFault (disableAll registry s.disabledRules)
  let extensions := s.extensions.filterMap Text.Wording.text?
  return { registry, extensions, lintTimeout := s.lintTimeout }

/-- The number of files of the last run; zero when it did not get to them. -/
def numberOfFiles (a : Application) : Nat :=
  (a.engine.map Engine.numberOfFiles).getD 0

/-- The engine's syntax check and reader in a world. -/
def tools (w : World) (v : Validator) : Tools where
  lint := fun path => (v.check w path).mapError .digits
  read := SourceText.read w.tree

/-- What is logged before the files are processed. -/
def startEntry (files rules : Nat) : LogEntry :=
  ⟨.info, "rulecheck.application",
    "Analyzing " ++ natText files ++ " file(s) with " ++ natText rules ++ " rule(s)"⟩

/-- Gives files and rules to a new engine. -/
def analyze (a : Application) (w : World) (v : Validator) (rules : List Rule)
    (files : List String) (log : List LogEntry) : Application × Analysis :=
  let engine : Engine := { identity := a.engines }
  let run := engine.run (tools w v) rules files a.observer
  ({ a with
      observer := run.state.observer, engine := some run.engine, engines := a.engines + 1 },
    { result := run.result, validator := some v,
      log := log ++ [startEntry files.length rules.length],
      actions := run.state.actions, output := run.state.output, events := run.state.events })

/-- Analyzes what is at the path `input`: the application afterwards, and what was done. -/
def run (a : Application) (w : World) (validator : Text.Wording) (input : String) :
    Application × Analysis :=
  let a := { a with engine := none }
  if validator.isBlank then (a, .stopped (.refused .blankValidator) [])
  else if Text.isBlankText input then (a, .stopped (.refused .blankInput) [])
  else
    match Validator.resolveWording w validator with
    | .error f => (a, .stopped f [])
    | .ok executable =>
      let v : Validator := ⟨executable, a.lintTimeout⟩
      let (registry, loaded) := a.registry.load w.tree
      let a := { a with registry := registry }
      match loaded.outcome with
      | .error f => (a, .stopped f loaded.log)
      | .ok rules =>
        match discover w.tree input a.extensions with
        | .error f => (a, .stopped f loaded.log)
        | .ok d => a.analyze w v (rules.map (·.2)) d.files (loaded.log ++ d.log)

end Application

end SourceAudit
