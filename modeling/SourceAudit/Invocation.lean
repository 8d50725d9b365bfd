import SourceAudit.Application
import SourceAudit.CommandLine
import SourceAudit.CommandLine.Help
import SourceAudit.Report.Payload
import SourceAudit.Report.Table
import SourceAudit.Settings.Load

/-!
# Invocations of the program

One call of the program with its command line: settings are loaded and overridden, the application
is made and run, and the report is printed and perhaps written to a file. The exit code is that of
the report, 2 for a command line that is not understood, and 3 when the analyzer refuses to run.
-/

namespace SourceAudit

/-- How a call of the program ends. -/
inductive Ending where
  | exit (code : Nat)
  /-- With what custom code gave in place of an exit code. -/
  | quit (code : Value)
  | fault (f : Fault)
  deriving Repr

/-- What a call of the program did. -/
structure Invocation where
  ending : Ending
  stdout : String := ""
  /-- What it printed as errors and log. -/
  stderr : String := ""
  /-- The validator processes that it started. -/
  commands : List (String × String) := []
  tree : FileTree
  refusal : Option Refusal := none

namespace Invocation

open CommandLine

/-- The exit code for a command line that is not understood. -/
def usageCode : Nat := 2

/-- The exit code when the analyzer refuses to run. -/
def refusalCode : Nat := 3

def errorLine (text : String) : String :=
  program ++ ": error: " ++ text ++ "\n"

/-- Texts as an override; in the place of a missing text stands an empty list. -/
def textsValue (texts : List (Option String)) : Value :=
  .list (texts.map fun text => (text.map Value.text).getD (.list []))

/-- What the arguments override. -/
def overrides (a : Arguments) : Overrides where
  validator := (a.validator.map Value.text).getD .null
  builtinRules := if a.noBuiltinRules then .bool false else .null
  rulePaths := textsValue a.rulePaths
  disabledRules := textsValue a.disabledRules
  extensions := textsValue a.extensions

/-- The settings that the arguments ask for. -/
def draft (t : FileTree) (standard : Draft) (a : Arguments) : Except Fault Draft := do
  let base ←
    match a.config with
    | some path => if path.isEmpty then .ok standard else Draft.load t standard path
    | none => .ok standard
  base.merge (overrides a)

/-- The application that the arguments ask for, and its validator. -/
def application (t : FileTree) (standard : Draft) (a : Arguments) :
    Except Fault (Application × Text.Wording) := do
  let d ← draft t standard a
  let app ← Application.ofDraft t d
  let app := if a.progress then { app with observer := some (.dots {}) } else app
  return (app, d.validator.wording?.getD default)

/-- How a call ends by a fault that is handled nowhere. -/
def endingOf (f : Fault) : Ending :=
  match f.exitCode? with
  | some code => .quit code
  | none => .fault f

/-- A call that ends before the report. An exception of custom code that counts as a refusal is
handled like one, if it has a text. -/
def ofFault (t : FileTree) (f : Fault) : Invocation :=
  match f with
  | .refused r =>
    { ending := .exit refusalCode, stderr := errorLine r.message, tree := t, refusal := some r }
  | f =>
    match f.raised?.filter Raised.isRefusal with
    | none => { ending := endingOf f, tree := t }
    | some e =>
      match e.telling with
      | none => { ending := .exit refusalCode, stderr := errorLine e.message, tree := t }
      | some x => { ending := endingOf (.failure (.raised x)), tree := t }

/-- Prints a report, and writes it to a file where the arguments ask for one. -/
def deliver {σ : Type} [Text.Spelled σ] (t : FileTree) (a : Arguments) (r : Report σ) :
    Invocation :=
  let table := (r.map Text.Spelled.display).table Report.defaultLimit ++ "\n"
  let out := a.out.filter fun path => !path.isEmpty
  if !r.isPrintable Report.defaultLimit then { ending := .fault .unencodable, tree := t }
  else
    match out with
    | some path =>
      let written := t.write (Path.ofString path) (.bytes r.payload.toUTF8.toList)
      match written.error with
      | some e => { ending := .fault (.file e), stdout := table, tree := written.tree }
      | none =>
        { ending := .exit r.exitCode, stdout := table ++ "\nReport written to " ++ path ++ "\n",
          tree := written.tree }
    | none =>
      let more := if a.json then "\nJSON Report\n" ++ r.payload ++ "\n" else ""
      { ending := .exit r.exitCode, stdout := table ++ more, tree := t }

/-- Runs the application and delivers the report. -/
def analyze (w : World) (a : Arguments) (app : Application) (validator : Text.Wording) :
    Invocation :=
  let analysis := (app.run w validator a.path).2
  let rest :=
    match analysis.result with
    | .error f => ofFault w.tree f
    | .ok r => deliver w.tree a r
  { rest with
    stdout := analysis.output ++ rest.stdout
    stderr := LogEntry.render a.logLevel analysis.fullLog ++ rest.stderr
    commands := analysis.commands }

/-- A call of the program; `interpreter` is the validator when nothing else is said. -/
def run (w : World) (interpreter : String) (words : List String) : Invocation :=
  match CommandLine.parse words with
  | .error .help => { ending := .exit 0, stdout := help, tree := w.tree }
  | .error (.misuse m) =>
    { ending := .exit usageCode, stderr := usage ++ errorLine m.message, tree := w.tree }
  | .ok a =>
    match application w.tree (Draft.standard interpreter) a with
    | .error f => ofFault w.tree f
    | .ok (app, validator) => analyze w a app validator

end Invocation

end SourceAudit
