import SourceAudit.Discovery
import SourceAudit.Rule.Compiled

/-!
# Loading rules

Rules come from files: those of the built-in directory, each with a factory in a table, then the
files of every further path, each a module with a factory of its own. `plan` lists what there is to
do, in order, from the paths alone; `perform` does it, up to the first fault. A file whose stem
starts with an underscore is no rule file, and a rule that is disabled is not even looked at.
-/

namespace SourceAudit

/-- Where the built-in rules come from. -/
structure Catalogue where
  /-- The directory of the built-in rule files; the shipped one unless a path is given. -/
  directory : Option String := none
  table : List (String × Factory) := Builtin.all.map fun b => (b.stem, .builtin b)
  deriving Repr

/-- A file that may define a rule. -/
structure RuleFile where
  shown : String
  stem : String
  content : Content := .bytes []
  /-- The number of further paths before the one it comes from. -/
  index : Nat := 0
  deriving Repr

/-- The forms that rule modules come in. -/
inductive ModuleForm where
  | source
  | compiled
  /-- A program library of the machine. -/
  | native
  deriving DecidableEq, Repr

namespace RuleFile

def name (f : RuleFile) : String :=
  RuleName.qualify f.stem

/-- The form of the module in the file, which its suffix tells. -/
def form? (f : RuleFile) : Option ModuleForm :=
  let endsIn (suffix : String) : Bool := suffix.toList.isSuffixOf f.shown.toList
  if endsIn ".so" then some .native
  else if endsIn ".py" then some .source
  else if endsIn ".pyc" then some .compiled
  else none

def moduleName (f : RuleFile) : String :=
  "rulecheck_custom_rules.p" ++ natText f.index ++ "." ++ f.stem

/-- What importing the file gives when it has the given form: the module that stands for its
contents. Octets that are source text define nothing, and no octets are a program library. -/
def imports (f : RuleFile) (form : ModuleForm) : Except Fault RuleModule :=
  match f.content, form with
  | .module m, _ => .ok m
  | .bytes _, .source => .ok .bare
  | .bytes octets, .compiled => .ok (.raises (Compiled.failure f.moduleName octets))
  | .bytes _, .native => .error .notLinked

def isRuleFile (f : RuleFile) : Bool :=
  f.stem.toList.head? != some '_'

end RuleFile

/-- One thing to do while loading. -/
inductive LoadTask where
  | note (e : LogEntry)
  | stop (f : Fault)
  | builtin (f : RuleFile)
  | custom (f : RuleFile)
  deriving Repr

namespace Registry

/-- How the shipped directory is shown. -/
def shippedDirectory : String := "<builtin>"

def shippedStems : List String :=
  "__init__" :: Builtin.all.map Builtin.stem

def shippedFiles : List RuleFile :=
  shippedStems.map fun stem => { shown := shippedDirectory ++ "/" ++ stem ++ ".py", stem := stem }

/-- The rule file that a shown path names. -/
def ruleFile (t : FileTree) (shown : String) : RuleFile :=
  let path := Path.ofString shown
  { shown := path.text, stem := path.stem
    content := (t.open? path).toOption.getD (.bytes []) }

/-- What there is to do for the files of a path. -/
def tasksOf (t : FileTree) (path : String) (task : RuleFile → LoadTask) : List LoadTask :=
  match discover t (Path.normalize path) defaultExtensions with
  | .error f => [.stop f]
  | .ok d => d.log.map .note ++ ((d.files.map (ruleFile t)).filter RuleFile.isRuleFile).map task

/-- What there is to do for the built-in rules. -/
def builtinTasks (t : FileTree) (c : Catalogue) : List LoadTask :=
  match c.directory with
  | some path => tasksOf t path .builtin
  | none =>
    .note (discoveredEntry shippedFiles.length shippedDirectory) ::
      (shippedFiles.filter RuleFile.isRuleFile).map .builtin

/-- What there is to do to load the rules. -/
def plan (t : FileTree) (c : Catalogue) (enabled : Bool) (paths : List String) : List LoadTask :=
  (if enabled then builtinTasks t c else []) ++
    paths.zipIdx.flatMap fun (path, index) =>
      tasksOf t path fun f => .custom { f with index := index }

/-- The rules loaded so far, by name, and the log. -/
structure Loaded where
  rules : List (String × Rule) := []
  log : List LogEntry := []
  deriving Repr

namespace Loaded

def has (l : Loaded) (name : String) : Bool :=
  l.rules.any (·.1 == name)

def note (l : Loaded) (e : LogEntry) : Loaded :=
  { l with log := l.log ++ [e] }

def noteRule (l : Loaded) (what name : String) : Loaded :=
  l.note ⟨.debug, "rulecheck.registry", what ++ " " ++ name⟩

def push (l : Loaded) (name : String) (r : Rule) : Loaded :=
  { l with rules := l.rules ++ [(name, r)] }.noteRule "Loaded rule" name

end Loaded

def isNamed (name : String) (r : Rule) : Bool :=
  match r.name? with
  | some (.text s) => s == name
  | _ => false

/-- A failure of custom code while loading: recorded as a refusal, unless it interrupts or asking
for its text raises. -/
def loadFault (f : Failure) (refusal : String → Refusal) : Fault :=
  if f.interrupts then .failure f
  else
    match f.telling with
    | some e => .failure (.raised e)
    | none => .refused (refusal f.message)

/-- The rule of the given name that a factory makes. -/
def instantiate (name : String) (factory : Factory) (origin : String) : Except Fault Rule :=
  match factory.call with
  | .error f => .error (loadFault f (.factoryFailed origin))
  | .ok (.value _) => .error (.refused (.notARule origin))
  | .ok (.rule r) =>
    if !r.conforms then .error (.refused (.notARule origin))
    else if isNamed name r then .ok r
    else .error (.refused (.misnamed origin (r.name?.getD .null) name))

/-- The factory of a rule file. -/
def customFactory (f : RuleFile) : Except Fault Factory :=
  match f.form? with
  | none => .error (.refused (.notLoadable f.shown))
  | some form =>
    match f.imports form with
    | .error e => .error e
    | .ok (.raises e) => .error (loadFault (.raised e) (.moduleFailed f.shown))
    | .ok .bare => .error (.refused (.noFactory f.shown))
    | .ok (.factory factory) =>
      if factory.isCallable then .ok factory else .error (.refused (.noFactory f.shown))

def loadBuiltin (c : Catalogue) (l : Loaded) (f : RuleFile) : Except Fault Loaded :=
  match c.table.find? (·.1 == f.stem) with
  | none => .error (.refused (.noBuiltin f.shown))
  | some (_, factory) =>
    match instantiate f.name factory f.shown with
    | .error e => .error e
    | .ok r =>
      if l.has f.name then .error (.refused (.definedTwice f.name)) else .ok (l.push f.name r)

def loadCustom (l : Loaded) (f : RuleFile) : Except Fault Loaded :=
  if l.has f.name then .error (.refused (.alreadyLoaded f.name f.shown))
  else
    match customFactory f with
    | .error e => .error e
    | .ok factory =>
      match instantiate f.name factory f.shown with
      | .error e => .error e
      | .ok r => .ok (l.push f.name r)

def performTask (c : Catalogue) (disabled : List String) (l : Loaded) :
    LoadTask → Except Fault Loaded
  | .note e => .ok (l.note e)
  | .stop f => .error f
  | .builtin f =>
    if disabled.contains f.name then .ok (l.noteRule "Skipping disabled rule" f.name)
    else loadBuiltin c l f
  | .custom f =>
    if disabled.contains f.name then .ok (l.noteRule "Skipping disabled rule" f.name)
    else loadCustom l f

/-- Does everything, up to the first fault. -/
def perform (c : Catalogue) (disabled : List String) (l : Loaded) :
    List LoadTask → Loaded × Option Fault
  | [] => (l, none)
  | task :: tasks =>
    match performTask c disabled l task with
    | .error e => (l, some e)
    | .ok l => perform c disabled l tasks

/-- The names of the rules to leave out, or the first value that is no such name. -/
def disabledNames : List Value → Except Refusal (List String)
  | [] => .ok []
  | v :: vs =>
    match RuleName.ofValue? v with
    | none => .error (.badRuleName v)
    | some name => (disabledNames vs).map (name :: ·)

end Registry

/-- What loading rules gives: the rules, by name, or a fault, and the log in either case. -/
structure LoadResult where
  outcome : Except Fault (List (String × Rule))
  log : List LogEntry

/-- Loads the rules: the built-in ones first, then those of each path in order. -/
def loadRules (t : FileTree) (c : Catalogue) (enabled : Bool) (paths : List String)
    (disabled : List Value) : LoadResult :=
  match Registry.disabledNames disabled with
  | .error r => ⟨.error (.refused r), []⟩
  | .ok names =>
    let (l, fault) := Registry.perform c names {} (Registry.plan t c enabled paths)
    match fault with
    | some f => ⟨.error f, l.log⟩
    | none => ⟨.ok l.rules, l.log⟩

end SourceAudit
