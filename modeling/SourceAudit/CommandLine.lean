import SourceAudit.Log
import SourceAudit.Text.Digit
import SourceAudit.Text.Quoted

/-!
# Command lines

A command line is a list of words. Each word is an option, the separator behind which nothing is an
option, or a plain word. A long option may be shortened to any beginning that no other option has,
and takes its value behind an equals sign or from the next word; short options may be joined. A
separator that is joined to an option leaves the option without a text.
`CommandLine.parse` gives the arguments, or says that help is wanted or what is wrong. Which of two
mistakes is told is part of the rules: ambiguous words come first, then the options from left to
right, then a missing path, then words that have no meaning.
-/

namespace SourceAudit.CommandLine

/-- The options. -/
inductive Switch where
  | help
  | validator
  | config
  | rulesPath
  | disable
  | noBuiltinRules
  | extension
  | format
  | out
  | progress
  | verbose
  | quiet
  deriving DecidableEq, Repr

namespace Switch

def all : List Switch :=
  [.help, .validator, .config, .rulesPath, .disable, .noBuiltinRules, .extension, .format, .out,
   .progress, .verbose, .quiet]

/-- How an option is written. -/
def names : Switch → List String
  | .help => ["-h", "--help"]
  | .validator => ["--validator"]
  | .config => ["--config"]
  | .rulesPath => ["--rules-path", "-r"]
  | .disable => ["--disable", "-d"]
  | .noBuiltinRules => ["--no-builtin-rules"]
  | .extension => ["--extension"]
  | .format => ["--format"]
  | .out => ["--out", "--output"]
  | .progress => ["--progress"]
  | .verbose => ["--verbose", "-v"]
  | .quiet => ["--quiet", "-q"]

/-- How an option is called in messages. -/
def label (s : Switch) : String :=
  String.intercalate "/" s.names

def takesValue : Switch → Bool
  | .validator | .config | .rulesPath | .disable | .extension | .format | .out => true
  | _ => false

/-- All ways of writing options, with the options. -/
def table : List (String × Switch) :=
  all.flatMap fun s => s.names.map fun n => (n, s)

/-- The option that is written in exactly this way. -/
def ofName? (name : String) : Option Switch :=
  table.lookup name

end Switch

/-- What is wrong with a command line. -/
inductive Misuse where
  /-- A shortened option fits several. -/
  | ambiguous (word : String) (candidates : List String)
  | noValue (s : Switch)
  /-- An option has a value that it cannot have. -/
  | valueIgnored (s : Switch) (value : String)
  | badFormat (value : String)
  | excluded (s other : Switch)
  | noPath
  | unrecognized (words : List String)
  deriving DecidableEq, Repr

def Misuse.message : Misuse → String
  | .ambiguous word candidates =>
    "ambiguous option: " ++ word ++ " could match " ++ String.intercalate ", " candidates
  | .noValue s => "argument " ++ s.label ++ ": expected one argument"
  | .valueIgnored s value =>
    "argument " ++ s.label ++ ": ignored explicit argument " ++ Text.quoted value
  | .badFormat value =>
    "argument " ++ Switch.format.label ++ ": invalid choice: " ++ Text.quoted value ++
      " (choose from 'text', 'json')"
  | .excluded s other =>
    "argument " ++ s.label ++ ": not allowed with argument " ++ other.label
  | .noPath => "the following arguments are required: path"
  | .unrecognized words => "unrecognized arguments: " ++ String.intercalate " " words

/-- Why a command line gives no arguments. -/
inductive Stop where
  | help
  | misuse (m : Misuse)
  deriving DecidableEq, Repr

/-- What a command line asks for. -/
structure Arguments where
  path : String := ""
  validator : Option String := none
  config : Option String := none
  /-- Further paths for rules; an option without a text counts. -/
  rulePaths : List (Option String) := []
  disabledRules : List (Option String) := []
  noBuiltinRules : Bool := false
  extensions : List (Option String) := []
  json : Bool := false
  out : Option String := none
  progress : Bool := false
  verbose : Bool := false
  quiet : Bool := false
  deriving DecidableEq, Repr

/-- The least level that is logged. -/
def Arguments.logLevel (a : Arguments) : Level :=
  if a.verbose then .debug else if a.quiet then .error else .warning

/-! ## Words -/

/-- What a word is. -/
inductive Word where
  | plain (s : String)
  | separator
  /-- An option; `short` when it is written with one dash. Behind it in the word may be a text. -/
  | option (s : Switch) (short : Bool) (attached : Option (List Char))
  /-- What looks like an option and is none. -/
  | unknown (s : String)
  deriving DecidableEq, Repr

/-- The parts of a word before and behind its first equals sign. -/
def splitValue (cs : List Char) : List Char × Option (List Char) :=
  match cs.dropWhile (· != '=') with
  | _ :: value => (cs.takeWhile (· != '='), some value)
  | [] => (cs, none)

/-- Whether a word is a negative number in the digits of any script, one newline at its end
apart. -/
def isNegativeNumber (cs : List Char) : Bool :=
  let cs := if cs.getLast? = some '\n' then cs.dropLast else cs
  match cs with
  | '-' :: rest =>
    (!rest.isEmpty && rest.all Text.isDigit) ||
      (match rest.dropWhile Text.isDigit with
        | '.' :: fraction => !fraction.isEmpty && fraction.all Text.isDigit
        | _ => false)
  | _ => false

/-- Whether the option is written with one dash. -/
def isShort (name : List Char) : Bool :=
  name[1]? != some '-'

/-- The options that a shortened word may mean, with the values in the word. -/
def candidates (cs : List Char) : List (String × Word) :=
  if isShort cs then
    Switch.table.filterMap fun (name, s) =>
      if name.toList = cs.take 2 then some (name, .option s true (some (cs.drop 2)))
      else if cs.isPrefixOf name.toList then some (name, .option s true none)
      else none
  else
    let (start, value) := splitValue cs
    Switch.table.filterMap fun (name, s) =>
      if start.isPrefixOf name.toList then
        some (name, .option s (isShort name.toList) value)
      else none

/-- What a word before the separator is. -/
def classify (word : String) : Except Misuse Word :=
  let cs := word.toList
  if cs.head? != some '-' then .ok (.plain word)
  else
    match Switch.ofName? word with
    | some s => .ok (.option s (isShort cs) none)
    | none =>
      if cs.length = 1 then .ok (.plain word)
      else
        let (name, value) := splitValue cs
        match value, Switch.ofName? (String.ofList name) with
        | some v, some s => .ok (.option s (isShort name) (some v))
        | _, _ =>
          match candidates cs with
          | [(_, w)] => .ok w
          | c :: rest => .error (.ambiguous word ((c :: rest).map (·.1)))
          | [] =>
            if isNegativeNumber cs || cs.contains ' ' then .ok (.plain word)
            else .ok (.unknown word)

def classifyAll : List String → Except Misuse (List Word)
  | [] => .ok []
  | word :: rest =>
    if word = "--" then .ok (.separator :: rest.map .plain)
    else
      match classify word with
      | .error m => .error m
      | .ok w => (classifyAll rest).map (w :: ·)

/-! ## Joined options -/

/-- The options of one word. -/
structure Cluster where
  /-- Options in order, with the texts that stand in the word. -/
  taken : List (Switch × Option String) := []
  /-- The last option, when no text stands behind it in the word. -/
  last : Option Switch := none
  deriving DecidableEq, Repr

namespace Cluster

/-- Puts an option without a value in front. -/
def cons (s : Switch) (c : Cluster) : Cluster :=
  { c with taken := (s, none) :: c.taken }

/-- The value that a text gives to the option before it: the text, unless it is the separator. -/
def valueOf (text : List Char) : Option String :=
  if text = ['-', '-'] then none else some (String.ofList text)

/-- The options of a word that has a text behind the option `s`. Behind a short option without a
value, each character of the text is a short option in turn. -/
def ofText (s : Switch) (short : Bool) (text : List Char) : Except Misuse Cluster :=
  if s.takesValue then .ok { taken := [(s, valueOf text)] }
  else
    match text with
    | [] => .error (.valueIgnored s "")
    | c :: rest =>
      if !short then .error (.valueIgnored s (String.ofList text))
      else
        match Switch.ofName? (String.ofList ['-', c]) with
        | none => .error (.valueIgnored s (String.ofList text))
        | some next =>
          if rest.isEmpty then .ok { taken := [(s, none)], last := some next }
          else (ofText next true rest).map (cons s)

/-- The options of a word. -/
def ofOption (s : Switch) (short : Bool) : Option (List Char) → Except Misuse Cluster
  | none => .ok { last := some s }
  | some text => ofText s short text

end Cluster

/-! ## Arguments -/

/-- The form of the report that a text chooses; without a text it is the plain one. -/
def formatOf : Option String → Except Misuse Bool
  | none => .ok false
  | some v =>
    if v = "text" then .ok false else if v = "json" then .ok true else .error (.badFormat v)

/-- Does what an option with its text asks for. -/
def take (a : Arguments) (s : Switch) (text : Option String) : Except Stop Arguments :=
  match s with
  | .help => .error .help
  | .validator => .ok { a with validator := text }
  | .config => .ok { a with config := text }
  | .rulesPath => .ok { a with rulePaths := a.rulePaths ++ [text] }
  | .disable => .ok { a with disabledRules := a.disabledRules ++ [text] }
  | .noBuiltinRules => .ok { a with noBuiltinRules := true }
  | .extension => .ok { a with extensions := a.extensions ++ [text] }
  | .format =>
    match formatOf text with
    | .error m => .error (.misuse m)
    | .ok json => .ok { a with json }
  | .out => .ok { a with out := text }
  | .progress => .ok { a with progress := true }
  | .verbose =>
    if a.quiet then .error (.misuse (.excluded .verbose .quiet)) else .ok { a with verbose := true }
  | .quiet =>
    if a.verbose then .error (.misuse (.excluded .quiet .verbose)) else .ok { a with quiet := true }

/-- Does what options with their texts ask for. -/
def takeAll (a : Arguments) : List (Switch × Option String) → Except Stop Arguments
  | [] => .ok a
  | (s, v) :: rest =>
    match take a s v with
    | .error e => .error e
    | .ok a => takeAll a rest

/-- What is known after some words. -/
structure Progress where
  arguments : Arguments := {}
  hasPath : Bool := false
  extras : List String := []
  deriving DecidableEq, Repr

namespace Progress

/-- Uses a plain word. -/
def word (p : Progress) (s : String) : Progress :=
  if p.hasPath then { p with extras := p.extras ++ [s] }
  else { p with arguments := { p.arguments with path := s }, hasPath := true }

/-- Uses the options of one word. -/
def options (p : Progress) (c : Cluster) (last : List (Switch × Option String)) :
    Except Stop Progress :=
  (takeAll p.arguments (c.taken ++ last)).map fun a => { p with arguments := a }

/-- Uses the words from left to right. The word for the path takes a separator next to it along. -/
def run (p : Progress) : List Word → Except Stop Progress
  | [] => .ok p
  | .plain s :: .separator :: rest =>
    if p.hasPath then (p.word s).run (.separator :: rest) else (p.word s).run rest
  | .plain s :: rest => (p.word s).run rest
  | .separator :: .plain s :: rest =>
    if p.hasPath then ((p.word "--").word s).run rest else (p.word s).run rest
  | .separator :: rest => ({ p with extras := p.extras ++ ["--"] }).run rest
  | .unknown s :: rest => ({ p with extras := p.extras ++ [s] }).run rest
  | .option s short value :: rest =>
    match Cluster.ofOption s short value with
    | .error m => .error (.misuse m)
    | .ok c =>
      match c.last with
      | none =>
        match p.options c [] with
        | .error e => .error e
        | .ok p => p.run rest
      | some s =>
        if s.takesValue then
          match rest with
          | .plain v :: rest =>
            match p.options c [(s, some v)] with
            | .error e => .error e
            | .ok p => p.run rest
          | _ => .error (.misuse (.noValue s))
        else
          match p.options c [(s, none)] with
          | .error e => .error e
          | .ok p => p.run rest
termination_by ws => ws.length

end Progress

/-- The arguments of a command line. -/
def parse (words : List String) : Except Stop Arguments :=
  match classifyAll words with
  | .error m => .error (.misuse m)
  | .ok ws =>
    match Progress.run {} ws with
    | .error e => .error e
    | .ok p =>
      if !p.hasPath then .error (.misuse .noPath)
      else if !p.extras.isEmpty then .error (.misuse (.unrecognized p.extras))
      else .ok p.arguments

end SourceAudit.CommandLine
