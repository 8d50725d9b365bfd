import SourceAudit.Rule
import SourceAudit.Text.Word

/-!
# Checking a file

A rule checks a token file and adds messages to a report. During a check the rule is bound to both;
what it does moves the cursor of the bound file and extends the bound report, and stops at the
first failure. Outside a check it is bound to nothing, and reporting fails. `Session` is a rule
with its binding, `Session.check` a whole check and `Rule.check` the same for a rule used once.
-/

namespace SourceAudit

/-- The file and the report a rule is bound to during a check. -/
@[ext]
structure Binding where
  file : TokenFile
  report : Report
  deriving Repr

namespace Binding

/-- Adds a message to the bound report. -/
def add (b : Binding) (m : Message) : Binding × Option Failure :=
  match b.report.addMessage m with
  | .ok r => ({ b with report := r }, none)
  | .error e => (b, some (.unknownFile e))

def addAll (b : Binding) : List Message → Binding × Option Failure
  | [] => (b, none)
  | m :: ms =>
    match b.add m with
    | (b, none) => b.addAll ms
    | (b, some e) => (b, some e)

/-- Visits the tokens from the cursor on, moving the cursor past each. The visit of a token may
give a message about it. -/
def walk (visit : TokenFile → Token → Option Message) (b : Binding) : Binding × Option Failure :=
  match _h : b.file.current with
  | none => (b, none)
  | some t =>
    match _hb : b.addAll (visit b.file t).toList with
    | (_, some e) => (b, some e)
    | (c, none) => walk visit { file := b.file.advance, report := c.report }
termination_by b.file.tokens.size - b.file.position
decreasing_by
  have hlt : b.file.position < b.file.tokens.size := by
    have := congrArg Option.isSome _h
    rw [TokenFile.current_isSome_iff] at this
    simpa [TokenFile.valid] using this
  simp only [TokenFile.advance, hlt, if_true]
  omega

end Binding

/-! ## The built-in rules -/

namespace Builtin

/-- A handler keyword directly before a colon. -/
def bareExceptAt (f : TokenFile) (t : Token) : Option Message :=
  if t.isA Kind.name (some "except") && (f.peek 1).any (·.isA Kind.op (some ":")) then
    some (Message.warning f.path ("Bare except clause on line " ++ intText t.line) (some t))
  else none

/-- White space with a tab that opens a block. -/
def tabIndentAt (f : TokenFile) (t : Token) : Option Message :=
  if t.kind = Kind.indent ∧ t.text.toList.contains '\t' then
    some (Message.error f.path ("Tab used for indentation on line " ++ intText t.line) (some t))
  else none

/-- The words that mark unfinished work. -/
def markers : List (List Char) :=
  ["TODO", "FIXME", "XXX"].map String.toList

/-- Whether `m` starts here and ends before a character that is no word character. -/
def markerHere (cs m : List Char) : Bool :=
  m.isPrefixOf cs && !((cs.drop m.length).head?.any Text.isWord)

/-- The first marker that stands alone; `inWord` says whether a word character is just before. -/
def findMarker (inWord : Bool) : List Char → Option (List Char)
  | [] => none
  | c :: cs =>
    match if inWord then none else markers.find? (markerHere (c :: cs)) with
    | some m => some m
    | none => findMarker (Text.isWord c) cs

def markerAt (f : TokenFile) (t : Token) : Option Message :=
  if t.kind = Kind.comment then
    (findMarker false t.text.toList).map fun m =>
      Message.warning f.path
        (String.ofList m ++ " comment on line " ++ intText t.line) (some t)
  else none

def numberedLines (f : TokenFile) : List (String × Nat) :=
  f.lines.zipIdx 1

/-- A line longer than the limit, which is taken to have no more digits than can be shown. -/
def longLine (limit : Int) (f : TokenFile) (line : String × Nat) : Option Message :=
  let length := line.1.length
  if limit < length then
    some (Message.warning f.path
      ("Line " ++ natText line.2 ++ " is " ++ natText length ++ " characters long (maximum is " ++
        intText limit ++ ")")
      (f.firstTokenOnLine line.2))
  else none

/-- Whether the characters end in a space or tab. -/
def endsBlank (cs : List Char) : Bool :=
  cs.getLast?.any fun c => c == ' ' || c == '\t'

/-- A line that ends in blanks. -/
def blankLineEnd (f : TokenFile) (line : String × Nat) : Option Message :=
  if endsBlank line.1.toList then
    some (Message.warning f.path ("Trailing whitespace on line " ++ natText line.2)
      (f.firstTokenOnLine line.2))
  else none

def run (r : Builtin) (b : Binding) : Binding × Option Failure :=
  match r with
  | .bareExcept => b.walk bareExceptAt
  | .tabIndentation => b.walk tabIndentAt
  | .todoComment => b.addAll (b.file.tokens.toList.filterMap (markerAt b.file))
  | .lineLength limit => b.addAll ((numberedLines b.file).filterMap (longLine limit b.file))
  | .trailingWhitespace => b.addAll ((numberedLines b.file).filterMap (blankLineEnd b.file))

end Builtin

/-! ## Scripted rules -/

namespace Step

/-- The token an anchor points at. -/
def anchored (f : TokenFile) : Anchor → Except AccessError (Option Token)
  | .nowhere => .ok none
  | .current => .ok f.current
  | .next => .ok (f.peek 1)
  | .index i => (f.get i).map some

def stateText (f : TokenFile) : String :=
  "key=" ++ natText f.position ++ " len=" ++ natText f.size ++ " current=" ++
    (f.current.map (·.kind.label)).getD "none"

/-- Adds the message that `make` gives for the token an anchor points at. -/
def report (b : Binding) (anchor : Anchor) (make : Option Token → Message) :
    Binding × Option Failure :=
  match anchored b.file anchor with
  | .ok t => b.add (make t)
  | .error e => (b, some (.access e))

/-- The step after it has been started. -/
def started : Step → Step
  | .count executed => .count (executed + 1)
  | s => s

def run (b : Binding) : Step → Binding × Option Failure
  | .warn text anchor => report b anchor (Message.warning b.file.path text)
  | .error text anchor => report b anchor (Message.error b.file.path text)
  | .next times => ({ b with file := times.repeat TokenFile.advance b.file }, none)
  | .seek index =>
    match b.file.seek index with
    | .ok f => ({ b with file := f }, none)
    | .error e => (b, some (.access e))
  | .rewind => ({ b with file := b.file.rewind }, none)
  | .drain => ({ b with file := b.file.drain }, none)
  | .state => b.add (Message.warning b.file.path (stateText b.file) b.file.current)
  | .count executed =>
    b.add (Message.warning b.file.path ("call " ++ natText (executed + 1)) none)
  | .message finding path text => b.add ⟨finding, path, text, none⟩
  | .addFile path => ({ b with report := b.report.addFile path }, none)
  | .raise e => (b, some (.raised e))

/-- Does steps up to the first that fails; gives the steps as they are afterwards. -/
def runAll (b : Binding) : List Step → List Step × Binding × Option Failure
  | [] => ([], b, none)
  | s :: rest =>
    match run b s with
    | (b, some e) => (s.started :: rest, b, some e)
    | (b, none) =>
      let (rest, b, e) := runAll b rest
      (s.started :: rest, b, e)

end Step

/-! ## A rule and its binding -/

/-- A rule with what it is bound to. -/
structure Session where
  rule : Rule
  /-- The file and report it is checking. -/
  binding : Option Binding := none
  deriving Repr

namespace Session

def unbound (s : Session) : Failure :=
  .unbound (s.rule.name?.getD .null)

/-- Adds a message about the bound file. -/
def add (s : Session) (make : String → Message) : Session × Option Failure :=
  match s.binding with
  | none => (s, some s.unbound)
  | some b =>
    let (b, e) := b.add (make b.file.path)
    ({ s with binding := some b }, e)

/-- Reports a warning, at a token or without one. -/
def addWarning (s : Session) (text : String) (token : Option Token := none) :
    Session × Option Failure :=
  s.add fun path => Message.warning path text token

/-- Reports an error, at a token or without one. -/
def addError (s : Session) (text : String) (token : Option Token := none) :
    Session × Option Failure :=
  s.add fun path => Message.error path text token

def run (s : Session) : Session × Option Failure :=
  match s.rule, s.binding with
  | .base, _ => (s, some .notImplemented)
  | _, none => (s, some s.unbound)
  | .builtin r, some b =>
    let (b, e) := r.run b
    ({ s with binding := some b }, e)
  | .script c, some b =>
    let (steps, b, e) := Step.runAll b c.steps
    ({ rule := .script { c with steps := steps }, binding := some b }, e)

end Session

/-- What a check leaves behind. -/
structure Checked where
  session : Session
  file : TokenFile
  report : Report
  failure : Option Failure
  deriving Repr

namespace Session

/-- Runs the rule bound to a file and a report, and releases both. -/
def runBound (s : Session) (f : TokenFile) (r : Report) : Checked :=
  let (s, e) := { s with binding := some ⟨f, r⟩ : Session }.run
  let b := s.binding.getD ⟨f, r⟩
  { session := { s with binding := none }, file := b.file, report := b.report, failure := e }

/-- Checks a file: a rule on the base of rules starts at the first token, a plain one at the
cursor, and an object without a check fails. -/
def check (s : Session) (f : TokenFile) (r : Report) : Checked :=
  match s.rule with
  | .script c =>
    match c.check with
    | some v => ⟨s, f, r, some (.notCallable v.typeName)⟩
    | none =>
      match c.style with
      | .token => s.runBound f.rewind r
      | .plain => s.runBound f r
      | .unchecked => ⟨s, f, r, some (.noCheck s.rule.className)⟩
  | _ => s.runBound f.rewind r

end Session

/-- Checks a file with a rule that is bound to nothing. -/
def Rule.check (rule : Rule) (f : TokenFile) (r : Report) : Checked :=
  Session.check { rule := rule } f r

end SourceAudit
