import SourceAudit.Failure
import SourceAudit.Rule.Name

/-!
# Rules

A rule is one of the built-in rules, the bare base of rules that says nothing to check, or a custom
rule given by a script. A script is a list of steps; a step that counts its executions holds the
count, so a rule that has run is again a rule.
-/

namespace SourceAudit

/-- The rules that come with the analyzer. -/
inductive Builtin where
  /-- Warns about a handler that catches everything. -/
  | bareExcept
  | lineLength (limit : Int)
  | tabIndentation
  /-- Warns about a marker for unfinished work in a comment. -/
  | todoComment
  | trailingWhitespace
  deriving DecidableEq, Repr

namespace Builtin

/-- The longest line that is not reported, unless another limit is given. -/
def defaultLimit : Int := 120

def stem : Builtin → String
  | .bareExcept => "bare_except"
  | .lineLength _ => "line_length"
  | .tabIndentation => "tab_indentation"
  | .todoComment => "todo_comment"
  | .trailingWhitespace => "trailing_whitespace"

def all : List Builtin :=
  [.bareExcept, .lineLength defaultLimit, .tabIndentation, .todoComment, .trailingWhitespace]

def ofStem? (s : String) : Option Builtin :=
  all.find? (·.stem == s)

end Builtin

/-- Where a scripted message points. -/
inductive Anchor where
  | nowhere
  | current
  /-- At the token after the one under the cursor. -/
  | next
  /-- At the token with this index; negative ones count from the end. -/
  | index (i : Int)
  deriving DecidableEq, Repr

/-- One step of a scripted rule. -/
inductive Step where
  | warn (text : String) (anchor : Anchor)
  | error (text : String) (anchor : Anchor)
  | next (times : Nat)
  | seek (index : Int)
  | rewind
  /-- Moves the cursor past the last token. -/
  | drain
  /-- Warns with the state of the cursor. -/
  | state
  /-- Warns with the number of times the step has run; `executed` is that number before. -/
  | count (executed : Nat)
  | message (finding : Finding) (path text : String)
  | addFile (path : String)
  | raise (e : Raised)
  deriving Repr

/-- How a scripted rule is made. -/
inductive ScriptStyle where
  /-- On the base of rules, which binds the file and the report during a check. -/
  | token
  /-- On its own, with a check. -/
  | plain
  | unchecked
  deriving DecidableEq, Repr

/-- A rule given by a script. -/
structure Script where
  style : ScriptStyle
  /-- Its name, if it has one; the base of rules gives the empty one. -/
  name : Option Value
  /-- A value in place of its check. -/
  check : Option Value := none
  steps : List Step := []
  deriving Repr

/-- A rule. -/
inductive Rule where
  | builtin (b : Builtin)
  /-- The base of rules. -/
  | base
  | script (s : Script)
  deriving Repr

namespace Rule

/-- The name of the class a rule is made from, for rules that have no name of their own. -/
def className : Rule → String
  | .builtin b => b.stem
  | .base => "TokenRule"
  | .script s =>
    match s.style with
    | .token => "TokenScript"
    | .plain => "PlainScript"
    | .unchecked => "NoCheckScript"

/-- The name of a rule, if it has one. -/
def name? : Rule → Option Value
  | .builtin b => some (.text (RuleName.qualify b.stem))
  | .base => some (.text "")
  | .script s =>
    match s.style, s.name with
    | .token, none => some (.text "")
    | _, name => name

/-- The name a rule is reported under: its own, or that of its class when it has none or an
empty one. -/
def reportName (r : Rule) : Value :=
  match r.name? with
  | some v => if v.truthy then v else .text r.className
  | none => .text r.className

/-- Whether the rule has a check that is not the absent value. -/
def hasCheck : Rule → Bool
  | .script s =>
    match s.check with
    | some .null => false
    | some _ => true
    | none => s.style != .unchecked
  | _ => true

/-- Whether the object can be used as a rule: it has a name and a check. -/
def conforms (r : Rule) : Bool :=
  r.name?.isSome && r.hasCheck

end Rule

end SourceAudit
