import SourceAudit.Rule

/-!
# Rule modules and factories

A rule file holds a module. Loading a module may raise; a loaded module may have a factory, a value
in the factory's place, or nothing. A factory makes a rule, makes something else, or raises.
-/

namespace SourceAudit

/-- Something that is called to get a rule. -/
inductive Factory where
  | builtin (b : Builtin)
  | script (s : Script)
  /-- Gives a value that is no rule. -/
  | value (v : Value)
  | raises (e : Raised)
  /-- Is itself a value that cannot be called. -/
  | notCallable (v : Value)
  deriving Repr

/-- What calling a factory gives. -/
inductive Product where
  /-- A rule, or something close to one. -/
  | rule (r : Rule)
  | value (v : Value)
  deriving Repr

namespace Factory

def call : Factory → Except Failure Product
  | .builtin b => .ok (.rule (.builtin b))
  | .script s => .ok (.rule (.script s))
  | .value v => .ok (.value v)
  | .raises e => .error (.raised e)
  | .notCallable v => .error (.notCallable v.typeName)

def isCallable : Factory → Bool
  | .notCallable _ => false
  | _ => true

end Factory

/-- The contents of a rule file. -/
inductive RuleModule where
  | raises (e : Raised)
  /-- The module has no factory. -/
  | bare
  /-- The module has a factory, or a value in its place. -/
  | factory (f : Factory)
  deriving Repr

end SourceAudit
