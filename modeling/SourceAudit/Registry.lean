import SourceAudit.Registry.Load

/-!
# The registry

The registry keeps the settings that loading needs, each checked when it is set, and the rules of
the last load that succeeded, each under the name it gives itself. Setting something twice changes
nothing, and an operation that fails leaves the registry as it was.
-/

namespace SourceAudit

/-- The settings for loading, and the rules of the last load. -/
structure Registry where
  enableBuiltin : Bool := true
  catalogue : Catalogue := {}
  paths : List String := []
  disabled : List String := []
  /-- The rules of the last load, by name. -/
  rules : List (String × Rule) := []
  deriving Repr

namespace Registry

def setEnableBuiltin (r : Registry) (flag : Value) : Except Refusal Registry :=
  match flag with
  | .bool b => .ok { r with enableBuiltin := b }
  | _ => .error .notBoolean

def addPath (r : Registry) (t : FileTree) (path : String) : Except Fault Registry :=
  match t.find? (Path.ofString path) with
  | .error e => .error (.file e)
  | .ok none => .error (.refused (.rulePathNotFound path))
  | .ok (some _) =>
    if r.paths.contains path then .ok r else .ok { r with paths := r.paths ++ [path] }

def disable (r : Registry) (name : Value) : Except Refusal Registry :=
  match RuleName.ofValue? name with
  | none => .error (.badRuleName name)
  | some name =>
    if r.disabled.contains name then .ok r else .ok { r with disabled := r.disabled ++ [name] }

/-- Puts a rule under its own name: in the place of a rule that has this name already, or else
behind all others. A rule whose name is no text counts as one without a name. -/
def put (rules : List (String × Rule)) (rule : Rule) : List (String × Rule) :=
  let name :=
    match rule.name? with
    | some (.text s) => s
    | _ => ""
  if rules.any (·.1 == name) then rules.map fun e => if e.1 = name then (name, rule) else e
  else rules ++ [(name, rule)]

def byName (rules : List Rule) : List (String × Rule) :=
  rules.foldl put []

def get? (r : Registry) (name : String) : Option Rule :=
  (r.rules.find? (·.1 == name)).map (·.2)

/-- Loads the rules: the registry afterwards, and what loading gave. -/
def load (r : Registry) (t : FileTree) : Registry × LoadResult :=
  let result := loadRules t r.catalogue r.enableBuiltin r.paths (r.disabled.map .text)
  match result.outcome with
  | .ok rules => ({ r with rules := byName (rules.map (·.2)) }, result)
  | .error _ => (r, result)

def ruleNames (r : Registry) : List String :=
  r.rules.map (·.1)

end Registry

end SourceAudit
