import SourceAudit.Fault

/-!
# Settings

A draft holds settings as they were given, of any type. Validating a draft gives settings with
types, or refuses with the first setting that is not usable. Overrides from the command line extend
the lists for rules and replace the other settings when they are given.
-/

namespace SourceAudit

/-- Settings as they were given. -/
structure Draft where
  validator : Value
  builtinRules : Value := .bool true
  rulePaths : Value := .list []
  disabledRules : Value := .list []
  extensions : Value := .list [.text ".py"]
  lintTimeout : Value := .null
  deriving Repr

/-- Settings that can be used. -/
structure Settings where
  validator : Text.Wording
  builtinRules : Bool
  rulePaths : List Text.Wording
  disabledRules : List Text.Wording
  extensions : List Text.Wording
  lintTimeout : Option Quantity
  deriving DecidableEq, Repr

/-- What the command line may override; the absent value overrides nothing. -/
structure Overrides where
  validator : Value := .null
  builtinRules : Value := .null
  rulePaths : Value := .null
  disabledRules : Value := .null
  extensions : Value := .null
  deriving Repr

namespace Draft

def keys : List String :=
  ["validator", "builtin_rules", "rule_paths", "disabled_rules", "extensions", "lint_timeout"]

/-- The settings when nothing is given; `validator` is the running interpreter. -/
def standard (validator : String) : Draft where
  validator := .text validator

def set (d : Draft) (key : String) (v : Value) : Option Draft :=
  if key = "validator" then some { d with validator := v }
  else if key = "builtin_rules" then some { d with builtinRules := v }
  else if key = "rule_paths" then some { d with rulePaths := v }
  else if key = "disabled_rules" then some { d with disabledRules := v }
  else if key = "extensions" then some { d with extensions := v }
  else if key = "lint_timeout" then some { d with lintTimeout := v }
  else none

/-- The draft with settings replaced; only settings that exist can be. -/
def setAll (d : Draft) : List (Value × Value) → Except Fault Draft
  | [] => .ok d
  | (.text key, v) :: rest =>
    match d.set key v with
    | some d => d.setAll rest
    | none => .error .wrongType
  | _ :: _ => .error .wrongType

/-! ## Validation -/

/-- The validator of a draft. -/
def usableValidator (d : Draft) : Except Refusal Text.Wording :=
  match d.validator.wording? with
  | some w => if w.isBlank then .error .validatorNotText else .ok w
  | none => .error .validatorNotText

/-- The switch for built-in rules of a draft. -/
def usableSwitch (d : Draft) : Except Refusal Bool :=
  match d.builtinRules with
  | .bool b => .ok b
  | _ => .error .switchNotBoolean

/-- The texts of a list setting. -/
def usableTexts (key : String) (v : Value) : Except Refusal (List Text.Wording) :=
  match v.wordings? with
  | some ts => .ok ts
  | none => .error (.notTexts key)

/-- The time limit of a draft. -/
def usableTimeout (d : Draft) : Except Refusal (Option Quantity) :=
  match d.lintTimeout with
  | .null => .ok none
  | v =>
    match v.quantity? with
    | some q => .ok (some q)
    | none => .error .timeoutNotNumber

/-- The settings of a draft, or the first that is not usable. -/
def validate (d : Draft) : Except Refusal Settings := do
  let validator ← d.usableValidator
  let builtinRules ← d.usableSwitch
  let rulePaths ← usableTexts "rule_paths" d.rulePaths
  let disabledRules ← usableTexts "disabled_rules" d.disabledRules
  let extensions ← usableTexts "extensions" d.extensions
  let lintTimeout ← d.usableTimeout
  return { validator, builtinRules, rulePaths, disabledRules, extensions, lintTimeout }

/-- A refusal as a fault. -/
def orFault {α : Type} (r : Except Refusal α) : Except Fault α :=
  r.mapError .refused

/-! ## Settings from a mapping -/

def sorted (ws : List Text.Wording) : List Text.Wording :=
  ws.eraseDups.mergeSort Text.Wording.le

/-- Refuses keys that are no settings. Keys that are no texts cannot be told in a message. -/
def checkKeys (keys : List Value) : Except Fault Unit :=
  let unknown := keys.filter fun k => !(k.text?.any Draft.keys.contains)
  if unknown.isEmpty then .ok ()
  else
    match unknown.mapM Value.wording? with
    | some ws => .error (.refused (.unknownSettings ((sorted ws).map Text.Wording.display)))
    | none => .error .wrongType

/-- The validated draft of a value that should be a mapping of settings. -/
def ofValue (standard : Draft) (v : Value) : Except Fault Draft := do
  let some keys := v.elements? | .error .wrongType
  checkKeys keys
  let .mapping entries := v | .error .wrongType
  let d ← standard.setAll entries
  let _ ← orFault d.validate
  return d

/-! ## Overrides -/

/-- Items behind those of a list setting. -/
def extend (base extra : Value) : Except Fault Value :=
  let items := if extra.truthy then extra.elements? else some []
  match base, items with
  | .list xs, some ys => .ok (.list (xs ++ ys))
  | _, _ => .error .wrongType

/-- The items of the override when it has some, of the base otherwise. -/
def replace (base extra : Value) : Except Fault Value :=
  match (if extra.truthy then extra else base).elements? with
  | some xs => .ok (.list xs)
  | none => .error .wrongType

/-- The draft with overrides applied. -/
def merge (d : Draft) (o : Overrides) : Except Fault Draft := do
  let rulePaths ← extend d.rulePaths o.rulePaths
  let disabledRules ← extend d.disabledRules o.disabledRules
  let extensions ← replace d.extensions o.extensions
  return {
    validator := if o.validator.truthy then o.validator else d.validator
    builtinRules := match o.builtinRules with
      | .null => d.builtinRules
      | v => v
    rulePaths, disabledRules, extensions
    lintTimeout := d.lintTimeout }

end Draft

namespace Overrides

def set (o : Overrides) (key : String) (v : Value) : Option Overrides :=
  if key = "validator" then some { o with validator := v }
  else if key = "builtin_rules" then some { o with builtinRules := v }
  else if key = "rule_paths" then some { o with rulePaths := v }
  else if key = "disabled_rules" then some { o with disabledRules := v }
  else if key = "extensions" then some { o with extensions := v }
  else none

/-- The overrides that fields give; only overrides that exist can be given. -/
def ofFields (o : Overrides) : List (String × Value) → Except Fault Overrides
  | [] => .ok o
  | (key, v) :: rest =>
    match o.set key v with
    | some o => o.ofFields rest
    | none => .error .wrongType

end Overrides

end SourceAudit
