import SourceAudit.Value

/-!
# Refusals

Why the analyzer refuses to run: a setting, a rule file or an input path is not usable, or there is
nothing to do. Each cause is a constructor; `Refusal.message` is its wording and
`Refusal.category` the sort of error that callers tell apart. A refusal comes before any file is
checked.
-/

namespace SourceAudit

/-- The sorts of refusals. -/
inductive Category where
  | configuration
  | notFound
  /-- A rule file has no rule factory. -/
  | unknownRule
  | duplicateRule
  | noRules
  | noFiles
  deriving DecidableEq, Repr

/-- Why the analyzer refuses to run. -/
inductive Refusal where
  | blankValidator
  | blankInput
  /-- The validator is neither a file nor a program on the search path. -/
  | validatorNotFound (executable : String)
  | badRuleName (name : Value)
  | notBoolean
  /-- The rule file is not one that modules are loaded from. -/
  | notLoadable (file : String)
  | moduleFailed (file text : String)
  | noFactory (file : String)
  /-- No built-in rule belongs to the file. -/
  | noBuiltin (file : String)
  | factoryFailed (file text : String)
  | notARule (file : String)
  | misnamed (file : String) (name : Value) (expected : String)
  /-- Two built-in files define the rule. -/
  | definedTwice (name : String)
  /-- A custom file defines a rule that is loaded already. -/
  | alreadyLoaded (name file : String)
  | inputNotFound (path : String)
  | rulePathNotFound (path : String)
  | settingsNotFound (path : String)
  | malformedSettings (path : String)
  | settingsNotMapping (path : String)
  | unknownSettings (keys : List String)
  /-- The validator is no text, or a blank one. -/
  | validatorNotText
  | switchNotBoolean
  | notTexts (key : String)
  | timeoutNotNumber
  | noRules
  | noFiles
  deriving Repr

namespace Refusal

def category : Refusal → Category
  | .inputNotFound _ | .rulePathNotFound _ | .settingsNotFound _ => .notFound
  | .noFactory _ | .noBuiltin _ => .unknownRule
  | .definedTwice _ | .alreadyLoaded .. => .duplicateRule
  | .noRules => .noRules
  | .noFiles => .noFiles
  | _ => .configuration

def message : Refusal → String
  | .blankValidator => "No path to the validator executable specified"
  | .blankInput => "No file or directory to analyze"
  | .validatorNotFound executable => "Validator executable " ++ executable ++ " not found"
  | .badRuleName name =>
    "Invalid rule name " ++ name.literal ++ "; expected rulecheck.rules.<name>"
  | .notBoolean => "Boolean value expected"
  | .notLoadable file => "Cannot load rule module " ++ file
  | .moduleFailed file text => "Failed to load rule module " ++ file ++ ": " ++ text
  | .noFactory file => "Rule module " ++ file ++ " does not define get_rule()"
  | .noBuiltin file => "No built-in rule registered for " ++ file
  | .factoryFailed file text => "Rule factory in " ++ file ++ " failed: " ++ text
  | .notARule file => file ++ " did not produce a rule with name and check()"
  | .misnamed file name expected =>
    file ++ " produced rule " ++ name.literal ++ ", expected " ++ Text.quoted expected
  | .definedTwice name => "Rule " ++ name ++ " is defined more than once"
  | .alreadyLoaded name file => "Rule " ++ name ++ " from " ++ file ++ " is already loaded"
  | .inputNotFound path => path ++ " not found"
  | .rulePathNotFound path => "The path " ++ path ++ " does not exist"
  | .settingsNotFound path => "Configuration file " ++ path ++ " not found"
  | .malformedSettings path => "Invalid YAML in " ++ path ++ ": malformed document"
  | .settingsNotMapping path => "Configuration at " ++ path ++ " is not a mapping"
  | .unknownSettings keys => "Unknown configuration keys: " ++ String.intercalate ", " keys
  | .validatorNotText => "validator must be a non-empty string"
  | .switchNotBoolean => "builtin_rules must be a boolean"
  | .notTexts key => key ++ " must be a list of strings"
  | .timeoutNotNumber => "lint_timeout must be a number"
  | .noRules => "No rules to enforce"
  | .noFiles => "No files to analyze"

end Refusal

end SourceAudit
