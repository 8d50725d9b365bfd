import SourceAudit.Fault

/-!
# Tokens of settings files

A settings file is a document of the indentation-based data format YAML 1.1. Its text is a sequence
of tokens; the indentation of blocks has been turned into start and end tokens, and the mark of a
mapping key stands in front of the key.
-/

namespace SourceAudit.Yaml

/-- Why a text is no document. -/
inductive Error where
  | malformed
  | scalar (e : ScalarError)
  | digits (l : DigitLimit)
  | tooDeep
  | undecodable
  deriving DecidableEq, Repr

/-- An instruction in front of a document. -/
inductive Directive where
  /-- The version of the format, of which only the major number matters. -/
  | version (major : Nat)
  /-- An abbreviation for the beginning of tags. -/
  | abbreviation (handle expansion : String)
  | other
  deriving DecidableEq, Repr

/-- A token of a settings file. -/
inductive Token where
  | directive (d : Directive)
  | documentStart
  | documentEnd
  | blockSequenceStart
  | blockMappingStart
  | blockEnd
  | flowSequenceStart
  | flowSequenceEnd
  | flowMappingStart
  | flowMappingEnd
  /-- The dash of an item. -/
  | blockEntry
  | flowEntry
  | key
  | value
  /-- The node with the given anchor. -/
  | reference (anchor : String)
  /-- The name of the node that follows. -/
  | anchor (name : String)
  | tag (handle : Option String) (suffix : String)
  /-- A scalar, and whether it was written without quotes. -/
  | scalar (text : Text.Wording) (plain : Bool)
  | streamEnd
  deriving DecidableEq, Repr, Inhabited

end SourceAudit.Yaml
