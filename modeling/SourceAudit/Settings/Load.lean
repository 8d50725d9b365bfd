import SourceAudit.Settings
import SourceAudit.Yaml.Document

/-!
# Settings files

A settings file is a mapping of settings in UTF-8. An empty document stands for the standard
settings; anything else that is no mapping is refused, and so is a mapping with a setting that does
not exist or is not usable.
-/

namespace SourceAudit.Draft

/-- The value of a settings file's octets; `path` is the file as it was asked for. -/
def valueOf (path : String) (octets : List UInt8) : Except Fault Value :=
  match Yaml.read octets with
  | .ok v => .ok v
  | .error .malformed => .error (.refused (.malformedSettings path))
  | .error (.scalar e) => .error (.scalar e)
  | .error (.digits l) => .error (.digits l)
  | .error .tooDeep => .error .tooDeep
  | .error .undecodable => .error .undecodable

def load (t : FileTree) (standard : Draft) (path : String) : Except Fault Draft := do
  let p := Path.ofString path
  let some _ ← (t.find? p).mapError .file | throw (.refused (.settingsNotFound path))
  let octets ← (t.readBytes p).mapError .file
  match ← valueOf path octets with
  | .null => ofValue standard (.mapping [])
  | .mapping entries => ofValue standard (.mapping entries)
  | _ => throw (.refused (.settingsNotMapping path))

end SourceAudit.Draft
