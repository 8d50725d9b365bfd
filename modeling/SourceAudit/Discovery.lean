import SourceAudit.Fault
import SourceAudit.Log

/-!
# Finding files

A path that names a file stands for that file, as it is written. A path that names a directory
stands for the files below it, at any depth, whose suffix is wanted, in the order of their parts.
-/

namespace SourceAudit

namespace FileTree

/-- The parts that lead from a directory to the files below it. -/
def below (t : FileTree) (place : Place) : List Place :=
  t.files.filterMap fun f =>
    if place.isPrefixOf f.1 && place.length < f.1.length then some (f.1.drop place.length) else none

/-- The files below a directory whose suffix is wanted, in order. Their paths are assumed to be no
longer than `maxPathSize`. -/
def walk (t : FileTree) (place : Place) (extensions : List String) : List Place :=
  ((t.below place).filter fun parts =>
    extensions.contains (Path.suffixOf (parts.getLast?.getD ""))).mergeSort Path.partsLe

end FileTree

/-- The files that a path stands for, and what is logged about them. -/
structure Discovered where
  files : List String
  log : List LogEntry
  deriving Repr

/-- The suffixes that are wanted unless others are given. -/
def defaultExtensions : List String := [".py"]

def discoveredEntry (count : Nat) (directory : String) : LogEntry :=
  ⟨.debug, "rulecheck.discovery",
    "Discovered " ++ natText count ++ " file(s) under " ++ directory⟩

/-- Finds the files that the path `shown` stands for. -/
def discover (t : FileTree) (shown : String) (extensions : List String) :
    Except Fault Discovered :=
  let path := Path.ofString shown
  match t.find? path with
  | .error e => .error (.file e)
  | .ok none => .error (.refused (.inputNotFound shown))
  | .ok (some place) =>
    if t.isFileAt place then .ok ⟨[shown], []⟩
    else
      let files := (t.walk place extensions).map fun parts => (path.join parts).text
      .ok ⟨files, [discoveredEntry files.length path.text]⟩

end SourceAudit
