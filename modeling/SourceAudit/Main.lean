import SourceAudit.Invocation

/-!
# The program

The outer layer of the command line: it takes a picture of the working directory and of the search
path, calls `Invocation.run` with the outcomes of the validator processes, prints what that gives
and writes the files it has changed. How a process is started is a parameter. The entry point of
this library has no processes to start: with it every file counts as accepted, and a program that is
to check syntax has to call `run` with a `Starter` of its own. Rule files are read as octets, so
custom rules need a caller that knows what their modules define.
-/

namespace SourceAudit.Program

/-- The validator when nothing else is said. -/
def interpreter : String := "python3"

/-- The parts of a path below a directory, both given as text. -/
def partsBelow (directory path : String) : List String :=
  (Path.ofString path).parts.drop (Path.ofString directory).parts.length

/-- The files and directories below the working directory. -/
def snapshot : IO FileTree := do
  let here ← IO.currentDir
  let mut tree : FileTree := {}
  for path in ← here.walkDir do
    let place := partsBelow here.toString path.toString
    if ← path.isDir then
      tree := tree.makeDirectory place
    else
      let octets ← IO.FS.readBinFile path
      tree := tree.writeAt place (.bytes octets.toList)
  return tree

/-- The programs in a directory, by name and by full path; none when there is no such directory. -/
def programsIn (directory : String) : IO (List (String × String)) := do
  try
    let place ← IO.FS.realPath directory
    let entries ← place.readDir
    return entries.toList.flatMap fun e =>
      [(e.fileName, e.path.toString), (e.path.toString, e.path.toString)]
  catch _ =>
    return []

/-- The programs on the search path, the first directory first. -/
def programs : IO (List (String × String)) := do
  let directories := ((← IO.getEnv "PATH").getD "").splitOn ":"
  return (← directories.mapM programsIn).flatten

/-- Writes a file, with the directories on the way to it. -/
def save (place : Place) (octets : List UInt8) : IO Unit := do
  IO.FS.createDirAll (String.intercalate "/" ("." :: place.dropLast))
  IO.FS.writeBinFile (String.intercalate "/" place) ⟨octets.toArray⟩

/-- Writes the files of the second tree that differ from those of the first. -/
def saveChanges (before after : FileTree) : IO Unit := do
  for (place, content) in after.files do
    match content, before.contentAt? place with
    | .bytes new, some (.bytes old) => if new != old then save place new
    | .bytes new, none => save place new
    | _, _ => pure ()

/-- Starts a program with arguments and waits until it ends. -/
abbrev Starter := String → List String → IO Subprocess

/-- The process that a call starts first among those whose outcome is not known. -/
def nextProcess? (w : World) (call : Invocation) : Option (String × String) :=
  call.commands.find? fun c => !w.processes.any (·.1 == c.2)

/-- Calls the program, each time with the outcome of one more process, until all are known or as
many as allowed. What a call does before a process does not depend on the outcome. -/
def callKnowing (start : Starter) (words : List String) : Nat → World → IO Invocation
  | 0, w => return Invocation.run w interpreter words
  | more + 1, w => do
    let call := Invocation.run w interpreter words
    match nextProcess? w call with
    | none => return call
    | some (executable, path) =>
      let outcome ← start executable (Validator.arguments path)
      callKnowing start words more { w with processes := w.processes ++ [(path, outcome)] }

/-- Runs the program with the words of its command line. There are no more processes than files, or
one for the file that the path names. -/
def run (start : Starter) (words : List String) : IO UInt32 := do
  let tree ← snapshot
  let call ← callKnowing start words (tree.files.length + 1)
    { tree := tree, programs := ← programs }
  IO.print call.stdout
  IO.eprint call.stderr
  saveChanges tree call.tree
  match call.ending with
  | .exit code => return code.toUInt32
  | .quit .null => return 0
  | .quit (.bool b) => return if b then 1 else 0
  | .quit (.int code) => return (code.emod 256).toNat.toUInt32
  | .quit v =>
    IO.eprintln v.display
    return 1
  | .fault f =>
    IO.eprintln (reprStr f)
    return 1

end SourceAudit.Program

/-- The entry point, with a stand-in for processes: each ends at once and accepts its file. -/
def main (words : List String) : IO UInt32 :=
  SourceAudit.Program.run (fun _ _ => return {}) words
