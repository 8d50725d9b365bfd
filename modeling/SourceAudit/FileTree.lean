import SourceAudit.Path
import SourceAudit.Rule.Factory

/-!
# File trees

The files and directories below the working directory, as two lists of places. A place is the list
of names on the way to it, so the working directory is the empty place. A path is resolved part by
part: every part on the way has to be a directory, and a double dot goes back to where it came from.
Names and paths have a greatest size, and looking for a longer one is an error of its own.

Two things are assumed of the world. Nothing outside the working directory is looked at: no absolute
path leads anywhere, and a double dot in the working directory stays there. And no file lies so deep
that the path by which it is reached from a path that leads to a directory is longer than a path may
be; where that fails, a walk below the directory would end with an error.
-/

namespace SourceAudit

/-- What a file holds. -/
inductive Content where
  | bytes (octets : List UInt8)
  | module (m : RuleModule)
  deriving Repr

/-- The names on the way from the working directory. -/
abbrev Place := List String

/-- The files and directories below the working directory. -/
structure FileTree where
  /-- The directories, without the working directory. -/
  directories : List Place := []
  files : List (Place × Content) := []
  deriving Repr

/-- Why a file cannot be opened, written or removed. -/
inductive FileError where
  | notFound
  | isDirectory
  /-- Something stands where a directory is to be made. -/
  | exists
  /-- A file stands on the way to the place. -/
  | notDirectory
  /-- A name on the way, or the whole path, has too many octets. -/
  | nameTooLong
  | nulInPath
  deriving DecidableEq, Repr

/-- The text of an error; those of the file system have none. -/
def FileError.message : FileError → String
  | .nulInPath => "embedded null byte"
  | _ => ""

namespace FileTree

def maxNameSize : Nat := 255

def maxPathSize : Nat := 4095

def isTooLong (name : String) : Bool :=
  maxNameSize < name.utf8ByteSize

def isDirectoryAt (t : FileTree) (place : Place) : Bool :=
  place.isEmpty || t.directories.contains place

def contentAt? (t : FileTree) (place : Place) : Option Content :=
  (t.files.find? (·.1 == place)).map (·.2)

def isFileAt (t : FileTree) (place : Place) : Bool :=
  t.files.any (·.1 == place)

def existsAt (t : FileTree) (place : Place) : Bool :=
  t.isDirectoryAt place || t.isFileAt place

/-! ## Following paths -/

/-- Goes from a place to the one that a part leads to; from the working directory, a double dot
leads nowhere else. -/
def step (t : FileTree) (place : Place) (part : String) : Except FileError Place :=
  if !t.isDirectoryAt place then .error .notDirectory
  else if part = ".." then .ok place.dropLast
  else if isTooLong part then .error .nameTooLong
  else if t.existsAt (place ++ [part]) then .ok (place ++ [part])
  else .error .notFound

def follow (t : FileTree) (place : Place) : List String → Except FileError Place
  | [] => .ok place
  | part :: parts =>
    match t.step place part with
    | .error e => .error e
    | .ok next => t.follow next parts

/-- Goes from the root of a path to the place that parts lead to. No absolute path leads into the
tree, the one of the working directory included. -/
def followFrom (t : FileTree) (root : String) (parts : List String) : Except FileError Place :=
  if root.isEmpty then t.follow [] parts
  else .error (if parts.head?.any isTooLong then .nameTooLong else .notFound)

/-- Refuses a path that nothing can be at. -/
def checkPath (p : Path) : Except FileError Unit :=
  if p.parts.any (·.toList.contains '\x00') then .error .nulInPath
  else if maxPathSize < p.text.utf8ByteSize then .error .nameTooLong
  else .ok ()

def locate (t : FileTree) (p : Path) : Except FileError Place :=
  match checkPath p with
  | .error e => .error e
  | .ok _ => t.followFrom p.root p.parts

/-- The place a path leads to, if something is there. Of a path with a name that is too long,
nobody can tell. -/
def find? (t : FileTree) (p : Path) : Except FileError (Option Place) :=
  match t.locate p with
  | .ok place => .ok (some place)
  | .error .nameTooLong => .error .nameTooLong
  | .error _ => .ok none

def isDirectory (t : FileTree) (p : Path) : Bool :=
  match t.locate p with
  | .ok place => t.isDirectoryAt place
  | .error _ => false

def open? (t : FileTree) (p : Path) : Except FileError Content :=
  match t.locate p with
  | .error e => .error e
  | .ok place =>
    match t.contentAt? place with
    | some c => .ok c
    | none => .error .isDirectory

/-- The contents of a file as octets; a rule module has none. -/
def readBytes (t : FileTree) (p : Path) : Except FileError (List UInt8) :=
  match t.open? p with
  | .error e => .error e
  | .ok (.bytes octets) => .ok octets
  | .ok (.module _) => .ok []

/-! ## Changes of places -/

/-- All places on the way to a place, itself included, the working directory left out. -/
def ancestry (place : Place) : List Place :=
  (List.range place.length).map fun n => place.take (n + 1)

/-- Adds a directory and those on the way to it. -/
def makeDirectory (t : FileTree) (place : Place) : FileTree :=
  { t with
    directories := t.directories ++ (ancestry place).filter fun d => !t.directories.contains d }

/-- Writes a file, with the directories on the way to it. -/
def writeAt (t : FileTree) (place : Place) (c : Content) : FileTree :=
  let t := t.makeDirectory place.dropLast
  if t.isFileAt place then
    { t with files := t.files.map fun f => if f.1 = place then (place, c) else f }
  else { t with files := t.files ++ [(place, c)] }

def removeAt (t : FileTree) (place : Place) : FileTree :=
  { t with files := t.files.filter fun f => f.1 != place }

/-! ## Changes through paths -/

/-- A tree after a change, and why the change was not made in full. -/
structure Changed where
  tree : FileTree
  error : Option FileError := none
  deriving Repr

/-- The directory that a path leads into and the name there. There is no name when the path has no
parts or ends with a double dot. -/
def entry (t : FileTree) (p : Path) : Except FileError (Place × Option String) :=
  match checkPath p, p.parts.getLast? with
  | .error e, _ => .error e
  | .ok _, none => .ok ([], none)
  | .ok _, some name =>
    match t.followFrom p.root p.parts.dropLast with
    | .error e => .error e
    | .ok place =>
      if !t.isDirectoryAt place then .error .notDirectory
      else if name = ".." then .ok (place, none)
      else if isTooLong name then .error .nameTooLong
      else .ok (place, some name)

def createDirectory (t : FileTree) (p : Path) : Except FileError FileTree :=
  match t.entry p with
  | .error e => .error e
  | .ok (_, none) => .error .exists
  | .ok (place, some name) =>
    if t.existsAt (place ++ [name]) then .error .exists
    else .ok (t.makeDirectory (place ++ [name]))

/-- Makes one directory; a `lenient` caller takes one that is there already. -/
def ensureDirectory (t : FileTree) (lenient : Bool) (p : Path) : Changed :=
  match t.createDirectory p with
  | .ok t => { tree := t }
  | .error e => { tree := t, error := if lenient && t.isDirectory p then none else some e }

/-- Makes a directory and those on the way to it. Its parts are given from the last to the first:
where the way is missing, it is made first and then the directory is tried again. -/
def createDirectories (t : FileTree) (lenient : Bool) (root : String) : List String → Changed
  | [] => t.ensureDirectory lenient { root := root }
  | part :: rest =>
    let path : Path := { root := root, parts := (part :: rest).reverse }
    let made := t.ensureDirectory lenient path
    match made.error with
    | some .notFound =>
      let above := t.createDirectories true root rest
      match above.error with
      | some _ => above
      | none => above.tree.ensureDirectory lenient path
    | _ => made

/-- The place where a file can be written. -/
def writable (t : FileTree) (p : Path) : Except FileError Place :=
  match t.entry p with
  | .error e => .error e
  | .ok (_, none) => .error .isDirectory
  | .ok (place, some name) =>
    if t.isDirectoryAt (place ++ [name]) then .error .isDirectory else .ok (place ++ [name])

/-- Writes a file, making the directories on the way to it. -/
def write (t : FileTree) (p : Path) (c : Content) : Changed :=
  let made := t.createDirectories true p.root p.parts.dropLast.reverse
  match made.error with
  | some _ => made
  | none =>
    match made.tree.writable p with
    | .error e => { made with error := some e }
    | .ok place => { tree := made.tree.writeAt place c }

def remove (t : FileTree) (p : Path) : Except FileError FileTree :=
  match t.writable p with
  | .error e => .error e
  | .ok place => if t.isFileAt place then .ok (t.removeAt place) else .error .notFound

end FileTree

end SourceAudit
