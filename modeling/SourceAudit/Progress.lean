import SourceAudit.Failure

/-!
# Progress

An observer is told about each file after it has been processed. `DotPrinter` writes one character
per file, `E` for errors, `W` for warnings and a dot otherwise, with a counter after every `width`
files and after the last one; it starts counting anew for another engine and after the last file.
The other observers record what they are told, or raise.
-/

namespace SourceAudit

/-- What an observer is told. -/
structure Notice where
  path : String
  engine : Nat
  total : Int
  deriving DecidableEq, Repr

/-- Why an observer fails. -/
inductive ObserverFailure where
  /-- A line of progress has no width. -/
  | zeroWidth
  | raised (e : Raised)
  deriving Repr

/-- Prints one character per file. -/
structure DotPrinter where
  width : Int := 60
  count : Int := 0
  /-- The engine the count belongs to. -/
  engine : Option Nat := none
  deriving DecidableEq, Repr

namespace DotPrinter

/-- The character for a file. -/
def marker (r : Report) (path : String) : String :=
  if !(r.errors path).isEmpty then "E"
  else if !(r.warnings path).isEmpty then "W"
  else "."

/-- The counter behind a line of characters. -/
def counter (count total : Int) : String :=
  " " ++ intText count ++ " / " ++ intText total ++ "\n"

/-- Shows a file: the printer afterwards, what is written, and the failure when the width is zero
and the file is not the last. -/
def advance (p : DotPrinter) (r : Report) (n : Notice) :
    DotPrinter × String × Option ObserverFailure :=
  let before := if p.engine = some n.engine then p.count else 0
  let count := before + 1
  let mark := marker r n.path
  let p := { p with engine := some n.engine, count := count }
  if count = n.total then ({ p with count := 0 }, mark ++ counter count n.total, none)
  else if p.width = 0 then (p, mark, some .zeroWidth)
  else if count.fmod p.width = 0 then (p, mark ++ counter count n.total, none)
  else (p, mark, none)

end DotPrinter

/-- What a recording observer keeps of a call. -/
structure Event where
  path : String
  total : Int
  errors : Nat
  warnings : Nat
  files : List String
  deriving DecidableEq, Repr

/-- Somebody who is told about each file. -/
inductive Observer where
  | dots (p : DotPrinter)
  | recorder
  /-- Raises from some call on; `quiet` calls are still to pass. -/
  | raiser (e : Raised) (quiet : Nat)
  deriving Repr

/-- What an observer does when it is told about a file. -/
structure Reaction where
  observer : Observer
  output : String := ""
  event : Option Event := none
  failure : Option ObserverFailure := none
  deriving Repr

/-- Tells an observer about a file. -/
def Observer.notify (o : Observer) (r : Report) (n : Notice) : Reaction :=
  match o with
  | .dots p =>
    let (p, output, failure) := p.advance r n
    { observer := .dots p, output := output, failure := failure }
  | .recorder =>
    let event := ⟨n.path, n.total, (r.errors n.path).length, (r.warnings n.path).length, r.files⟩
    { observer := o, event := some event }
  | .raiser e 0 => { observer := o, failure := some (.raised e) }
  | .raiser e (quiet + 1) => { observer := .raiser e quiet }

end SourceAudit
