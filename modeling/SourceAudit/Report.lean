import SourceAudit.Message

/-!
# Reports

A report holds the analyzed files in the order they were first added, each with its messages in
the order they were added. A message can only be added for a file that is in the report, so a file
without messages was analyzed and found clean, and a file that is not in the report was never
visited. Paths and texts are of one type `σ`.
-/

namespace SourceAudit

/-- The messages of the analyzed files. -/
structure Report (σ : Type := String) where
  entries : List (σ × List (Message σ)) := []
  deriving Repr

/-- A message was added for a file that is not in the report. -/
structure UnknownFile (σ : Type := String) where
  path : σ
  deriving DecidableEq, Repr

def UnknownFile.message (e : UnknownFile) : String :=
  "File " ++ e.path ++ " has not been added to the report"

namespace Report

variable {σ τ : Type}

def empty : Report σ := {}

/-- The files in the order they were first added. -/
def files (r : Report σ) : List σ :=
  r.entries.map (·.1)

def wasAnalyzed [DecidableEq σ] (r : Report σ) (path : σ) : Bool :=
  r.entries.any (·.1 == path)

/-- Adds a file without messages, unless it is in the report already. -/
def addFile [DecidableEq σ] (r : Report σ) (path : σ) : Report σ :=
  if r.wasAnalyzed path then r else { entries := r.entries ++ [(path, [])] }

def push [DecidableEq σ] (r : Report σ) (m : Message σ) : Report σ where
  entries := r.entries.map fun e => if e.1 = m.path then (e.1, e.2 ++ [m]) else e

/-- Adds a message to its file, which has to be in the report. -/
def addMessage [DecidableEq σ] (r : Report σ) (m : Message σ) :
    Except (UnknownFile σ) (Report σ) :=
  if r.wasAnalyzed m.path then .ok (r.push m) else .error ⟨m.path⟩

def map (f : σ → τ) (r : Report σ) : Report τ where
  entries := r.entries.map fun e => (f e.1, e.2.map (Message.map f))

/-! ## Views -/

def numberOfFiles (r : Report σ) : Nat :=
  r.entries.length

def messages [DecidableEq σ] (r : Report σ) (path : σ) : List (Message σ) :=
  ((r.entries.find? (·.1 == path)).map (·.2)).getD []

def errors [DecidableEq σ] (r : Report σ) (path : σ) : List (Message σ) :=
  (r.messages path).filter Message.isError

def warnings [DecidableEq σ] (r : Report σ) (path : σ) : List (Message σ) :=
  (r.messages path).filter Message.isWarning

def allMessages (r : Report σ) : List (Message σ) :=
  r.entries.flatMap (·.2)

def errorCount (r : Report σ) : Nat :=
  r.allMessages.countP Message.isError

def warningCount (r : Report σ) : Nat :=
  r.allMessages.countP Message.isWarning

def hasErrors (r : Report σ) : Bool :=
  0 < r.errorCount

def hasWarnings (r : Report σ) : Bool :=
  0 < r.warningCount

def passed (r : Report σ) : Bool :=
  !r.hasErrors

/-- The exit code of a run with this report. -/
def exitCode (r : Report σ) : Nat :=
  if r.hasErrors then Severity.error.exitPriority
  else if r.hasWarnings then Severity.warning.exitPriority
  else 0

/-! ## What the operations do to the views -/

@[simp] theorem files_empty : (empty : Report σ).files = [] := rfl

variable [DecidableEq σ]

@[simp] theorem files_push (r : Report σ) (m : Message σ) : (r.push m).files = r.files := by
  simp only [files, push, List.map_map]
  exact List.map_congr_left fun e _ => by by_cases h : e.1 = m.path <;> simp [h]

theorem wasAnalyzed_iff (r : Report σ) (path : σ) :
    r.wasAnalyzed path = true ↔ path ∈ r.files := by
  simp [wasAnalyzed, files]

theorem files_addFile (r : Report σ) (path : σ) :
    (r.addFile path).files = if path ∈ r.files then r.files else r.files ++ [path] := by
  by_cases h : r.wasAnalyzed path = true
  · simp [addFile, h, (r.wasAnalyzed_iff path).1 h]
  · have h' : path ∉ r.files := fun hm => h ((r.wasAnalyzed_iff path).2 hm)
    rw [Bool.not_eq_true] at h
    rw [if_neg h']
    simp [addFile, h, files]

theorem wasAnalyzed_addFile (r : Report σ) (path : σ) :
    (r.addFile path).wasAnalyzed path = true := by
  rw [wasAnalyzed_iff, files_addFile]
  split <;> simp_all

theorem addMessage_eq_error_iff (r : Report σ) (m : Message σ) (e : UnknownFile σ) :
    r.addMessage m = .error e ↔ m.path ∉ r.files ∧ e = ⟨m.path⟩ := by
  by_cases h : r.wasAnalyzed m.path = true
  · simp [addMessage, h, (r.wasAnalyzed_iff m.path).1 h]
  · have h' : m.path ∉ r.files := fun hm => h ((r.wasAnalyzed_iff m.path).2 hm)
    rw [Bool.not_eq_true] at h
    simp [addMessage, h, h', eq_comm]

end Report

end SourceAudit
