import Mathlib.Data.List.Induction
import SourceAudit.Proofs.Growth

/-!
# What a report remembers

A report is built by calls that add a file or a message, of which the latter may fail. `replay` is
the report after a list of calls and `accepted` lists the messages whose calls went through. The
report can be told from these lists alone: its files are the added ones in the order of their first
call, and every file has the accepted messages about it, in order (`replay_keeps_history`). Behind
this stands one invariant, that no file has two entries (`nodup_files_replay`); with it the messages
of a file are those of its entry, and all messages are those of the files, one after the other.
-/

namespace SourceAudit.Report

/-- A call on a report. -/
inductive Call (σ : Type := String) where
  | addFile (path : σ)
  | addMessage (m : Message σ)

variable {σ : Type}

/-- The file that a call adds. -/
def Call.file? : Call σ → Option σ
  | .addFile path => some path
  | .addMessage _ => none

variable [DecidableEq σ]

/-- The report after a call; one that fails leaves it as it is. -/
def call (r : Report σ) : Call σ → Report σ
  | .addFile path => r.addFile path
  | .addMessage m =>
    match r.addMessage m with
    | .ok s => s
    | .error _ => r

/-- The report after calls. -/
def callAll (r : Report σ) (calls : List (Call σ)) : Report σ :=
  calls.foldl call r

/-- The report after calls on the empty one. -/
def replay (calls : List (Call σ)) : Report σ :=
  empty.callAll calls

/-- The messages whose calls go through, on a report `r`. -/
def acceptedFrom (r : Report σ) : List (Call σ) → List (Message σ)
  | [] => []
  | .addFile path :: calls => acceptedFrom (r.addFile path) calls
  | .addMessage m :: calls =>
    match r.addMessage m with
    | .ok s => m :: acceptedFrom s calls
    | .error _ => acceptedFrom r calls

/-- The messages whose calls go through, on the empty report. -/
def accepted (calls : List (Call σ)) : List (Message σ) :=
  acceptedFrom empty calls

/-! ## One call -/

theorem addMessage_cases (r : Report σ) (m : Message σ) :
    (m.path ∈ r.files ∧ r.addMessage m = .ok (r.push m)) ∨
      (m.path ∉ r.files ∧ r.addMessage m = .error ⟨m.path⟩) := by
  by_cases known : m.path ∈ r.files
  · exact .inl ⟨known, addMessage_of_mem known⟩
  · exact .inr ⟨known, (r.addMessage_eq_error_iff m _).2 ⟨known, rfl⟩⟩

theorem files_call (r : Report σ) (c : Call σ) :
    (r.call c).files = r.files ++ c.file?.toList.removeAll r.files := by
  cases c with
  | addFile path =>
    rw [call, files_addFile]
    by_cases known : path ∈ r.files <;> simp [Call.file?, List.removeAll, known]
  | addMessage m =>
    have same : (r.call (.addMessage m)).files = r.files := by
      rcases r.addMessage_cases m with ⟨-, ok⟩ | ⟨-, failed⟩
      · simp only [call, ok, files_push]
      · simp only [call, failed]
    simp [same, Call.file?, List.removeAll]

theorem nodup_files_call {r : Report σ} (distinct : r.files.Nodup) (c : Call σ) :
    (r.call c).files.Nodup := by
  rw [files_call, List.nodup_append]
  refine ⟨distinct, ?_, ?_⟩
  · cases c.file? with
    | none => simp [List.removeAll]
    | some path => exact List.filter_sublist.nodup (by simp)
  · rintro path old _ new rfl
    simp [List.removeAll, old] at new

theorem eq_of_mem_acceptedFrom {r : Report σ} {m n : Message σ}
    (mem : n ∈ acceptedFrom r [.addMessage m]) : n = m := by
  rcases r.addMessage_cases m with ⟨-, ok⟩ | ⟨-, failed⟩
  · simpa [acceptedFrom, ok] using mem
  · simp [acceptedFrom, failed] at mem

/-- A message that goes through stands behind those of its file; nothing else moves. -/
theorem messages_call (r : Report σ) (c : Call σ) (path : σ) :
    (r.call c).messages path = r.messages path ++ (acceptedFrom r [c]).filter (·.path == path) := by
  cases c with
  | addFile added => simp [call, acceptedFrom]
  | addMessage m =>
    rcases r.addMessage_cases m with ⟨known, ok⟩ | ⟨-, failed⟩
    · simp only [call, acceptedFrom, ok, messages_push]
      by_cases own : path = m.path
      · subst own
        simp [known]
      · simp [own, Ne.symm own]
    · simp [call, acceptedFrom, failed]

/-! ## All calls -/

theorem callAll_append (r : Report σ) (calls more : List (Call σ)) :
    r.callAll (calls ++ more) = (r.callAll calls).callAll more :=
  List.foldl_append

theorem acceptedFrom_cons (r : Report σ) (c : Call σ) (calls : List (Call σ)) :
    acceptedFrom r (c :: calls) = acceptedFrom r [c] ++ acceptedFrom (r.call c) calls := by
  cases c with
  | addFile path => rfl
  | addMessage m =>
    rcases r.addMessage_cases m with ⟨-, h⟩ | ⟨-, h⟩ <;> simp [acceptedFrom, call, h]

theorem acceptedFrom_append (r : Report σ) (calls more : List (Call σ)) :
    acceptedFrom r (calls ++ more) =
      acceptedFrom r calls ++ acceptedFrom (r.callAll calls) more := by
  induction calls generalizing r with
  | nil => rfl
  | cons c calls ih =>
    rw [List.cons_append, acceptedFrom_cons, ih, acceptedFrom_cons r c calls, List.append_assoc]
    rfl

theorem messages_callAll (r : Report σ) (calls : List (Call σ)) (path : σ) :
    (r.callAll calls).messages path =
      r.messages path ++ (acceptedFrom r calls).filter (·.path == path) := by
  induction calls generalizing r with
  | nil => simp [callAll, acceptedFrom]
  | cons c calls ih =>
    calc ((r.call c).callAll calls).messages path
        = (r.call c).messages path ++
            (acceptedFrom (r.call c) calls).filter (·.path == path) := ih (r.call c)
      _ = r.messages path ++ (acceptedFrom r (c :: calls)).filter (·.path == path) := by
          rw [messages_call, acceptedFrom_cons r c calls, List.filter_append, List.append_assoc]

theorem nodup_files_callAll {r : Report σ} (distinct : r.files.Nodup) (calls : List (Call σ)) :
    (r.callAll calls).files.Nodup := by
  induction calls generalizing r with
  | nil => exact distinct
  | cons c calls ih => exact ih (nodup_files_call distinct c)

theorem replay_concat (calls : List (Call σ)) (c : Call σ) :
    replay (calls ++ [c]) = (replay calls).call c :=
  callAll_append empty calls [c]

theorem nodup_files_replay (calls : List (Call σ)) : (replay calls).files.Nodup :=
  nodup_files_callAll (by rw [files_empty]; exact List.nodup_nil) calls

omit [DecidableEq σ] in
theorem mem_filterMap_file? {calls : List (Call σ)} {path : σ} :
    path ∈ calls.filterMap Call.file? ↔ .addFile path ∈ calls := by
  rw [List.mem_filterMap]
  constructor
  · rintro ⟨c, mem, adds⟩
    cases c with
    | addFile p =>
      cases adds
      exact mem
    | addMessage m => cases adds
  · intro mem
    exact ⟨_, mem, rfl⟩

-- The calls grow at the end here: whether a file is new depends on all calls before it.
theorem files_replay (calls : List (Call σ)) :
    (replay calls).files = (calls.filterMap Call.file?).eraseDups := by
  induction calls using List.reverseRecOn with
  | nil => rfl
  | append_singleton calls c ih =>
    have single : [c].filterMap Call.file? = c.file?.toList := by cases c <;> rfl
    rw [replay_concat, files_call, ih, List.filterMap_append, single, List.eraseDups_append]
    congr 1
    cases c with
    | addMessage m => rfl
    | addFile path =>
      generalize calls.filterMap Call.file? = added
      by_cases known : path ∈ added <;>
        simp [Call.file?, List.removeAll, known, List.eraseDups_cons]

theorem mem_files_replay {calls : List (Call σ)} {path : σ} :
    path ∈ (replay calls).files ↔ .addFile path ∈ calls := by
  rw [files_replay, List.mem_eraseDups, mem_filterMap_file?]

/-! ## Entries -/

theorem messages_of_mem_entries {r : Report σ} (distinct : r.files.Nodup)
    {e : σ × List (Message σ)} (mem : e ∈ r.entries) : r.messages e.1 = e.2 := by
  obtain ⟨entries⟩ := r
  simp only [files] at distinct
  simp only [messages]
  induction entries with
  | nil => cases mem
  | cons first rest ih =>
    rw [List.map_cons, List.nodup_cons] at distinct
    rcases List.mem_cons.1 mem with rfl | mem
    · simp
    · have other : first.1 ≠ e.1 := by
        intro same
        exact distinct.1 (same ▸ List.mem_map_of_mem mem)
      rw [List.find?_cons_of_neg (by simpa using other)]
      exact ih distinct.2 mem

/-- All messages are those of the files, one file after the other. -/
theorem allMessages_eq {r : Report σ} (distinct : r.files.Nodup) :
    r.allMessages = r.files.flatMap r.messages := by
  rw [allMessages, files, List.flatMap_map, List.flatMap_def, List.flatMap_def]
  congr 1
  exact List.map_congr_left fun e mem => (messages_of_mem_entries distinct mem).symm

/-- After any calls on the empty report: the files are the added ones, without repetition and in the
order of their first call. A message is refused exactly when no call has added its file, and then
nothing changes. Every file has the accepted messages about it, in order. Adding a file again
changes no messages, and a message changes those of its own file only. All messages are those of
the files, one file after the other. -/
theorem replay_keeps_history (calls : List Call) :
    let r := replay calls
    (r.files = (calls.filterMap Call.file?).eraseDups ∧ r.files.Nodup) ∧
      (∀ m, ((∃ e, r.addMessage m = .error e) ↔ .addFile m.path ∉ calls) ∧
        ∀ e, r.addMessage m = .error e →
          e.message = "File " ++ m.path ++ " has not been added to the report" ∧
            replay (calls ++ [.addMessage m]) = r ∧
            accepted (calls ++ [.addMessage m]) = accepted calls) ∧
      (∀ m s, r.addMessage m = .ok s → replay (calls ++ [.addMessage m]) = s ∧
        accepted (calls ++ [.addMessage m]) = accepted calls ++ [m]) ∧
      (∀ path, r.messages path = (accepted calls).filter (·.path == path)) ∧
      (∀ added path, (replay (calls ++ [.addFile added])).messages path = r.messages path) ∧
      (∀ m path, path ≠ m.path →
        (replay (calls ++ [.addMessage m])).messages path = r.messages path) ∧
      r.allMessages = r.files.flatMap r.messages := by
  intro r
  have next : ∀ c, acceptedFrom empty (calls ++ [c]) = accepted calls ++ acceptedFrom r [c] :=
    fun c => acceptedFrom_append empty calls [c]
  refine ⟨⟨files_replay calls, nodup_files_replay calls⟩, fun m => ?_, fun m s ok => ?_, ?_, ?_, ?_,
    allMessages_eq (nodup_files_replay calls)⟩
  · have refused := r.addMessage_eq_error_iff m
    simp only [r, mem_files_replay] at refused
    refine ⟨⟨?_, fun new => ⟨_, (refused _).2 ⟨new, rfl⟩⟩⟩, fun e failed => ?_⟩
    · rintro ⟨e, failed⟩
      exact ((refused e).1 failed).1
    · obtain ⟨-, rfl⟩ := (refused e).1 failed
      refine ⟨rfl, ?_, ?_⟩
      · simp only [replay_concat, call, failed, r]
      · rw [accepted, next]
        simp only [acceptedFrom, r, failed, List.append_nil]
  · refine ⟨?_, ?_⟩
    · simp only [replay_concat, call, ok, r]
    · rw [accepted, next]
      simp only [acceptedFrom, ok]
  · intro path
    have start : empty.messages path = [] := rfl
    rw [accepted, ← List.nil_append (List.filter _ _), ← start]
    exact messages_callAll empty calls path
  · intro added path
    rw [replay_concat, call, messages_addFile]
  · intro m path other
    rw [replay_concat, messages_call, List.filter_eq_nil_iff.2, List.append_nil]
    intro n new
    simpa [eq_of_mem_acceptedFrom new] using Ne.symm other

end SourceAudit.Report
