import Mathlib
import SourceAudit.Proofs.Bookkeeping
import SourceAudit.Report.Payload
import SourceAudit.Report.Table

/-!
# The views of a report

Counts, exit code, JSON and table are computed from the messages one by one, each on its own way
through the report. They agree on every report that calls can build (`views_agree`): the counts are
the sums over the files, the exit code is that of the gravest message, the summary in JSON is what
anyone would count in the section behind it (`Json.recount`), and the table shows the same three
counts, the status that the exit code says, and as many messages as it may.
-/

namespace SourceAudit

namespace Report

/-! ## Counts -/

theorem countP_allMessages {r : Report} (distinct : r.files.Nodup) (p : Message → Bool) :
    r.allMessages.countP p = (r.files.map fun path => ((r.messages path).filter p).length).sum := by
  rw [allMessages_eq distinct, List.countP_flatMap]
  congr 1
  exact List.map_congr_left fun path _ => List.countP_eq_length_filter

theorem errorCount_add_warningCount (r : Report) :
    r.errorCount + r.warningCount = r.allMessages.length := by
  have parts := List.length_eq_countP_add_countP Message.isError (l := r.allMessages)
  have others : r.warningCount = r.allMessages.countP fun m => decide ¬ m.isError = true := by
    rw [warningCount]
    congr 1
    funext m
    simp
  rw [errorCount, others]
  exact parts.symm

theorem hasErrors_iff {r : Report} :
    r.hasErrors = true ↔ ∃ m ∈ r.allMessages, m.severity = .error := by
  simp [hasErrors, errorCount, List.countP_pos_iff, Message.isError]

theorem hasWarnings_iff {r : Report} :
    r.hasWarnings = true ↔ ∃ m ∈ r.allMessages, m.severity = .warning := by
  simp [hasWarnings, warningCount, List.countP_pos_iff, -Message.isWarning_eq_not_isError,
    Message.isWarning]

/-! ## The exit code -/

/-- The exit code of the gravest message; zero when there is none. -/
def gravest (ms : List Message) : Nat :=
  (ms.map fun m => m.severity.exitPriority).max?.getD 0

theorem exitPriority_le (s : Severity) : s.exitPriority ≤ 2 := by
  cases s <;> decide

theorem gravest_eq {ms : List Message} {m : Message} (mem : m ∈ ms)
    (most : ∀ n ∈ ms, n.severity.exitPriority ≤ m.severity.exitPriority) :
    gravest ms = m.severity.exitPriority := by
  have greatest : (ms.map fun m => m.severity.exitPriority).max? =
      some m.severity.exitPriority := by
    rw [List.max?_eq_some_iff]
    refine ⟨List.mem_map_of_mem mem, fun b hb => ?_⟩
    obtain ⟨n, hn, rfl⟩ := List.mem_map.1 hb
    exact most n hn
  rw [gravest, greatest, Option.getD_some]

theorem exitCode_eq_gravest (r : Report) : r.exitCode = gravest r.allMessages := by
  by_cases errors : r.hasErrors = true
  · obtain ⟨m, mem, error⟩ := hasErrors_iff.1 errors
    rw [exitCode, if_pos errors, gravest_eq mem fun n _ => ?_, error]
    rw [error]
    exact exitPriority_le _
  · have noError : ∀ m ∈ r.allMessages, m.severity = .warning := by
      intro m mem
      cases severity : m.severity with
      | error => exact absurd (hasErrors_iff.2 ⟨m, mem, severity⟩) errors
      | warning => rfl
    by_cases warnings : r.hasWarnings = true
    · obtain ⟨m, mem, warning⟩ := hasWarnings_iff.1 warnings
      rw [exitCode, if_neg errors, if_pos warnings, gravest_eq mem fun n hn => ?_, warning]
      exact Nat.le_of_eq (by rw [warning, noError n hn])
    · have nothing : r.allMessages = [] := by
        rw [List.eq_nil_iff_forall_not_mem]
        intro m mem
        exact warnings (hasWarnings_iff.2 ⟨m, mem, noError m mem⟩)
      rw [exitCode, if_neg errors, if_neg warnings, nothing]
      rfl

theorem gravest_mono {ms ns : List Message} (sub : ∀ m ∈ ms, m ∈ ns) : gravest ms ≤ gravest ns := by
  cases greatest : (ms.map fun m => m.severity.exitPriority).max? with
  | none =>
    rw [gravest, greatest]
    exact Nat.zero_le _
  | some top =>
    obtain ⟨attained, -⟩ := List.max?_eq_some_iff.1 greatest
    obtain ⟨m, mem, rfl⟩ := List.mem_map.1 attained
    rw [gravest, greatest, Option.getD_some]
    exact List.le_max?_getD_of_mem
      (List.mem_map_of_mem (f := fun m => m.severity.exitPriority) (sub m mem))

theorem hasErrors_iff_exitCode (r : Report) : r.hasErrors = true ↔ r.exitCode = 2 := by
  unfold exitCode
  by_cases errors : r.hasErrors = true
  · simp [errors, Severity.exitPriority]
  · by_cases warnings : r.hasWarnings = true <;> simp [errors, warnings, Severity.exitPriority]

/-! ## More calls -/

theorem grows_call (r : Report) (c : Call) : r.Grows (r.call c) := by
  cases c with
  | addFile path => exact Grows.addFile r path
  | addMessage m =>
    rcases r.addMessage_cases m with ⟨-, ok⟩ | ⟨-, failed⟩
    · simp only [call, ok]
      exact Grows.push r m
    · simp only [call, failed]
      exact Grows.refl r

theorem grows_callAll (r : Report) (calls : List Call) : r.Grows (r.callAll calls) := by
  induction calls generalizing r with
  | nil => exact Grows.refl r
  | cons c calls ih => exact (r.grows_call c).trans (ih _)

theorem mem_allMessages_of_grows {r s : Report} (grows : r.Grows s) (distinct : r.files.Nodup)
    (distinct' : s.files.Nodup) {m : Message} (mem : m ∈ r.allMessages) : m ∈ s.allMessages := by
  rw [allMessages_eq distinct, List.mem_flatMap] at mem
  obtain ⟨path, known, mem⟩ := mem
  rw [allMessages_eq distinct', List.mem_flatMap]
  exact ⟨path, grows.mem known, (grows.messages path).subset mem⟩

theorem exitCode_replay_le (calls more : List Call) :
    (replay calls).exitCode ≤ (replay (calls ++ more)).exitCode := by
  rw [exitCode_eq_gravest, exitCode_eq_gravest]
  apply gravest_mono
  intro m mem
  refine mem_allMessages_of_grows ?_ (nodup_files_replay calls) (nodup_files_replay _) mem
  rw [replay, replay, callAll_append]
  exact grows_callAll _ more

end Report

/-! ## JSON -/

namespace Json

open Text (Glyph)

/-- The fields of an object. -/
def fields : Json → List (List Glyph × Json)
  | .object fields => fields
  | _ => []

/-- The items of an array. -/
def items : Json → List Json
  | .array items => items
  | _ => []

/-- The value of an object's first field of the given name. -/
def field? (key : String) (j : Json) : Option Json :=
  (j.fields.find? (·.1 == Glyph.ofString key)).map (·.2)

/-- Whether a message says that it has the severity. -/
def hasSeverity (s : Severity) (message : Json) : Bool :=
  match message.field? "severity" with
  | some (.string label) => label == Glyph.ofString s.label
  | _ => false

/-- The number of messages of a severity in a section of files. -/
def messageCount (s : Severity) (files : Json) : Nat :=
  (files.fields.map fun f => f.2.items.countP (hasSeverity s)).sum

/-- The summary of a section of files, counted in the section: its keys, and its messages of each
severity. -/
def recount (files : Json) : Json :=
  .object
    [("files", .int (files.fields.map (·.1)).dedup.length),
     ("errors", .int (messageCount .error files)),
     ("warnings", .int (messageCount .warning files))]

end Json

theorem Message.hasSeverity_toJson (s : Severity) (m : Message) :
    m.toJson.hasSeverity s = (m.severity == s) := by
  have field : m.toJson.field? "severity" = some (.string m.severity.label) := rfl
  rw [Json.hasSeverity, field]
  cases s <;> cases m.severity <;> decide

namespace Report

/-- The section of the files in JSON. -/
def filesJson (r : Report) : Json :=
  .object (r.entries.map fun e => (Text.Spelled.glyphs e.1, .array (e.2.map Message.toJson)))

theorem keys_filesJson (r : Report) :
    r.filesJson.fields.map (·.1) = r.files.map Text.Glyph.ofString := by
  rw [filesJson, Json.fields, List.map_map, files, List.map_map]
  rfl

theorem messageCount_filesJson (r : Report) (s : Severity) :
    r.filesJson.messageCount s = r.allMessages.countP (·.severity == s) := by
  rw [Json.messageCount, filesJson, Json.fields, List.map_map, allMessages, List.countP_flatMap]
  congr 1
  refine List.map_congr_left fun e _ => ?_
  simp only [Function.comp_apply, Json.items, List.countP_map]
  congr 1
  funext m
  exact m.hasSeverity_toJson s

theorem recount_filesJson {r : Report} (distinct : r.files.Nodup) :
    r.filesJson.recount = r.summaryJson := by
  have errors : r.filesJson.messageCount .error = r.errorCount := r.messageCount_filesJson .error
  have warnings : r.filesJson.messageCount .warning = r.warningCount :=
    r.messageCount_filesJson .warning
  have keys : (r.files.map Text.Glyph.ofString).Nodup :=
    distinct.map fun _ _ => Text.Glyph.ofString_inj.1
  have files : r.files.length = r.numberOfFiles := List.length_map _
  rw [Json.recount, keys_filesJson, keys.dedup, List.length_map, errors, warnings, files,
    summaryJson]

/-! ## The table -/

theorem natText_inj {m n : Nat} (same : natText m = natText n) : m = n := by
  have digits := String.ofList_inj.1 same
  have values := congrArg (fun cs => Nat.ofDigitChars 10 cs 0) digits
  simpa only [Nat.ofDigitChars_toDigits (b := 10) (by decide) (by decide)] using values

theorem isDigit_of_mem_natText {n : Nat} {c : Char} (mem : c ∈ (natText n).toList) :
    c.isDigit = true := by
  rw [natText, String.toList_ofList] at mem
  exact Nat.isDigit_of_mem_toDigits (by decide) (by decide) mem

/-- The padding before a count can be told from the count. -/
theorem dropWhile_padLeft (width n : Nat) :
    (padLeft width (natText n)).toList.dropWhile (· == ' ') = (natText n).toList := by
  have digits : (natText n).toList.dropWhile (· == ' ') = (natText n).toList := by
    cases text : (natText n).toList with
    | nil => rfl
    | cons c cs =>
      have digit : c.isDigit = true := by
        apply isDigit_of_mem_natText (n := n)
        rw [text]
        exact List.mem_cons_self
      rw [List.dropWhile_cons_of_neg]
      intro blank
      rw [eq_of_beq blank] at digit
      cases digit
  rw [padLeft, String.toList_append, String.toList_ofList, List.dropWhile_append_of_pos, digits]
  intro c mem
  rw [List.eq_of_mem_replicate mem]
  rfl

theorem countRow_inj {label : String} {m n : Nat}
    (same : countRow label (natText m) = countRow label (natText n)) : m = n := by
  have cells := (String.append_right_inj _).1 same
  have digits := congrArg (fun s : String => s.toList.dropWhile (· == ' ')) cells
  simp only [dropWhile_padLeft] at digits
  exact natText_inj (String.toList_inj.1 digits)

/-- The lines of a text. -/
def linesOf (s : String) : List String :=
  (s.toList.splitOn '\n').map String.ofList

theorem linesOf_of_notMem {s : String} (single : '\n' ∉ s.toList) : linesOf s = [s] := by
  have whole : List.splitOn '\n' (['\n'].intercalate [s.toList]) = [s.toList] :=
    List.splitOn_intercalate '\n' (by simpa using single) (by simp)
  rw [List.intercalate_singleton] at whole
  rw [linesOf, whole, List.map_singleton, String.ofList_toList]

/-- Texts on lines of their own are found again, each with the lines that it has. -/
theorem linesOf_intercalate {texts : List String} (some : texts ≠ []) :
    linesOf (String.intercalate "\n" texts) = texts.flatMap linesOf := by
  induction texts with
  | nil => exact absurd rfl some
  | cons first rest ih =>
    cases rest with
    | nil => simp [linesOf]
    | cons second rest =>
      have tail := ih (by simp)
      rw [linesOf, String.toList_intercalate] at tail ⊢
      rw [List.map_cons, List.map_cons, List.intercalate_cons_cons, List.append_assoc,
        show "\n".toList = ['\n'] from rfl, List.singleton_append,
        List.splitOn_append_cons_self, List.map_append]
      rw [List.map_cons, show "\n".toList = ['\n'] from rfl] at tail
      rw [tail, List.flatMap_cons]
      rfl

/-- The lines of the table before the messages. -/
def tableHead (r : Report) : List String :=
  ["Analysis Summary",
   ruler 40 '=',
   countHeader,
   ruler countHeader.length '-',
   countRow Severity.error.label (natText r.errorCount),
   countRow Severity.warning.label (natText r.warningCount),
   ruler countHeader.length '-',
   "Status    : " ++ (if r.passed then "PASS" else "FAIL"),
   "Files     : " ++ natText r.numberOfFiles]

theorem tableLines_eq (r : Report) (limit : Int) :
    r.tableLines limit = r.tableHead ++ messageSection limit r.allMessages := rfl

theorem newline_notMem_natText (n : Nat) : '\n' ∉ (natText n).toList := by
  intro mem
  have digit := isDigit_of_mem_natText mem
  cases digit

theorem newline_notMem_countRow {label : String} (single : '\n' ∉ label.toList) (n : Nat) :
    '\n' ∉ (countRow label (natText n)).toList := by
  have count := newline_notMem_natText n
  simp [countRow, padRight, padLeft, String.toList_append, List.mem_replicate, single, count]

theorem newline_notMem_tableHead (r : Report) : ∀ line ∈ r.tableHead, '\n' ∉ line.toList := by
  have files := newline_notMem_natText r.numberOfFiles
  have status : '\n' ∉ ("Status    : " ++ (if r.passed then "PASS" else "FAIL")).toList := by
    cases r.passed <;> decide
  simp only [tableHead, List.forall_mem_cons]
  refine ⟨by decide, by decide, by decide, by decide, newline_notMem_countRow (by decide) _,
    newline_notMem_countRow (by decide) _, by decide, status, ?_, by simp⟩
  simp [String.toList_append, files]

/-- No text of a message can change the lines of the table before the messages. -/
theorem linesOf_table (r : Report) (limit : Int) :
    linesOf (r.table limit) =
      r.tableHead ++ (messageSection limit r.allMessages).flatMap linesOf := by
  have head : r.tableHead.flatMap linesOf = r.tableHead := by
    rw [List.flatMap_congr fun line mem => linesOf_of_notMem (r.newline_notMem_tableHead line mem)]
    exact List.flatMap_singleton' _
  rw [table, linesOf_intercalate (by simp [tableLines_eq, tableHead]), tableLines_eq,
    List.flatMap_append, head]

/-- The line about messages that are left out. -/
def moreLine (k : Nat) : String :=
  "... " ++ natText k ++ " more"

/-- The lines before the messages. -/
def listHead (ms : List Message) : List String :=
  if ms.isEmpty then [] else ["", "Messages", ruler 40 '-']

/-- The number of messages that a table with a limit leaves out, if there are any. -/
def leftOut? (ms : List Message) (limit : Nat) : Option Nat :=
  if limit < ms.length then some (ms.length - limit) else none

theorem remainder_natCast (ms : List Message) (limit : Nat) :
    remainder ms.length limit = (leftOut? ms limit).toList.map moreLine := by
  unfold remainder leftOut?
  by_cases more : limit < ms.length
  · have small : ¬ (ms.length - limit : Int) < 0 := by omega
    have same : (ms.length - limit : Int).natAbs = ms.length - limit := by omega
    simp [more, moreLine, intText, small, same]
  · simp [more]

theorem messageSection_natCast (ms : List Message) (limit : Nat) :
    messageSection limit ms = listHead ms ++ (ms.take limit).flatMap messageLines ++
      (leftOut? ms limit).toList.map moreLine := by
  have positive : ¬ (limit : Int) < 0 := by omega
  have taken : takeLimit (limit : Int) ms = ms.take limit := by
    rw [takeLimit, if_neg positive, Int.toNat_natCast]
  cases ms with
  | nil => simp [messageSection, listHead, leftOut?]
  | cons m ms =>
    rw [messageSection, taken, remainder_natCast]
    rfl

/-- After any calls on the empty report: the counts are the sums over the files and add up to the
number of messages. The summary in JSON is what can be counted in the section of the files. The
exit code is that of the gravest message and does not fall with further calls. The report has
passed when it has no errors, that is when the exit code is not 2, and the line about the status
says so. The table shows the three counts. It lists the first messages, in order and as many as the
limit allows, and says how many it leaves out when there are more. -/
theorem views_agree (calls : List Call) (limit : Nat) :
    let r := replay calls
    let lines := linesOf (r.table limit)
    (r.errorCount = (r.files.map fun path => (r.errors path).length).sum ∧
      r.warningCount = (r.files.map fun path => (r.warnings path).length).sum ∧
      r.errorCount + r.warningCount = r.allMessages.length) ∧
    (∃ files, r.toJson.field? "files" = some files ∧
      r.toJson.field? "summary" = some files.recount) ∧
    (r.exitCode = gravest r.allMessages ∧
      ∀ more, r.exitCode ≤ (replay (calls ++ more)).exitCode) ∧
    ((r.passed = true ↔ r.hasErrors = false) ∧ (r.hasErrors = true ↔ r.exitCode = 2) ∧
      (lines[7]? = some "Status    : PASS" ↔ r.passed = true) ∧
      (lines[7]? = some "Status    : FAIL" ↔ r.hasErrors = true)) ∧
    (∀ n, (lines[4]? = some (countRow "ERROR" (natText n)) ↔ n = r.errorCount) ∧
      (lines[5]? = some (countRow "WARNING" (natText n)) ↔ n = r.warningCount) ∧
      (lines[8]? = some ("Files     : " ++ natText n) ↔ n = r.numberOfFiles)) ∧
    ∃ listed left, r.table limit = String.intercalate "\n"
        (r.tableHead ++ listHead r.allMessages ++ listed.flatMap messageLines ++
          left.toList.map moreLine) ∧
      listed <+: r.allMessages ∧ listed.length = min limit r.allMessages.length ∧
      (left.isSome = true ↔ limit < r.allMessages.length) ∧
      ∀ k, left = some k → k + listed.length = r.allMessages.length := by
  intro r lines
  have distinct : r.files.Nodup := nodup_files_replay calls
  have head : lines = r.tableHead ++ (messageSection limit r.allMessages).flatMap linesOf :=
    r.linesOf_table limit
  have status : lines[7]? = some ("Status    : " ++ (if r.passed then "PASS" else "FAIL")) := by
    rw [head]
    rfl
  refine ⟨⟨countP_allMessages distinct _, countP_allMessages distinct _,
      r.errorCount_add_warningCount⟩,
    ⟨r.filesJson, rfl, by rw [recount_filesJson distinct]; rfl⟩,
    ⟨r.exitCode_eq_gravest, exitCode_replay_le calls⟩,
    ⟨by simp [passed], r.hasErrors_iff_exitCode, ?_, ?_⟩, fun n => ⟨?_, ?_, ?_⟩,
    r.allMessages.take limit, leftOut? r.allMessages limit, ?_, List.take_prefix _ _,
    List.length_take, ?_, ?_⟩
  · rw [status]
    cases r.passed <;> decide
  · rw [status, passed]
    cases r.hasErrors <;> decide
  · have row : lines[4]? = some (countRow "ERROR" (natText r.errorCount)) := by
      rw [head]
      rfl
    rw [row, Option.some.injEq]
    exact ⟨fun same => (countRow_inj same).symm, fun same => by rw [same]⟩
  · have row : lines[5]? = some (countRow "WARNING" (natText r.warningCount)) := by
      rw [head]
      rfl
    rw [row, Option.some.injEq]
    exact ⟨fun same => (countRow_inj same).symm, fun same => by rw [same]⟩
  · have row : lines[8]? = some ("Files     : " ++ natText r.numberOfFiles) := by
      rw [head]
      rfl
    rw [row, Option.some.injEq]
    refine ⟨fun same => ?_, fun same => by rw [same]⟩
    exact (natText_inj ((String.append_right_inj _).1 same)).symm
  · rw [table, tableLines_eq, messageSection_natCast]
    simp only [List.append_assoc]
  · unfold leftOut?
    split <;> simp_all
  · intro k left
    unfold leftOut? at left
    split at left
    · cases left
      rw [List.length_take]
      omega
    · cases left

end Report

end SourceAudit
