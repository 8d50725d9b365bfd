import SourceAudit.Invocation
import SourceAudit.Proofs.Decoding
import SourceAudit.Proofs.Views
import SourceAudit.Proofs.Walking

/-!
# The report that is delivered

A report goes out as JSON, to a file or to the console. A file that was written without an error
holds what was written to it (`FileTree.open?_write`): the directories on the way to it may be new,
but nothing that was there goes away, so the path still leads where it led. The text of a report's
JSON can always be decoded. No file has two entries, so the JSON has distinct keys; it comes back
unless a path, a text or a name has an upper half directly before a lower one
(`Report.payload_decodes`), since the escapes of such a pair are those of one character
(`Report.payload_hides_pair`).
-/

namespace SourceAudit

/-! ## Written files -/

namespace FileTree

variable {t u : FileTree}

/-- Everything that is in one tree is in the other, as a directory or as a file. -/
structure Extends (t u : FileTree) : Prop where
  directories : ∀ place, t.isDirectoryAt place = true → u.isDirectoryAt place = true
  files : ∀ place, t.isFileAt place = true → u.isFileAt place = true

theorem Extends.existsAt (more : t.Extends u) {place : Place} (here : t.existsAt place = true) :
    u.existsAt place = true := by
  rw [FileTree.existsAt, Bool.or_eq_true] at here ⊢
  exact here.imp (more.directories place) (more.files place)

theorem Extends.step (more : t.Extends u) {place next : Place} {part : String}
    (found : t.step place part = .ok next) : u.step place part = .ok next := by
  unfold FileTree.step at found ⊢
  split_ifs at found with file up long here
  · rw [more.directories place (by simpa using file)]
    simpa [up] using found
  · rw [more.directories place (by simpa using file), more.existsAt here]
    simpa [up, long] using found

theorem Extends.follow (more : t.Extends u) {place last : Place} {parts : List String}
    (found : t.follow place parts = .ok last) : u.follow place parts = .ok last := by
  induction parts generalizing place with
  | nil => exact found
  | cons part parts ih =>
    rw [FileTree.follow] at found ⊢
    cases stepped : t.step place part with
    | error e =>
      rw [stepped] at found
      cases found
    | ok next =>
      rw [stepped] at found
      rw [more.step stepped]
      exact ih found

/-- The files after one was written, with the directories on the way to it. -/
theorem files_writeAt (t : FileTree) (place : Place) (c : Content) :
    (t.writeAt place c).files = if t.isFileAt place then
        t.files.map fun f => if f.1 = place then (place, c) else f
      else t.files ++ [(place, c)] := by
  have same : (t.makeDirectory place.dropLast).isFileAt place = t.isFileAt place := rfl
  rw [writeAt, same]
  split <;> rfl

theorem directories_writeAt (t : FileTree) (place : Place) (c : Content) :
    (t.writeAt place c).directories = (t.makeDirectory place.dropLast).directories := by
  rw [writeAt]
  split <;> rfl

/-- Writing changes what a file holds, not where it is. -/
theorem beq_rewritten (place q : Place) (c : Content) :
    ((fun f : Place × Content => f.1 == q) ∘ fun f => if f.1 = place then (place, c) else f) =
      fun f => f.1 == q := by
  funext f
  by_cases same : f.1 = place
  · simp [same]
  · simp [same]

theorem isFileAt_eq_isSome (t : FileTree) (place : Place) :
    t.isFileAt place = (t.files.find? (·.1 == place)).isSome := by
  rw [Bool.eq_iff_iff, isFileAt, List.any_eq_true, List.find?_isSome]

theorem contentAt?_writeAt (t : FileTree) (place : Place) (c : Content) :
    (t.writeAt place c).contentAt? place = some c := by
  rw [contentAt?, files_writeAt]
  split
  · rename_i old
    rw [isFileAt_eq_isSome] at old
    obtain ⟨f, found⟩ := Option.isSome_iff_exists.1 old
    have same : f.1 = place := by simpa using List.find?_some found
    rw [List.find?_map, beq_rewritten, found, Option.map_some, Option.map_some, if_pos same]
  · rename_i new
    rw [isFileAt_eq_isSome, Option.not_isSome_iff_eq_none] at new
    rw [List.find?_append, new]
    simp

theorem extends_writeAt (t : FileTree) (place : Place) (c : Content) :
    t.Extends (t.writeAt place c) := by
  refine ⟨fun q here => ?_, fun q here => ?_⟩
  · rw [isDirectoryAt, directories_writeAt, makeDirectory, Bool.or_eq_true] at *
    refine here.imp_right fun listed => ?_
    rw [List.contains_iff_mem] at *
    exact List.mem_append_left _ listed
  · rw [isFileAt, files_writeAt]
    split
    · rw [List.any_map, beq_rewritten]
      exact here
    · rw [List.any_append, Bool.or_eq_true]
      exact .inl here

theorem isFileAt_writeAt (t : FileTree) (place : Place) (c : Content) :
    (t.writeAt place c).isFileAt place = true := by
  have content := contentAt?_writeAt t place c
  obtain ⟨f, found, -⟩ := Option.map_eq_some_iff.1 content
  rw [isFileAt_eq_isSome, found]
  rfl

theorem followFrom_eq_ok {root : String} {parts : List String} {place : Place}
    (found : t.followFrom root parts = .ok place) :
    root.isEmpty = true ∧ t.follow [] parts = .ok place := by
  unfold followFrom at found
  split at found
  · rename_i relative
    exact ⟨relative, found⟩
  · cases found

/-- What makes a place writable through a path: the path leads to a directory, and then to a name
in it. -/
theorem writable_eq_ok {p : Path} {place : Place} (ok : t.writable p = .ok place) :
    ∃ dir name, place = dir ++ [name] ∧ checkPath p = .ok () ∧ p.root.isEmpty = true ∧
      p.parts = p.parts.dropLast ++ [name] ∧ t.follow [] p.parts.dropLast = .ok dir ∧
      t.isDirectoryAt dir = true ∧ name ≠ ".." ∧ isTooLong name = false := by
  unfold writable at ok
  split at ok
  · cases ok
  · cases ok
  · rename_i dir name entered
    split at ok
    · cases ok
    · obtain rfl := Except.ok.inj ok
      refine ⟨dir, name, rfl, ?_⟩
      unfold entry at entered
      split at entered
      · cases entered
      · cases entered
      · rename_i checked last
        split at entered
        · cases entered
        · rename_i place followed
          by_cases directory : t.isDirectoryAt place = true
          · rw [directory, Bool.not_true, if_neg Bool.false_ne_true] at entered
            split_ifs at entered with up long
            · cases entered
            · cases entered
              obtain ⟨root, followed⟩ := followFrom_eq_ok followed
              refine ⟨checked, root, ?_, followed, directory, up, by simpa using long⟩
              exact (List.dropLast_append_getLast? name last).symm
          · rw [if_pos (by simpa using directory)] at entered
            cases entered

/-- A file that is written through a path is found through it. -/
theorem open?_writeAt {p : Path} {place : Place} (ok : t.writable p = .ok place) (c : Content) :
    (t.writeAt place c).open? p = .ok c := by
  obtain ⟨dir, name, rfl, checked, root, parts, followed, directory, up, short⟩ :=
    writable_eq_ok ok
  have more := extends_writeAt t (dir ++ [name]) c
  have here : (t.writeAt (dir ++ [name]) c).existsAt (dir ++ [name]) = true := by
    rw [existsAt, isFileAt_writeAt, Bool.or_true]
  have last : (t.writeAt (dir ++ [name]) c).step dir name = .ok (dir ++ [name]) := by
    rw [step, more.directories dir directory, here]
    simp [up, short]
  have whole : (t.writeAt (dir ++ [name]) c).follow [] p.parts = .ok (dir ++ [name]) := by
    rw [parts, follow_append, more.follow followed]
    simp only [follow, last]
  have located : (t.writeAt (dir ++ [name]) c).locate p = .ok (dir ++ [name]) := by
    rw [locate, checked]
    simp only [followFrom, root, if_true, whole]
  rw [open?, located]
  simp only [contentAt?_writeAt]

theorem open?_write {p : Path} {c : Content} (ok : (t.write p c).error = none) :
    (t.write p c).tree.open? p = .ok c := by
  unfold write at ok ⊢
  simp only at ok ⊢
  split at ok
  · rename_i failed
    rw [failed] at ok
    cases ok
  · split at ok
    · cases ok
    · rename_i place writable
      exact open?_writeAt writable c

end FileTree

/-! ## The JSON of a report -/

namespace Json

open Text (Glyph)

theorem isIntegral_ofInt? (n : Option Int) : (ofInt? n).IsIntegral := by
  cases n with
  | none => trivial
  | some n => trivial

theorem isPlain_ofInt? (n : Option Int) : (ofInt? n).IsPlain := by
  cases n with
  | none => trivial
  | some n => trivial

theorem ofValue_ofWording (w : Text.Wording) : ofValue (.ofWording w) = .string w.glyphs := by
  cases w with
  | text s => rfl
  | broken gs => rfl

end Json

section

open Text (Glyph Spelled Wording)

variable {σ : Type} [Spelled σ]

namespace Message

/-- A rule that the message names has a string for its name. -/
def NamesString (m : Message σ) : Prop :=
  ∀ name, m.finding = .rule name → ∃ w, name = .ofWording w

/-- What the JSON of a message holds besides the fields of every message: the name of the rule. -/
def ruleField (m : Message σ) : List (List Glyph × Json) :=
  match m.finding with
  | .rule name => [("rule", Json.ofValue name)]
  | _ => []

theorem toJson_eq (m : Message σ) :
    m.toJson = .object
      (("kind", .string m.finding.label) :: ("severity", .string m.severity.label) ::
        ("path", .string (Spelled.glyphs m.path)) :: ("line", Json.ofInt? m.line) ::
        ("column", Json.ofInt? m.column) :: ("text", .string (Spelled.glyphs m.text)) ::
        m.ruleField) := rfl

omit [Spelled σ] in
theorem ruleField_cases {m : Message σ} (named : m.NamesString) :
    (m.finding.label = "rule" ∧ ∃ w, m.finding = .rule (.ofWording w) ∧
        m.ruleField = [(Glyph.ofString "rule", .string w.glyphs)]) ∨
      (m.finding.label ≠ "rule" ∧ m.ruleField = []) := by
  unfold ruleField
  cases finding : m.finding with
  | error | warning | lint => exact .inr ⟨by decide, rfl⟩
  | rule name =>
    obtain ⟨w, rfl⟩ := named name finding
    exact .inl ⟨rfl, w, rfl, by simp only [Json.ofValue_ofWording]⟩

theorem isIntegral_toJson {m : Message σ} (named : m.NamesString) : m.toJson.IsIntegral := by
  have line := Json.isIntegral_ofInt? m.line
  have column := Json.isIntegral_ofInt? m.column
  rw [toJson_eq]
  rcases ruleField_cases named with ⟨-, w, -, field⟩ | ⟨-, field⟩
  · rw [field]
    exact ⟨trivial, trivial, trivial, line, column, trivial, trivial, trivial⟩
  · rw [field]
    exact ⟨trivial, trivial, trivial, line, column, trivial, trivial⟩

theorem isPlain_toJson {m : Message σ} (named : m.NamesString)
    (path : Json.AreSeparate (Spelled.glyphs m.path))
    (text : Json.AreSeparate (Spelled.glyphs m.text))
    (name : ∀ w, m.finding = .rule (.ofWording w) → Json.AreSeparate w.glyphs) :
    m.toJson.IsPlain := by
  have line := Json.isPlain_ofInt? m.line
  have column := Json.isPlain_ofInt? m.column
  have plain : ∀ s : String, Json.AreSeparate (Glyph.ofString s) := Json.areSeparate_ofString
  rw [toJson_eq]
  rcases ruleField_cases named with ⟨-, w, rule, field⟩ | ⟨-, field⟩
  · rw [field]
    exact ⟨by simp, plain _, plain _, plain _, plain _, plain _, path, plain _, line, plain _,
      column, plain _, text, plain _, name w rule, trivial⟩
  · rw [field]
    exact ⟨by simp, plain _, plain _, plain _, plain _, plain _, path, plain _, line, plain _,
      column, plain _, text, trivial⟩

end Message

namespace Report

/-- All strings of the report that the calls make are separate. -/
structure SeparateStrings [DecidableEq σ] (calls : List (Call σ)) : Prop where
  files : ∀ path, .addFile path ∈ calls → Json.AreSeparate (Spelled.glyphs path)
  texts : ∀ m ∈ accepted calls, Json.AreSeparate (Spelled.glyphs m.text)
  names : ∀ m ∈ accepted calls, ∀ w, m.finding = .rule (.ofWording w) → Json.AreSeparate w.glyphs

theorem isIntegral_toJson {r : Report σ} (named : ∀ e ∈ r.entries, ∀ m ∈ e.2, m.NamesString) :
    r.toJson.IsIntegral := by
  have files : Json.HaveIntegral
      (r.entries.map fun e => (Spelled.glyphs e.1, Json.array (e.2.map Message.toJson))) := by
    rw [Json.haveIntegral_iff, List.forall_mem_map]
    intro e mem
    change Json.AreIntegral _
    rw [Json.areIntegral_iff, List.forall_mem_map]
    intro m written
    exact Message.isIntegral_toJson (named e mem m written)
  exact ⟨⟨trivial, trivial, trivial, trivial⟩, files, trivial, trivial⟩

theorem isPlain_toJson {r : Report σ} (distinct : r.files.Nodup)
    (files : ∀ e ∈ r.entries, Json.AreSeparate (Spelled.glyphs e.1))
    (messages : ∀ e ∈ r.entries, ∀ m ∈ e.2, m.toJson.IsPlain) : r.toJson.IsPlain := by
  have keys : ((r.entries.map fun e =>
      (Spelled.glyphs e.1, Json.array (e.2.map Message.toJson))).map Prod.fst).Nodup := by
    have spelled := distinct.map fun _ _ => Spelled.inj (σ := σ)
    rw [Report.files, List.map_map] at spelled
    rwa [List.map_map]
  have entries : Json.HavePlain
      (r.entries.map fun e => (Spelled.glyphs e.1, Json.array (e.2.map Message.toJson))) := by
    rw [Json.havePlain_iff, List.forall_mem_map]
    intro e mem
    refine ⟨files e mem, ?_⟩
    change Json.ArePlain _
    rw [Json.arePlain_iff, List.forall_mem_map]
    exact messages e mem
  have plain : ∀ s : String, Json.AreSeparate (Glyph.ofString s) := Json.areSeparate_ofString
  exact ⟨by simp, plain _, ⟨by simp, plain _, trivial, plain _, trivial, plain _, trivial,
    trivial⟩, plain _, ⟨keys, entries⟩, plain _, trivial, trivial⟩

variable [DecidableEq σ]

omit [Spelled σ] in
theorem messages_replay (calls : List (Call σ)) (path : σ) :
    (replay calls).messages path = (accepted calls).filter (·.path == path) := by
  have start : (empty : Report σ).messages path = [] := rfl
  rw [replay, messages_callAll, start, List.nil_append]
  rfl

omit [Spelled σ] in
/-- The messages of an entry are accepted ones about its file. -/
theorem mem_accepted_of_mem_entries {calls : List (Call σ)} {e : σ × List (Message σ)}
    (mem : e ∈ (replay calls).entries) {m : Message σ} (written : m ∈ e.2) :
    m ∈ accepted calls ∧ m.path = e.1 := by
  rw [← messages_of_mem_entries (nodup_files_replay calls) mem, messages_replay] at written
  obtain ⟨taken, own⟩ := List.mem_filter.1 written
  exact ⟨taken, by simpa using own⟩

theorem isIntegral_replay {calls : List (Call σ)} (named : ∀ m ∈ accepted calls, m.NamesString) :
    (replay calls).toJson.IsIntegral :=
  isIntegral_toJson fun _ mem m written => named m (mem_accepted_of_mem_entries mem written).1

theorem isPlain_replay {calls : List (Call σ)} (named : ∀ m ∈ accepted calls, m.NamesString)
    (separate : SeparateStrings calls) : (replay calls).toJson.IsPlain := by
  have files : ∀ e ∈ (replay calls).entries, Json.AreSeparate (Spelled.glyphs e.1) := by
    intro e mem
    have added : e.1 ∈ (replay calls).files := List.mem_map_of_mem mem
    exact separate.files e.1 (mem_files_replay.1 added)
  refine isPlain_toJson (nodup_files_replay calls) files fun e mem m written => ?_
  obtain ⟨taken, own⟩ := mem_accepted_of_mem_entries mem written
  exact Message.isPlain_toJson (named m taken) (own ▸ files e mem) (separate.texts m taken)
    (separate.names m taken)

/-- The JSON of a report, told by the calls that made it. -/
theorem toJson_replay (calls : List (Call σ)) :
    (replay calls).toJson = .object
      [("summary", (replay calls).summaryJson),
       ("files", .object ((calls.filterMap Call.file?).eraseDups.map fun path =>
         (Spelled.glyphs path,
           .array (((accepted calls).filter (·.path == path)).map Message.toJson)))),
       ("passed", .bool (replay calls).passed)] := by
  have files : ((calls.filterMap Call.file?).eraseDups.map fun path =>
        (Spelled.glyphs path,
          Json.array (((accepted calls).filter (·.path == path)).map Message.toJson))) =
      (replay calls).entries.map fun e =>
        (Spelled.glyphs e.1, Json.array (e.2.map Message.toJson)) := by
    rw [← files_replay, files, List.map_map]
    refine List.map_congr_left fun e mem => ?_
    have own := messages_of_mem_entries (nodup_files_replay calls) mem
    rw [messages_replay] at own
    simp only [Function.comp_apply, own]
  rw [files, toJson]

theorem decode_payload {calls : List (Call σ)} (named : ∀ m ∈ accepted calls, m.NamesString) :
    Json.decode (replay calls).payload = some (replay calls).toJson.read :=
  Json.decode_of_scans (Json.scans_text (isIntegral_replay named))

theorem decode_payload_of_separate {calls : List (Call σ)}
    (named : ∀ m ∈ accepted calls, m.NamesString) (separate : SeparateStrings calls) :
    Json.decode (replay calls).payload = some (replay calls).toJson := by
  rw [decode_payload named, Json.read_of_isPlain _ (isPlain_replay named separate)]

end Report

/-! ## Delivery -/

namespace Invocation

variable {t : FileTree} {a : CommandLine.Arguments} {r : Report σ}

theorem open?_deliver {path : String} (out : a.out = some path) (given : path ≠ "")
    {code : Nat} (exit : (deliver t a r).ending = .exit code) :
    (deliver t a r).tree.open? (Path.ofString path) = .ok (.bytes r.payload.toUTF8.toList) := by
  have asked : a.out.filter (fun path => !path.isEmpty) = some path := by
    rw [out, Option.filter_some, if_pos (by simpa using given)]
  unfold deliver at exit ⊢
  simp only [asked] at exit ⊢
  cases printable : r.isPrintable Report.defaultLimit with
  | false =>
    rw [printable] at exit
    cases exit
  | true =>
    rw [printable] at exit
    simp only [Bool.not_true, Bool.false_eq_true, if_false] at exit ⊢
    cases failed : (t.write (Path.ofString path) (.bytes r.payload.toUTF8.toList)).error with
    | some e =>
      rw [failed] at exit
      cases exit
    | none => exact FileTree.open?_write failed

theorem deliver_json (out : ∀ path ∈ a.out, path = "") (json : a.json = true)
    (printable : r.isPrintable Report.defaultLimit = true) :
    (deliver t a r).ending = .exit r.exitCode ∧
      (deliver t a r).stdout = (r.map Spelled.display).table Report.defaultLimit ++ "\n" ++
        ("\nJSON Report\n" ++ r.payload ++ "\n") := by
  have asked : a.out.filter (fun path => !path.isEmpty) = none := by
    rw [Option.filter_eq_none_iff]
    intro path given
    simp [out path given]
  unfold deliver
  simp only [asked, json, printable, Bool.not_true, Bool.false_eq_true, if_false, if_true,
    and_self]

end Invocation

namespace Report

variable [DecidableEq σ]

/-- For all calls that make a report whose rules have strings for their names. The payload is a JSON
text, and decodes to the report's JSON with the pairs of halves in its strings joined; when there
are none, it decodes to the JSON itself. The JSON has the added files in the order of their first
call, each with the accepted messages about it, in order; a message has its six fields, and the name
of a rule if and only if it is about a rule. The payload is what a file holds when the report was
written to it, and what follows the table on the console. Reports with one payload have one JSON,
unless there are pairs of halves. -/
theorem payload_decodes (calls : List (Call σ)) (named : ∀ m ∈ accepted calls, m.NamesString) :
    let r := replay calls
    (Json.Scans r.payload.toList r.toJson.lexemes ∧
        Json.decode r.payload = some r.toJson.read) ∧
      (SeparateStrings calls → Json.decode r.payload = some r.toJson) ∧
      r.toJson = .object
        [("summary", r.summaryJson),
         ("files", .object ((calls.filterMap Call.file?).eraseDups.map fun path =>
           (Spelled.glyphs path,
             .array (((accepted calls).filter (·.path == path)).map Message.toJson)))),
         ("passed", .bool r.passed)] ∧
      (∀ m ∈ accepted calls, ∃ more, m.toJson = .object
          (("kind", .string m.finding.label) :: ("severity", .string m.severity.label) ::
            ("path", .string (Spelled.glyphs m.path)) :: ("line", Json.ofInt? m.line) ::
            ("column", Json.ofInt? m.column) :: ("text", .string (Spelled.glyphs m.text)) ::
            more) ∧
        ((m.finding.label = "rule" ∧ ∃ w, m.finding = .rule (.ofWording w) ∧
            more = [(Glyph.ofString "rule", .string w.glyphs)]) ∨
          (m.finding.label ≠ "rule" ∧ more = []))) ∧
      (∀ (t : FileTree) (a : CommandLine.Arguments) (path : String) (code : Nat),
        a.out = some path → path ≠ "" → (Invocation.deliver t a r).ending = .exit code →
        (Invocation.deliver t a r).tree.open? (Path.ofString path) =
          .ok (.bytes r.payload.toUTF8.toList)) ∧
      (∀ (t : FileTree) (a : CommandLine.Arguments),
        (∀ path ∈ a.out, path = "") → a.json = true → r.isPrintable defaultLimit = true →
        (Invocation.deliver t a r).ending = .exit r.exitCode ∧
          (Invocation.deliver t a r).stdout =
            (r.map Spelled.display).table defaultLimit ++ "\n" ++
              ("\nJSON Report\n" ++ r.payload ++ "\n")) ∧
      ∀ others : List (Call σ), (∀ m ∈ accepted others, m.NamesString) → SeparateStrings calls →
        SeparateStrings others → (replay others).payload = r.payload →
        (replay others).toJson = r.toJson := by
  intro r
  refine ⟨⟨Json.scans_text (isIntegral_replay named), decode_payload named⟩,
    decode_payload_of_separate named, toJson_replay calls, ?_, ?_, ?_, ?_⟩
  · intro m mem
    exact ⟨m.ruleField, m.toJson_eq, Message.ruleField_cases (named m mem)⟩
  · intro t a path code out given exit
    exact Invocation.open?_deliver out given exit
  · intro t a out json printable
    exact Invocation.deliver_json out json printable
  · intro others strings separate separate' same
    have first := decode_payload_of_separate strings separate'
    rw [same, decode_payload_of_separate named separate] at first
    exact (Option.some.inj first).symm

/-- Messages with quotes, a backslash, control characters, a character beyond U+FFFF and halves of
pairs in a wrong order. -/
def awkwardMessages : List (Message (List Glyph)) :=
  [Message.rule "\"\\.py" "Rule é:\n\t\x7f" (.text "rulecheck.rules.😀"),
   Message.rule [.half 0x600, .half 0x3D] "\u2028" (.broken [.half 0x3D, .char 'a'])]

/-- Calls that add them, and a call that is refused. -/
def awkwardCalls : List (Call (List Glyph)) :=
  [.addFile "\"\\.py", .addFile "😀\x00.py", .addFile [.half 0x600, .half 0x3D],
   .addMessage (Message.lint "gone.py" ""), .addFile "\"\\.py"] ++
    awkwardMessages.map .addMessage

theorem payload_decodes_of_awkward :
    (∀ m ∈ accepted awkwardCalls, m.NamesString) ∧ SeparateStrings awkwardCalls ∧
      accepted awkwardCalls = awkwardMessages ∧
      Json.decode (replay awkwardCalls).payload = some (replay awkwardCalls).toJson := by
  have taken : accepted awkwardCalls = awkwardMessages := by rfl
  have named : ∀ m ∈ awkwardMessages, m.NamesString := by
    refine List.forall_mem_cons.2 ⟨?_, List.forall_mem_singleton.2 ?_⟩
    · rintro _ ⟨⟩
      exact ⟨.text _, rfl⟩
    · rintro _ ⟨⟩
      exact ⟨.broken _, rfl⟩
  have files : ∀ path ∈ (replay awkwardCalls).files, Json.AreSeparate (Spelled.glyphs path) := by
    decide +kernel
  have texts : ∀ m ∈ awkwardMessages, Json.AreSeparate (Spelled.glyphs m.text) := by
    decide +kernel
  have names : ∀ m ∈ awkwardMessages, ∀ w, m.finding = .rule (.ofWording w) →
      Json.AreSeparate w.glyphs := by
    refine List.forall_mem_cons.2 ⟨?_, List.forall_mem_singleton.2 ?_⟩
    · rintro (s | gs) rule <;> cases rule
      decide +kernel
    · rintro (s | gs) rule <;> cases rule
      decide +kernel
  rw [← taken] at named texts names
  have separate : SeparateStrings awkwardCalls :=
    ⟨fun path added => files path (mem_files_replay.2 added), texts, names⟩
  exact ⟨named, separate, taken, (payload_decodes awkwardCalls named).2.1 separate⟩

/-- A pair of halves and the character that it encodes, as paths: the reports have one payload. -/
theorem payload_hides_pair :
    let r := replay [.addFile [Glyph.half 0x3D, Glyph.half 0x600]]
    let s := replay [.addFile (Glyph.ofString "😀")]
    r.payload = s.payload ∧ r.toJson ≠ s.toJson ∧ Json.decode r.payload ≠ some r.toJson := by
  intro r s
  have payload : r.payload = s.payload := by decide +kernel
  have differ : r.toJson ≠ s.toJson := by
    intro same
    have keys := congrArg
      (fun j => (j.field? "files").map fun files => files.fields.map Prod.fst) same
    revert keys
    decide +kernel
  have separate : SeparateStrings [.addFile (Glyph.ofString "😀")] := by
    constructor
    · intro path added
      cases List.mem_singleton.1 added
      decide +kernel
    · intro m mem
      cases mem
    · intro m mem
      cases mem
  have decoded : Json.decode s.payload = some s.toJson :=
    decode_payload_of_separate (fun m mem => by cases mem) separate
  refine ⟨payload, differ, fun back => differ ?_⟩
  rw [payload, decoded] at back
  exact (Option.some.inj back).symm

end Report

end

end SourceAudit
