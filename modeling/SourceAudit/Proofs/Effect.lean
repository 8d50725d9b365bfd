import SourceAudit.Proofs.Growth

/-!
# The effect of a confined rule

A rule is confined when it reports on the file it checks, moves the cursor and raises, and does
nothing else: all built-in rules are, and so is a script without steps that count, that name a
file of their own or that interrupt the program. What a confined rule does to a file is the same
in every report that holds the file (`Effect.Describes`), so it can be read off a check with a
report that holds this file alone (`Rule.effect`, `Rule.check_of_confined`).
-/

namespace SourceAudit

/-- What code that is bound to a file does, told without a report. -/
structure Effect where
  /-- The file, with the cursor where it is left. -/
  file : TokenFile
  messages : List Message
  failure : Option Failure

/-- `e` is what `act` does when it is bound to `f`, in every report that holds the file. -/
structure Effect.Describes (e : Effect) (f : TokenFile)
    (act : Binding → Binding × Option Failure) : Prop where
  path_eq : e.file.path = f.path
  own : ∀ m ∈ e.messages, m.path = f.path
  calm : ∀ x, e.failure = some x → x.interrupts = false
  act_eq : ∀ r : Report, f.path ∈ r.files →
    act ⟨f, r⟩ = (⟨e.file, r.pushAll e.messages⟩, e.failure)

/-! ## Walks -/

namespace TokenFile

/-- What visits of the tokens from an index on give, each with the cursor at its token. -/
def scanFrom (f : TokenFile) (visit : TokenFile → Token → Option Message) (start : Nat) :
    List Message :=
  (f.tokens.toList.zipIdx.drop start).filterMap fun p => visit { f with position := p.2 } p.1

variable {f : TokenFile} {visit : TokenFile → Token → Option Message}

theorem scanFrom_of_le {start : Nat} (past : f.tokens.size ≤ start) :
    f.scanFrom visit start = [] := by
  rw [scanFrom, List.drop_of_length_le, List.filterMap_nil]
  simpa using past

theorem scanFrom_eq_append {start : Nat} {t : Token} (here : f.tokens[start]? = some t) :
    f.scanFrom visit start =
      (visit { f with position := start } t).toList ++ f.scanFrom visit (start + 1) := by
  obtain ⟨inside, rfl⟩ := Array.getElem?_eq_some_iff.1 here
  have short : start < f.tokens.toList.zipIdx.length := by simpa using inside
  rw [scanFrom, scanFrom, List.drop_eq_getElem_cons short, List.filterMap_cons,
    List.getElem_zipIdx, Nat.zero_add, Array.getElem_toList]
  cases visit { f with position := start } f.tokens[start] <;> rfl

theorem path_of_mem_scanFrom
    (own : ∀ i t m, visit { f with position := i } t = some m → m.path = f.path) {start : Nat}
    {m : Message} (mem : m ∈ f.scanFrom visit start) : m.path = f.path := by
  obtain ⟨p, -, said⟩ := List.mem_filterMap.1 mem
  exact own p.2 p.1 m said

end TokenFile

namespace Binding

/-- Adding messages does not look at the file, and keeps it. -/
theorem addAll_at (f g : TokenFile) (r : Report) (ms : List Message) :
    addAll ⟨g, r⟩ ms = (⟨g, (addAll ⟨f, r⟩ ms).1.report⟩, (addAll ⟨f, r⟩ ms).2) := by
  induction ms generalizing r with
  | nil => rfl
  | cons m ms ih =>
    rw [addAll, addAll, add, add]
    cases r.addMessage m with
    | ok s => exact ih s
    | error e => rfl

theorem addAll_append {b c : Binding} {ms : List Message} (added : b.addAll ms = (c, none))
    (ns : List Message) : b.addAll (ms ++ ns) = c.addAll ns := by
  induction ms generalizing b with
  | nil =>
    cases added
    rfl
  | cons m ms ih =>
    rw [addAll] at added
    rw [List.cons_append, addAll]
    split at added
    · exact ih added
    · cases added

/-- A message that cannot be added stops the adding, and nothing is added for it. -/
theorem addAll_toList_append {b c : Binding} {m : Option Message} {x : Failure}
    (failed : b.addAll m.toList = (c, some x)) (ns : List Message) :
    b.addAll (m.toList ++ ns) = (b, some x) := by
  cases m with
  | none => cases failed
  | some m =>
    rw [Option.toList_some, addAll, add] at failed
    rw [Option.toList_some, List.singleton_append, addAll, add]
    cases added : b.report.addMessage m with
    | ok r =>
      rw [added] at failed
      cases failed
    | error e =>
      rw [added] at failed
      cases failed
      rfl

/-- A walk adds what visits of the tokens from the cursor on give, each with the cursor at its
token, up to the first message that cannot be added. When all can be, the cursor is left behind the
last token. -/
theorem walk_eq_addAll (visit : TokenFile → Token → Option Message) (f : TokenFile) (r : Report) :
    (walk visit ⟨f, r⟩).1.report = (addAll ⟨f, r⟩ (f.scanFrom visit f.position)).1.report ∧
      (walk visit ⟨f, r⟩).2 = (addAll ⟨f, r⟩ (f.scanFrom visit f.position)).2 ∧
      ((walk visit ⟨f, r⟩).2 = none →
        (walk visit ⟨f, r⟩).1.file = { f with position := max f.position f.tokens.size }) := by
  -- By induction on the number of tokens from the cursor on.
  induction left : f.tokens.size - f.position generalizing f r with
  | zero =>
    have past : f.tokens.size ≤ f.position := by omega
    have done : f.current = none := by rwa [TokenFile.current, Array.getElem?_eq_none_iff]
    rw [walk_eq, TokenFile.scanFrom_of_le past, Nat.max_eq_left past]
    simp only [done]
    exact ⟨rfl, rfl, fun _ => trivial⟩
  | succ n ih =>
    obtain ⟨t, here⟩ : ∃ t, f.current = some t :=
      ⟨f.tokens[f.position], by rw [TokenFile.current, Array.getElem?_eq_getElem]⟩
    have next : f.advance = { f with position := f.position + 1 } := by
      rw [TokenFile.advance, if_pos (by omega)]
    rw [walk_eq, TokenFile.scanFrom_eq_append here]
    simp only [here]
    rcases first : addAll ⟨f, r⟩ (visit f t).toList with ⟨⟨g, s⟩, _ | x⟩
    · have kept := addAll_at f f r (visit f t).toList
      rw [first] at kept
      cases kept
      rw [addAll_append first, next, addAll_at { f with position := f.position + 1 } f s]
      have rest := ih { f with position := f.position + 1 } s (by simp only; omega)
      rw [show max (f.position + 1) f.tokens.size = max f.position f.tokens.size by omega] at rest
      exact rest
    · rw [addAll_toList_append first]
      exact ⟨rfl, rfl, fun none => by cases none⟩

end Binding

/-! ## Single actions -/

namespace Binding

theorem add_of_mem {f : TokenFile} {r : Report} {m : Message} (h : m.path ∈ r.files) :
    add ⟨f, r⟩ m = (⟨f, r.push m⟩, none) := by
  simp only [add, Report.addMessage_of_mem h]

theorem addAll_of_mem {f : TokenFile} {r : Report} {ms : List Message}
    (h : ∀ m ∈ ms, m.path ∈ r.files) : addAll ⟨f, r⟩ ms = (⟨f, r.pushAll ms⟩, none) := by
  induction ms generalizing r with
  | nil => rfl
  | cons m ms ih =>
    rw [addAll, add_of_mem (h m List.mem_cons_self)]
    refine ih fun n hn => ?_
    rw [Report.files_push]
    exact h n (List.mem_cons_of_mem m hn)

end Binding

namespace Effect.Describes

variable {f g : TokenFile} {act : Binding → Binding × Option Failure}

/-- Code that only moves the cursor. -/
theorem move (hp : g.path = f.path) (h : ∀ r, act ⟨f, r⟩ = (⟨g, r⟩, none)) :
    Describes ⟨g, [], none⟩ f act :=
  ⟨hp, by simp, by simp, fun r _ => h r⟩

/-- Code that only fails. -/
theorem fail {x : Failure} (hx : x.interrupts = false) (h : ∀ r, act ⟨f, r⟩ = (⟨f, r⟩, some x)) :
    Describes ⟨f, [], some x⟩ f act :=
  ⟨rfl, by simp, by rintro y ⟨⟩; exact hx, fun r _ => h r⟩

/-- Code that only adds messages about the file. -/
theorem addAll (ms : List Message) (own : ∀ m ∈ ms, m.path = f.path)
    (h : ∀ r, act ⟨f, r⟩ = Binding.addAll ⟨f, r⟩ ms) : Describes ⟨f, ms, none⟩ f act := by
  refine ⟨rfl, own, by simp, fun r hr => ?_⟩
  rw [h, Binding.addAll_of_mem fun m hm => by rwa [own m hm]]

/-- Code that only adds one message about the file. -/
theorem add {m : Message} (own : m.path = f.path)
    (h : ∀ r, act ⟨f, r⟩ = Binding.add ⟨f, r⟩ m) : Describes ⟨f, [m], none⟩ f act := by
  refine ⟨rfl, by simpa using own, by simp, fun r hr => ?_⟩
  rw [h, Binding.add_of_mem (by rwa [own])]
  rfl

/-- Code that goes on with `next` after a first part that does not fail. -/
theorem append {e : Effect} {first next : Binding → Binding × Option Failure} {ms : List Message}
    (d : Describes ⟨g, ms, none⟩ f first) (k : Describes e g next)
    (h : ∀ r, f.path ∈ r.files → act ⟨f, r⟩ = next (first ⟨f, r⟩).1) :
    Describes ⟨e.file, ms ++ e.messages, e.failure⟩ f act := by
  refine ⟨k.path_eq.trans d.path_eq, fun m hm => ?_, k.calm, fun r hr => ?_⟩
  · rcases List.mem_append.1 hm with hm | hm
    · exact d.own m hm
    · exact (k.own m hm).trans d.path_eq
  · have hg : g.path ∈ (r.pushAll ms).files := by rwa [Report.files_pushAll, d.path_eq]
    rw [h r hr, d.act_eq r hr, k.act_eq _ hg, Report.pushAll_append]

end Effect.Describes

/-! ## Built-in rules -/

namespace Builtin

theorem path_of_bareExceptAt {f : TokenFile} {t : Token} {m : Message}
    (h : bareExceptAt f t = some m) : m.path = f.path := by
  unfold bareExceptAt at h
  split at h <;> cases h
  rfl

theorem path_of_tabIndentAt {f : TokenFile} {t : Token} {m : Message}
    (h : tabIndentAt f t = some m) : m.path = f.path := by
  unfold tabIndentAt at h
  split at h <;> cases h
  rfl

theorem path_of_markerAt {f : TokenFile} {t : Token} {m : Message}
    (h : markerAt f t = some m) : m.path = f.path := by
  unfold markerAt at h
  split at h
  · obtain ⟨-, -, rfl⟩ := Option.map_eq_some_iff.1 h
    rfl
  · cases h

theorem path_of_longLine {limit : Int} {f : TokenFile} {line : String × Nat} {m : Message}
    (h : longLine limit f line = some m) : m.path = f.path := by
  simp only [longLine] at h
  split at h <;> cases h
  rfl

theorem path_of_blankLineEnd {f : TokenFile} {line : String × Nat} {m : Message}
    (h : blankLineEnd f line = some m) : m.path = f.path := by
  unfold blankLineEnd at h
  split at h <;> cases h
  rfl

end Builtin

/-- A walk whose visits report on the file has the same effect in every report. -/
theorem Binding.exists_effect_walk {visit : TokenFile → Token → Option Message}
    (hv : ∀ f t m, visit f t = some m → m.path = f.path) (f : TokenFile) :
    ∃ e : Effect, e.Describes f (walk visit) := by
  have own : ∀ m ∈ f.scanFrom visit f.position, m.path = f.path :=
    fun m hm => TokenFile.path_of_mem_scanFrom (fun i t m => hv { f with position := i } t m) hm
  refine ⟨⟨{ f with position := max f.position f.tokens.size }, f.scanFrom visit f.position, none⟩,
    rfl, own, by simp, fun r hr => ?_⟩
  obtain ⟨reported, ended, left⟩ := walk_eq_addAll visit f r
  rw [addAll_of_mem fun m hm => (own m hm).symm ▸ hr] at reported ended
  exact Prod.ext (Binding.ext (left ended) reported) ended

theorem Builtin.exists_effect (b : Builtin) (f : TokenFile) :
    ∃ e : Effect, e.Describes f b.run := by
  cases b with
  | bareExcept => exact Binding.exists_effect_walk (fun _ _ _ => path_of_bareExceptAt) f
  | tabIndentation => exact Binding.exists_effect_walk (fun _ _ _ => path_of_tabIndentAt) f
  | todoComment =>
    refine ⟨⟨f, _, none⟩, .addAll (f.tokens.toList.filterMap (markerAt f)) (fun m hm => ?_)
      fun r => rfl⟩
    obtain ⟨t, -, ht⟩ := List.mem_filterMap.1 hm
    exact path_of_markerAt ht
  | lineLength limit =>
    refine ⟨⟨f, _, none⟩, .addAll ((numberedLines f).filterMap (longLine limit f))
      (fun m hm => ?_) fun r => rfl⟩
    obtain ⟨line, -, hl⟩ := List.mem_filterMap.1 hm
    exact path_of_longLine hl
  | trailingWhitespace =>
    refine ⟨⟨f, _, none⟩, .addAll ((numberedLines f).filterMap (blankLineEnd f))
      (fun m hm => ?_) fun r => rfl⟩
    obtain ⟨line, -, hl⟩ := List.mem_filterMap.1 hm
    exact path_of_blankLineEnd hl

/-! ## Scripts -/

namespace Step

/-- Whether a step only reports on the file that is checked, moves the cursor, or raises what does
not interrupt the program. -/
def isConfined : Step → Bool
  | .count _ | .message .. | .addFile _ => false
  | .raise e => !e.interrupts
  | _ => true

theorem path_repeat_advance (n : Nat) (f : TokenFile) :
    (n.repeat TokenFile.advance f).path = f.path := by
  induction n with
  | zero => rfl
  | succ n ih => rw [Nat.repeat, TokenFile.path_advance, ih]

theorem exists_effect_report (f : TokenFile) (anchor : Anchor) (make : Option Token → Message)
    (own : ∀ t, (make t).path = f.path) :
    ∃ e : Effect, e.Describes f fun b => report b anchor make := by
  cases h : anchored f anchor with
  | ok t => exact ⟨_, .add (own t) fun r => by simp only [report, h]⟩
  | error x => exact ⟨_, .fail (x := .access x) rfl fun r => by simp only [report, h]⟩

theorem exists_effect {s : Step} (h : s.isConfined = true) (f : TokenFile) :
    ∃ e : Effect, e.Describes f fun b => run b s := by
  cases s with
  | warn text anchor =>
    obtain ⟨e, he⟩ := exists_effect_report f anchor (Message.warning f.path text) fun _ => rfl
    exact ⟨e, he.path_eq, he.own, he.calm, he.act_eq⟩
  | error text anchor =>
    obtain ⟨e, he⟩ := exists_effect_report f anchor (Message.error f.path text) fun _ => rfl
    exact ⟨e, he.path_eq, he.own, he.calm, he.act_eq⟩
  | next times => exact ⟨_, .move (path_repeat_advance times f) fun r => rfl⟩
  | seek index =>
    by_cases hi : 0 ≤ index ∧ index < f.tokens.size
    · exact ⟨_, .move (g := { f with position := index.toNat }) rfl
        fun r => by simp only [run, TokenFile.seek, if_pos hi]⟩
    · exact ⟨_, .fail (x := .access (.seek index f.path)) rfl
        fun r => by simp only [run, TokenFile.seek, if_neg hi]⟩
  | rewind => exact ⟨_, .move (g := f.rewind) rfl fun r => rfl⟩
  | drain => exact ⟨_, .move (g := f.drain) rfl fun r => rfl⟩
  | state =>
    exact ⟨_, .add (m := Message.warning f.path (stateText f) f.current) rfl fun r => rfl⟩
  | raise x => exact ⟨_, .fail (x := .raised x) (by simpa [isConfined, Failure.interrupts] using h)
      fun r => rfl⟩
  | count _ | message | addFile _ => cases h

theorem started_of_isConfined {s : Step} (h : s.isConfined = true) : s.started = s := by
  cases s with
  | count _ | message | addFile _ => cases h
  | _ => rfl

/-- Confined steps have the same effect in every report, and stay as they are. -/
theorem exists_effect_runAll {steps : List Step} (h : ∀ s ∈ steps, s.isConfined = true)
    (f : TokenFile) :
    ∃ e : Effect, (e.Describes f fun b => (runAll b steps).2) ∧
      ∀ r, f.path ∈ r.files → (runAll ⟨f, r⟩ steps).1 = steps := by
  induction steps generalizing f with
  | nil => exact ⟨_, .move rfl fun r => rfl, fun _ _ => rfl⟩
  | cons s rest ih =>
    have same := started_of_isConfined (h s List.mem_cons_self)
    obtain ⟨⟨g, ms, x⟩, hd⟩ := exists_effect (h s List.mem_cons_self) f
    obtain ⟨e, he, hrest⟩ := ih (fun t ht => h t (List.mem_cons_of_mem s ht)) g
    cases x with
    | some x =>
      refine ⟨⟨g, ms, some x⟩, ⟨hd.path_eq, hd.own, hd.calm, fun r hr => ?_⟩, fun r hr => ?_⟩
      · simp only [runAll, hd.act_eq r hr]
      · simp only [runAll, hd.act_eq r hr, same]
    | none =>
      refine ⟨_, hd.append he fun r hr => ?_, fun r hr => ?_⟩
      · simp only [runAll, hd.act_eq r hr]
      · have hg : g.path ∈ (r.pushAll ms).files := by rwa [Report.files_pushAll, hd.path_eq]
        simp only [runAll, hd.act_eq r hr, hrest _ hg, same]

end Step

/-! ## Rules -/

/-- The report that holds one file, without messages. -/
def Report.only (path : String) : Report :=
  Report.empty.addFile path

namespace Rule

/-- Whether a rule only reports on the file it checks, moves the cursor, or raises what does not
interrupt the program. -/
def isConfined : Rule → Bool
  | .script s => s.steps.all Step.isConfined
  | _ => true

/-- What a rule does to a file on its own. -/
def effect (rule : Rule) (f : TokenFile) : Effect :=
  let done := rule.check f (Report.only f.path)
  ⟨done.file, done.report.messages f.path, done.failure⟩

/-- The effect is what every check with the rule leaves behind. -/
structure Leaves (rule : Rule) (f : TokenFile) (e : Effect) : Prop where
  own : ∀ m ∈ e.messages, m.path = f.path
  calm : ∀ x, e.failure = some x → x.interrupts = false
  check_eq : ∀ r, f.path ∈ r.files →
    rule.check f r = ⟨{ rule := rule }, e.file, r.pushAll e.messages, e.failure⟩

theorem exists_effect_runBound {c : Script} (h : (Rule.script c).isConfined = true)
    (f : TokenFile) :
    ∃ e : Effect, (∀ m ∈ e.messages, m.path = f.path) ∧
      (∀ x, e.failure = some x → x.interrupts = false) ∧ ∀ r, f.path ∈ r.files →
        ({ rule := .script c } : Session).runBound f r =
          ⟨{ rule := .script c }, e.file, r.pushAll e.messages, e.failure⟩ := by
  obtain ⟨e, he, same⟩ := Step.exists_effect_runAll (List.all_eq_true.1 h) f
  refine ⟨e, he.own, he.calm, fun r hr => ?_⟩
  have hrun : Step.runAll ⟨f, r⟩ c.steps = (c.steps, ⟨e.file, r.pushAll e.messages⟩, e.failure) :=
    Prod.ext (same r hr) (he.act_eq r hr)
  simp only [Session.runBound, Session.run, hrun, Option.getD_some]

theorem exists_leaves {rule : Rule} (h : rule.isConfined = true) (f : TokenFile) :
    ∃ e, rule.Leaves f e := by
  cases rule with
  | builtin b =>
    obtain ⟨e, he⟩ := b.exists_effect f.rewind
    refine ⟨e, he.own, he.calm, fun r hr => ?_⟩
    simp [check, Session.check, Session.runBound, Session.run, he.act_eq r hr]
  | base =>
    refine ⟨⟨f.rewind, [], some .notImplemented⟩, by simp, ?_, fun _ _ => rfl⟩
    rintro x ⟨⟩
    rfl
  | script c =>
    cases hc : c.check with
    | some v =>
      refine ⟨⟨f, [], some (.notCallable v.typeName)⟩, by simp, by rintro x ⟨⟩; rfl, fun r hr => ?_⟩
      simp [check, Session.check, hc]
    | none =>
      cases hs : c.style with
      | token =>
        obtain ⟨e, own, calm, he⟩ := exists_effect_runBound h f.rewind
        exact ⟨e, own, calm, fun r hr => by simp [check, Session.check, hc, hs, he r hr]⟩
      | plain =>
        obtain ⟨e, own, calm, he⟩ := exists_effect_runBound h f
        exact ⟨e, own, calm, fun r hr => by simp [check, Session.check, hc, hs, he r hr]⟩
      | unchecked =>
        refine ⟨⟨f, [], some (.noCheck (Rule.script c).className)⟩, by simp, by rintro x ⟨⟩; rfl,
          fun r hr => ?_⟩
        simp [check, Session.check, hc, hs]

/-- The effect of a confined rule is read off a check with a report that holds the file alone. -/
theorem leaves_effect {rule : Rule} (h : rule.isConfined = true) (f : TokenFile) :
    rule.Leaves f (rule.effect f) := by
  obtain ⟨e, he⟩ := exists_leaves h f
  have hf : f.path ∈ (Report.only f.path).files :=
    ((Report.only f.path).wasAnalyzed_iff f.path).1 (Report.empty.wasAnalyzed_addFile f.path)
  have hm : (Report.only f.path).messages f.path = [] := Report.messages_addFile _ _ _
  have same : rule.effect f = e := by
    simp only [effect, he.check_eq _ hf, Report.messages_pushAll_self hf he.own, hm,
      List.nil_append]
  rwa [same]

/-- A check with a confined rule adds the same messages to every report that holds the file, ends
in the same way and leaves the rule as it was. -/
theorem check_of_confined {rule : Rule} (h : rule.isConfined = true) {f : TokenFile} {r : Report}
    (hr : f.path ∈ r.files) :
    rule.check f r = ⟨{ rule := rule }, (rule.effect f).file,
      r.pushAll (rule.effect f).messages, (rule.effect f).failure⟩ :=
  (leaves_effect h f).check_eq r hr

theorem path_of_mem_effect {rule : Rule} (h : rule.isConfined = true) {f : TokenFile} {m : Message}
    (hm : m ∈ (rule.effect f).messages) : m.path = f.path :=
  (leaves_effect h f).own m hm

theorem effect_calm {rule : Rule} (h : rule.isConfined = true) {f : TokenFile} {x : Failure}
    (hx : (rule.effect f).failure = some x) : x.interrupts = false :=
  (leaves_effect h f).calm x hx

end Rule

end SourceAudit
