import Mathlib.Data.List.Forall2
import SourceAudit.Proofs.Reuse

/-!
# Rules that look at tokens

Some built-in rules go through the tokens of a file and report some of them. Two of them move the
cursor of the file as they go and look ahead from it. A walk of this kind visits every token once,
in order and with the cursor at the token, and leaves the cursor past the last one, so it gives the
messages of a plain scan (`Binding.walk_rewind`). A `TokenComplaint` tells what a
rule has to say about the token at an index, and its `Tells` which messages that makes.
-/

namespace SourceAudit

/-! ## Walks -/

namespace TokenFile

/-- What visits of all tokens give, each with the cursor at its token. -/
def scan (f : TokenFile) (visit : TokenFile → Token → Option Message) : List Message :=
  f.scanFrom visit 0

theorem scan_eq_filterMap (f : TokenFile) (visit : TokenFile → Token → Option Message) :
    f.scan visit =
      f.tokens.toList.zipIdx.filterMap fun p => visit { f with position := p.2 } p.1 := by
  rw [scan, scanFrom, List.drop_zero]

end TokenFile

/-- A walk of all tokens gives what visits of them give, and ends behind the last token. -/
theorem Binding.walk_rewind {visit : TokenFile → Token → Option Message} {f : TokenFile}
    (own : ∀ i t m, visit { f with position := i } t = some m → m.path = f.path) {r : Report}
    (known : f.path ∈ r.files) :
    walk visit ⟨f.rewind, r⟩ = (⟨f.drain, r.pushAll (f.scan visit)⟩, none) := by
  have mine : ∀ m ∈ f.scan visit, m.path ∈ r.files :=
    fun m mem => (TokenFile.path_of_mem_scanFrom own mem).symm ▸ known
  have whole := walk_eq_addAll visit f.rewind r
  rw [show f.rewind.scanFrom visit f.rewind.position = f.scan visit from rfl,
    addAll_of_mem mine] at whole
  obtain ⟨reported, ended, left⟩ := whole
  have file : (walk visit ⟨f.rewind, r⟩).1.file = f.drain := by
    rw [left ended, TokenFile.drain, TokenFile.rewind, Nat.zero_max]
  exact Prod.ext (Binding.ext file reported) ended

/-! ## Complaints about tokens -/

/-- What a rule has against tokens. -/
structure TokenComplaint where
  finding : Finding
  /-- What it says about the token at an index, if anything. -/
  remarks : List Token → Nat → String → Prop

namespace TokenComplaint

/-- A handler that catches everything: the keyword with a colon as the next token. -/
def bareExcept : TokenComplaint where
  finding := .warning
  remarks tokens i text := ∃ t next, tokens[i]? = some t ∧ tokens[i + 1]? = some next ∧
    t.kind = Kind.name ∧ t.text = "except" ∧ next.kind = Kind.op ∧ next.text = ":" ∧
    text = "Bare except clause on line " ++ intText t.line

/-- Indentation that holds a tab. -/
def tabIndentation : TokenComplaint where
  finding := .error
  remarks tokens i text := ∃ t, tokens[i]? = some t ∧ t.kind = Kind.indent ∧ '\t' ∈ t.text.toList ∧
    text = "Tab used for indentation on line " ++ intText t.line

/-- The message tells the complaint about the token at index `i`, and is attached to it. -/
def IsMessage (c : TokenComplaint) (f : TokenFile) (i : Nat) (m : Message) : Prop :=
  ∃ t text, f.tokens.toList[i]? = some t ∧ c.remarks f.tokens.toList i text ∧
    m = ⟨c.finding, f.path, text, some t⟩

/-- The messages tell the complaint about all tokens that it is about, one for each, in order. -/
def Tells (c : TokenComplaint) (f : TokenFile) (ms : List Message) : Prop :=
  ∃ places : List Nat, places.Pairwise (· < ·) ∧
    (∀ i, i ∈ places ↔ ∃ m, c.IsMessage f i m) ∧ List.Forall₂ (c.IsMessage f) places ms

end TokenComplaint

theorem forall₂_filterMap {α β : Type} {R : α → β → Prop} {say : α → Option β} {xs : List α}
    (related : ∀ x ∈ xs, ∀ y, say x = some y → R x y) :
    List.Forall₂ R (xs.filter fun x => (say x).isSome) (xs.filterMap say) := by
  induction xs with
  | nil => exact .nil
  | cons x xs ih =>
    obtain ⟨first, rest⟩ := List.forall_mem_cons.1 related
    cases said : say x with
    | none => simpa [said] using ih rest
    | some y => simpa [said] using ⟨first y said, ih rest⟩

/-- Code that says of each token what the complaint says of it tells the complaint. -/
theorem TokenComplaint.tells_filterMap {c : TokenComplaint} {f : TokenFile}
    {say : Token × Nat → Option Message}
    (exact : ∀ t i m, f.tokens.toList[i]? = some t → (say (t, i) = some m ↔ c.IsMessage f i m)) :
    c.Tells f (f.tokens.toList.zipIdx.filterMap say) := by
  let flagged := f.tokens.toList.zipIdx.filter fun p => (say p).isSome
  have place : ∀ p ∈ f.tokens.toList.zipIdx, f.tokens.toList[p.2]? = some p.1 :=
    fun p mem => List.mem_zipIdx_iff_getElem?.1 mem
  refine ⟨flagged.map Prod.snd, ?_, ?_, ?_⟩
  · have order : (f.tokens.toList.zipIdx.map Prod.snd).Pairwise (· < ·) := by
      rw [List.zipIdx_map_snd]
      exact List.pairwise_lt_range'
    rw [List.pairwise_map] at order ⊢
    exact order.filter _
  · intro i
    constructor
    · intro mem
      obtain ⟨p, found, rfl⟩ := List.mem_map.1 mem
      obtain ⟨known, some⟩ := List.mem_filter.1 found
      obtain ⟨m, said⟩ := Option.isSome_iff_exists.1 some
      exact ⟨m, (exact _ _ _ (place p known)).1 said⟩
    · rintro ⟨m, is⟩
      obtain ⟨t, -, here, -⟩ := id is
      refine List.mem_map.2 ⟨(t, i), List.mem_filter.2 ⟨?_, ?_⟩, rfl⟩
      · exact List.mem_zipIdx_iff_getElem?.2 here
      · rw [(exact t i m here).2 is]
        rfl
  · rw [List.forall₂_map_left_iff]
    exact forall₂_filterMap fun p mem m said => (exact _ _ _ (place p mem)).1 said

/-! ## The walking rules -/

namespace Builtin

/-- The complaint of a rule that walks. -/
def walkComplaint? : Builtin → Option TokenComplaint
  | .bareExcept => some .bareExcept
  | .tabIndentation => some .tabIndentation
  | _ => none

theorem bareExceptAt_eq_some_iff {f : TokenFile} {t : Token} {i : Nat} {m : Message}
    (here : f.tokens.toList[i]? = some t) :
    bareExceptAt { f with position := i } t = some m ↔
      TokenComplaint.bareExcept.IsMessage f i m := by
  have ahead : TokenFile.peek { f with position := i } 1 = f.tokens.toList[i + 1]? := by
    have index : ((i : Int) + 1).toNat = i + 1 := by omega
    rw [TokenFile.peek, TokenFile.at?, if_neg (by show ¬ (i : Int) + 1 < 0; omega)]
    show f.tokens[((i : Int) + 1).toNat]? = _
    rw [index, Array.getElem?_toList]
  rw [bareExceptAt, ahead]
  constructor
  · intro said
    split at said
    · rename_i both
      rw [Bool.and_eq_true, Token.isA_some_iff, Option.any_eq_true] at both
      obtain ⟨⟨kind, text⟩, next, there, colon⟩ := both
      rw [Token.isA_some_iff] at colon
      obtain rfl := Option.some.inj said
      exact ⟨t, _, here, ⟨t, next, here, there, kind, text, colon.1, colon.2, rfl⟩, rfl⟩
    · cases said
  · rintro ⟨t', text, here', ⟨t'', next, here'', there, kind, keyword, op, colon, rfl⟩, rfl⟩
    obtain rfl := Option.some.inj (here.symm.trans here')
    obtain rfl := Option.some.inj (here.symm.trans here'')
    have both : (t.isA Kind.name (some "except") &&
        f.tokens.toList[i + 1]?.any (·.isA Kind.op (some ":"))) = true := by
      rw [Bool.and_eq_true, Token.isA_some_iff, there, Option.any_some, Token.isA_some_iff]
      exact ⟨⟨kind, keyword⟩, op, colon⟩
    rw [if_pos both]
    rfl

theorem tabIndentAt_eq_some_iff {f : TokenFile} {t : Token} {i : Nat} {m : Message}
    (here : f.tokens.toList[i]? = some t) :
    tabIndentAt { f with position := i } t = some m ↔
      TokenComplaint.tabIndentation.IsMessage f i m := by
  rw [tabIndentAt]
  constructor
  · intro said
    split at said
    · rename_i both
      rw [List.contains_iff_mem] at both
      obtain rfl := Option.some.inj said
      exact ⟨t, _, here, ⟨t, here, both.1, both.2, rfl⟩, rfl⟩
    · cases said
  · rintro ⟨t', text, here', ⟨t'', here'', kind, tab, rfl⟩, rfl⟩
    obtain rfl := Option.some.inj (here.symm.trans here')
    obtain rfl := Option.some.inj (here.symm.trans here'')
    rw [if_pos ⟨kind, List.contains_iff_mem.2 tab⟩]
    rfl

/-- A rule that walks visits the tokens, and what it says at each is what its complaint says. -/
theorem exists_visit {rule : Builtin} {complaint : TokenComplaint}
    (about : rule.walkComplaint? = some complaint) :
    ∃ visit, rule.run = Binding.walk visit ∧
      (∀ f t m, visit f t = some m → m.path = f.path) ∧ ∀ f, complaint.Tells f (f.scan visit) := by
  cases rule with
  | bareExcept =>
    obtain rfl := Option.some.inj about
    refine ⟨bareExceptAt, rfl, fun _ _ _ => path_of_bareExceptAt, fun f => ?_⟩
    rw [TokenFile.scan_eq_filterMap]
    exact TokenComplaint.tells_filterMap fun _ _ _ here => bareExceptAt_eq_some_iff here
  | tabIndentation =>
    obtain rfl := Option.some.inj about
    refine ⟨tabIndentAt, rfl, fun _ _ _ => path_of_tabIndentAt, fun f => ?_⟩
    rw [TokenFile.scan_eq_filterMap]
    exact TokenComplaint.tells_filterMap fun _ _ _ here => tabIndentAt_eq_some_iff here
  | lineLength limit | todoComment | trailingWhitespace => cases about

/-- Two rules move the cursor as they look at tokens. A check with one of them, of a file in the
report and with the cursor anywhere, ends well, leaves the cursor at the end and adds to this file
what the rule's complaint tells, and nothing else. Such a check is a walk, and a walk visits every
token once: if every visit leaves a note, there is one note for each token, in order and with the
cursor at the token. -/
theorem walking_rules_are_exact (f : TokenFile) (r : Report) (known : f.path ∈ r.files) :
    (∀ (rule : Builtin) (complaint : TokenComplaint), rule.walkComplaint? = some complaint →
      (∃ visit, rule.run = Binding.walk visit) ∧
      let done := (Rule.builtin rule).check f r
      done.failure = none ∧ done.file = { f with position := f.size } ∧
        done.report.files = r.files ∧
        (∃ ms, complaint.Tells f ms ∧
          done.report.messages f.path = r.messages f.path ++ ms) ∧
        ∀ q, q ≠ f.path → done.report.messages q = r.messages q) ∧
    ∀ note : Nat → Token → Message, (∀ i t, (note i t).path = f.path) →
      Binding.walk (fun g t => some (note g.position t)) ⟨f.rewind, r⟩ =
        (⟨{ f with position := f.size }, r.pushAll (f.tokens.toList.mapIdx note)⟩, none) := by
  constructor
  · intro rule complaint about
    obtain ⟨visit, run, own, tells⟩ := exists_visit about
    have walked : Binding.walk visit ⟨f.rewind, r⟩ = _ :=
      Binding.walk_rewind (fun i t m => own { f with position := i } t m) known
    refine ⟨⟨visit, run⟩, ?_⟩
    intro done
    have after : done = ⟨rule.fresh, f.drain, r.pushAll (f.scan visit), none⟩ := by
      show rule.fresh.check f r = _
      rw [check_fresh, run, walked]
    have mine : ∀ m ∈ f.scan visit, m.path = f.path := by
      intro m mem
      rw [TokenFile.scan_eq_filterMap] at mem
      obtain ⟨p, -, said⟩ := List.mem_filterMap.1 mem
      exact own { f with position := p.2 } p.1 m said
    obtain ⟨files, messages, others⟩ := Report.pushAll_of_own known mine
    rw [after]
    exact ⟨rfl, rfl, files, ⟨_, tells f, messages⟩, others⟩
  · intro note own
    have notes : f.scan (fun g t => some (note g.position t)) = f.tokens.toList.mapIdx note := by
      rw [TokenFile.scan_eq_filterMap, List.mapIdx_eq_zipIdx_map]
      exact congrFun List.filterMap_eq_map' _
    rw [Binding.walk_rewind _ known, notes]
    · rfl
    · rintro i t m ⟨⟩
      exact own i t

/-- Indentation with a tab, then a handler without a class, a keyword before a name and a keyword at
the very end; the cursor is past all of them. -/
def handlerFile : TokenFile where
  path := "handler.py"
  source := ""
  tokens := #[⟨Kind.indent, " \t", 3, 0, ""⟩, ⟨Kind.name, "except", 3, 2, ""⟩,
    ⟨Kind.op, ":", 3, 8, ""⟩, ⟨Kind.name, "except", 4, 2, ""⟩, ⟨Kind.name, "E", 4, 9, ""⟩,
    ⟨Kind.name, "except", 5, 2, ""⟩]
  position := 9

theorem walking_rules_are_exact_of_handlerFile :
    handlerFile.path ∈ (Report.only "handler.py").files ∧
      (∃ ms, TokenComplaint.bareExcept.Tells handlerFile ms ∧ ms.length = 1 ∧
        ((Rule.builtin .bareExcept).check handlerFile (Report.only "handler.py")).report.messages
          "handler.py" = ms) ∧
      ((Rule.builtin .tabIndentation).check handlerFile (Report.only "handler.py")).file =
        { handlerFile with position := 6 } := by
  have known : handlerFile.path ∈ (Report.only "handler.py").files := by decide
  obtain ⟨exact, -⟩ := walking_rules_are_exact handlerFile (Report.only "handler.py") known
  obtain ⟨-, -, -, -, ⟨ms, tells, messages⟩, -⟩ := exact .bareExcept .bareExcept rfl
  obtain ⟨-, -, file, -⟩ := exact .tabIndentation .tabIndentation rfl
  have found : ((Rule.builtin .bareExcept).check handlerFile
      (Report.only "handler.py")).report.messages "handler.py" = ms := messages
  have one : (((Rule.builtin .bareExcept).check handlerFile
      (Report.only "handler.py")).report.messages "handler.py").length = 1 := by
    decide +kernel
  exact ⟨known, ⟨ms, tells, found ▸ one, found⟩, file⟩

end Builtin

end SourceAudit
