import SourceAudit.Proofs.Excluding

/-!
# Names that disable rules

The name of a rule is the namespace, a dot and an identifier (`RuleName.IsName`). A text is taken as
such a name when it is one, and also when it is one with a line feed behind it
(`RuleName.isWellFormed_iff`). Such a text is then kept as it is, line feed and all, and is the
name of another rule than the one that was meant. Every other text is refused, at once and by name:
nothing but a text that is not taken makes loading fail in this way (`loadRules_refuses_name_iff`).
-/

namespace SourceAudit

/-! ## The form of a name -/

namespace RuleName

/-- A letter of ASCII, or the underscore. -/
def IsLetter (c : Char) : Prop :=
  ('A' ≤ c ∧ c ≤ 'Z') ∨ ('a' ≤ c ∧ c ≤ 'z') ∨ c = '_'

/-- A digit of ASCII. -/
def IsDigit (c : Char) : Prop :=
  '0' ≤ c ∧ c ≤ '9'

/-- The text is a name of a rule, and nothing else. -/
def IsName (s : String) : Prop :=
  ∃ first rest, s = "rulecheck.rules." ++ String.ofList (first :: rest) ∧ IsLetter first ∧
    ∀ c ∈ rest, IsLetter c ∨ IsDigit c

/-- The text is a name of a rule, but for a line feed that may stand behind it. -/
def IsTaken (s : String) : Prop :=
  ∃ name, IsName name ∧ (s = name ∨ s = name ++ "\n")

theorem decide_between_iff {a b c : Char} :
    (decide (c.val ≥ a.val) && decide (c.val ≤ b.val)) = true ↔ a ≤ c ∧ c ≤ b := by
  rw [Bool.and_eq_true, decide_eq_true_eq, decide_eq_true_eq]
  rfl

theorem isStemHead_iff {c : Char} : isStemHead c = true ↔ IsLetter c := by
  have upper : c.isUpper = true ↔ 'A' ≤ c ∧ c ≤ 'Z' := decide_eq_true_iff
  have lower : c.isLower = true ↔ 'a' ≤ c ∧ c ≤ 'z' := decide_between_iff
  have head : isStemHead c = (c.isUpper || c.isLower || c == '_') := rfl
  rw [head, Bool.or_eq_true, Bool.or_eq_true, upper, lower, beq_iff_eq, or_assoc]
  rfl

theorem isStemTail_iff {c : Char} : isStemTail c = true ↔ IsLetter c ∨ IsDigit c := by
  have digit : c.isDigit = true ↔ IsDigit c := decide_between_iff
  have head : isStemHead c = (c.isAlpha || c == '_') := rfl
  have tail : isStemTail c = (c.isAlpha || c.isDigit || c == '_') := rfl
  rw [← isStemHead_iff, tail, head, ← digit, Bool.or_right_comm, Bool.or_eq_true]

theorem qualify_eq (stem : String) : qualify stem = "rulecheck.rules." ++ stem := rfl

theorem qualify_append (stem more : String) : qualify stem ++ more = qualify (stem ++ more) :=
  String.append_assoc

theorem isName_iff {s : String} : IsName s ↔ ∃ stem, IsIdentifier stem ∧ s = qualify stem := by
  constructor
  · rintro ⟨first, rest, rfl, letter, others⟩
    refine ⟨String.ofList (first :: rest), ⟨first, rest, String.toList_ofList, ?_, ?_⟩, ?_⟩
    · exact isStemHead_iff.2 letter
    · exact fun c mem => isStemTail_iff.2 (others c mem)
    · rw [qualify_eq]
  · rintro ⟨stem, ⟨first, rest, chars, head, tail⟩, rfl⟩
    refine ⟨first, rest, ?_, isStemHead_iff.1 head, fun c mem => isStemTail_iff.1 (tail c mem)⟩
    rw [qualify_eq, ← chars, String.ofList_toList]

theorem dropFinalNewline_concat (cs : List Char) : dropFinalNewline (cs ++ ['\n']) = cs := by
  rw [dropFinalNewline, List.getLast?_concat, if_pos rfl, List.dropLast_concat]

theorem dropFinalNewline_cases (cs : List Char) :
    cs = dropFinalNewline cs ∨ cs = dropFinalNewline cs ++ ['\n'] := by
  unfold dropFinalNewline
  split
  · next last => exact .inr (List.dropLast_append_getLast? _ last).symm
  · exact .inl rfl

/-- A stem is an identifier, or one with a line feed behind it. -/
theorem isStem_iff {cs : List Char} :
    isStem cs = true ↔
      ∃ stem, IsIdentifier stem ∧ (cs = stem.toList ∨ cs = (stem ++ "\n").toList) := by
  constructor
  · intro isStem
    cases cs with
    | nil => cases isStem
    | cons first rest =>
      rw [RuleName.isStem, Bool.and_eq_true, List.all_eq_true] at isStem
      refine ⟨String.ofList (first :: dropFinalNewline rest),
        ⟨first, _, String.toList_ofList, isStem.1, isStem.2⟩, ?_⟩
      rw [String.toList_append, String.toList_ofList]
      exact (dropFinalNewline_cases rest).imp (congrArg (first :: ·)) (congrArg (first :: ·))
  · rintro ⟨stem, identifier, rfl | rfl⟩
    · rw [← isWellFormed_qualify]
      exact isWellFormed_of_isIdentifier identifier
    · obtain ⟨first, rest, chars, head, tail⟩ := identifier
      have more : (stem ++ "\n").toList = first :: (rest ++ ['\n']) := by
        rw [String.toList_append, chars]
        rfl
      rw [more, isStem, Bool.and_eq_true, dropFinalNewline_concat, List.all_eq_true]
      exact ⟨head, tail⟩

theorem exists_qualify {s : String} (wellFormed : isWellFormed s = true) :
    ∃ stem, s = qualify stem := by
  rw [isWellFormed] at wellFormed
  cases found : after? (qualify "").toList s.toList with
  | none =>
    rw [found] at wellFormed
    cases wellFormed
  | some rest =>
    refine ⟨String.ofList rest, String.toList_inj.1 ?_⟩
    rw [toList_qualify, String.toList_ofList]
    exact (after?_eq_some_iff _ _ _).1 found

/-- What is taken as a name. -/
theorem isWellFormed_iff {s : String} : isWellFormed s = true ↔ IsTaken s := by
  constructor
  · intro wellFormed
    obtain ⟨all, rfl⟩ := exists_qualify wellFormed
    rw [isWellFormed_qualify, isStem_iff] at wellFormed
    obtain ⟨stem, identifier, same⟩ := wellFormed
    refine ⟨qualify stem, isName_iff.2 ⟨stem, identifier, rfl⟩, ?_⟩
    rw [qualify_append]
    exact same.imp (congrArg qualify ∘ String.toList_inj.1) (congrArg qualify ∘ String.toList_inj.1)
  · rintro ⟨name, isName, same⟩
    obtain ⟨stem, identifier, rfl⟩ := isName_iff.1 isName
    rcases same with rfl | rfl
    · exact isWellFormed_of_isIdentifier identifier
    · rw [qualify_append, isWellFormed_qualify, isStem_iff]
      exact ⟨stem, identifier, .inr rfl⟩

theorem ofValue?_text_eq_some_iff {s : String} : ofValue? (.text s) = some s ↔ IsTaken s := by
  simp [ofValue?, ← isWellFormed_iff]

theorem ofValue?_text_eq_none_iff {s : String} : ofValue? (.text s) = none ↔ ¬ IsTaken s := by
  simp [ofValue?, ← isWellFormed_iff]

theorem IsName.newline_notMem {s : String} (isName : IsName s) : '\n' ∉ s.toList := by
  obtain ⟨stem, ⟨first, rest, chars, head, tail⟩, rfl⟩ := isName_iff.1 isName
  rw [toList_qualify, chars, List.mem_append, List.mem_cons]
  rintro (lead | rfl | mem)
  · exact absurd lead (by decide +kernel)
  · exact absurd head (by decide)
  · exact absurd (tail _ mem) (by decide)

theorem isTaken_iff_of_getLast? {s : String} (last : s.toList.getLast? ≠ some '\n') :
    IsTaken s ↔ IsName s := by
  constructor
  · rintro ⟨name, isName, rfl | rfl⟩
    · exact isName
    · exact absurd (by simp) last
  · intro isName
    exact ⟨s, isName, .inl rfl⟩

end RuleName

/-! ## What becomes of a name -/

namespace Registry

theorem loadFault_ne_refused {r : Refusal} {refusal : String → Refusal}
    (other : ∀ text, refusal text ≠ r) (x : Failure) : loadFault x refusal ≠ .refused r := by
  intro same
  unfold loadFault at same
  split at same
  · cases same
  · split at same
    · cases same
    · exact other _ (Fault.refused.inj same)

/-- Nothing that stands in the way of a candidate is about a name to disable. -/
theorem Candidate.Blocks.ne_badRuleName {c : Catalogue} {names : List String} {s : Candidate}
    {f : Fault} (blocked : s.Blocks c names f) (v : Value) : f ≠ .refused (.badRuleName v) := by
  cases blocked with
  | moduleFailed | factoryFailed =>
    apply loadFault_ne_refused
    intro text same
    cases same
  | noBuiltin | definedTwice | alreadyLoaded | notLoadable | notLinked | noFactory | notARule |
    misnamed => nofun

end Registry

open Registry

/-- Loading fails because of a name to disable exactly when there is one that is not taken, and then
because of the first. -/
theorem loadRules_refuses_name_iff (t : FileTree) (c : Catalogue) (enabled : Bool)
    (paths : List String) (disabled : List Value) (v : Value) :
    (loadRules t c enabled paths disabled).outcome = .error (.refused (.badRuleName v)) ↔
      disabled.find? (fun v => (RuleName.ofValue? v).isNone) = some v := by
  constructor
  · intro refused
    cases first : disabled.find? fun v => (RuleName.ofValue? v).isNone with
    | some u =>
      rw [loadRules_of_malformed first] at refused
      cases refused
      rfl
    | none =>
      have good : ∀ u ∈ disabled, (RuleName.ofValue? u).isSome = true := by
        intro u mem
        simpa [Option.isSome_iff_ne_none] using List.find?_eq_none.1 first u mem
      rcases loadRules_cases t c enabled paths good with
        ⟨l, ok, -⟩ | ⟨done, task, rest, f, split, failed, -, stops⟩
      · cases ok.symm.trans refused
      · obtain rfl := Except.error.inj (failed.symm.trans refused)
        rcases stops with rfl | ⟨s, -, blocked⟩
        · have planned : .stop (.refused (.badRuleName v)) ∈ plan t c enabled paths := by
            rw [split]
            exact List.mem_append_right _ List.mem_cons_self
          obtain ⟨path, -, ⟨-, same⟩ | ⟨e, -, same⟩⟩ := stop_mem_plan planned
          · cases same
          · cases same
        · exact absurd rfl (blocked.ne_badRuleName v)
  · intro first
    rw [loadRules_of_malformed first]

/-- Which texts are taken as names to disable: the names of rules, and these with a line feed behind
them, so only the names among the texts that do not end in a line feed. A text that is taken is kept
by the registry as it is, and loading is not refused because of it. Any other text is refused by the
registry, which stays as it was, and makes loading fail before anything is loaded. -/
theorem names_are_taken_exactly (s : String) :
    ((RuleName.ofValue? (.text s) = some s ↔ RuleName.IsTaken s) ∧
      (RuleName.ofValue? (.text s) = none ↔ ¬ RuleName.IsTaken s)) ∧
    (s.toList.getLast? ≠ some '\n' → (RuleName.IsTaken s ↔ RuleName.IsName s)) ∧
    (∀ (t : FileTree) (r : Registry),
      (RuleName.IsTaken s → r.operate t (.disable (.text s)) =
        ({ r with disabled := noted r.disabled s }, .ok none)) ∧
      (¬ RuleName.IsTaken s → r.operate t (.disable (.text s)) =
        (r, .error (.refused (.badRuleName (.text s)))))) ∧
    (∀ t c enabled paths disabled, .text s ∈ disabled →
      (RuleName.IsTaken s → (loadRules t c enabled paths disabled).outcome ≠
        .error (.refused (.badRuleName (.text s)))) ∧
      (¬ RuleName.IsTaken s → ∃ v ∈ disabled, RuleName.ofValue? v = none ∧
        loadRules t c enabled paths disabled = ⟨.error (.refused (.badRuleName v)), []⟩)) ∧
    ∀ v, (Refusal.badRuleName v).category = .configuration := by
  have taken := @RuleName.ofValue?_text_eq_some_iff s
  have refused := @RuleName.ofValue?_text_eq_none_iff s
  refine ⟨⟨taken, refused⟩, RuleName.isTaken_iff_of_getLast?, fun t r => ⟨?_, ?_⟩,
    fun t c enabled paths disabled mem => ⟨?_, ?_⟩, fun v => rfl⟩
  · intro isTaken
    have named := taken.2 isTaken
    by_cases known : s ∈ r.disabled <;>
      simp [operate, disable, named, noted, known, settle, Except.mapError]
  · intro other
    simp only [operate, disable, refused.2 other, Except.mapError, settle]
  · intro isTaken failed
    have first := (loadRules_refuses_name_iff t c enabled paths disabled _).1 failed
    have malformed := List.find?_some first
    rw [taken.2 isTaken] at malformed
    cases malformed
  · intro other
    have found : (disabled.find? fun v => (RuleName.ofValue? v).isNone).isSome = true := by
      rw [List.find?_isSome]
      exact ⟨_, mem, by rw [refused.2 other]; rfl⟩
    obtain ⟨v, first⟩ := Option.isSome_iff_exists.1 found
    have malformed := List.find?_some first
    exact ⟨v, List.mem_of_find?_eq_some first, Option.isNone_iff_eq_none.1 malformed,
      loadRules_of_malformed first⟩

/-- The name of a rule with a line feed behind it is no name, but it is taken and kept, and every
rule is loaded as if it were not there. -/
theorem name_with_line_feed_is_taken :
    let s := "rulecheck.rules.line_length\n"
    ¬ RuleName.IsName s ∧ RuleName.ofValue? (.text s) = some s ∧
      (({} : Registry).disable (.text s)).toOption.map (·.disabled) = some [s] ∧
      (loadRules {} {} true [] [.text s]).outcome.toOption.map (·.map (·.1)) =
        some (Builtin.all.map fun b => RuleName.qualify b.stem) := by
  refine ⟨fun isName => isName.newline_notMem (by decide +kernel), ?_, ?_, ?_⟩
  all_goals decide +kernel

end SourceAudit
