import SourceAudit.Proofs.Disabling
import SourceAudit.Proofs.Registration

/-!
# Leaving out one loaded rule

A rule is named after its file, and any file name will do. A rule is left out by its name, and only
names of a certain form are taken there: the stem has to be an identifier
(`RuleName.IsIdentifier`). So a loaded rule whose file is named by an identifier can be left out,
and then everything else is loaded as before (`loadRules_without`). A loaded rule with another name
stays: its name is refused.
-/

namespace SourceAudit

/-! ## Names that are taken -/

namespace RuleName

/-- The stem is an identifier of ASCII letters, digits and underscores. -/
def IsIdentifier (stem : String) : Prop :=
  ∃ c rest, stem.toList = c :: rest ∧ isStemHead c = true ∧ ∀ d ∈ rest, isStemTail d = true

theorem toList_qualify (stem : String) :
    (qualify stem).toList = (qualify "").toList ++ stem.toList := by
  simp [qualify]

theorem isWellFormed_qualify (stem : String) :
    isWellFormed (qualify stem) = isStem stem.toList := by
  have rest : after? (qualify "").toList (qualify stem).toList = some stem.toList := by
    rw [after?_eq_some_iff, toList_qualify]
  rw [isWellFormed, rest]
  rfl

theorem mem_of_mem_dropFinalNewline {cs : List Char} {c : Char} (mem : c ∈ dropFinalNewline cs) :
    c ∈ cs := by
  unfold dropFinalNewline at mem
  split at mem
  · exact List.dropLast_subset cs mem
  · exact mem

theorem dropFinalNewline_of_notMem {cs : List Char} (absent : '\n' ∉ cs) :
    dropFinalNewline cs = cs := by
  unfold dropFinalNewline
  rw [if_neg]
  intro last
  exact absent (List.mem_of_getLast? last)

theorem isWellFormed_of_isIdentifier {stem : String} (identifier : IsIdentifier stem) :
    isWellFormed (qualify stem) = true := by
  obtain ⟨c, rest, chars, head, tail⟩ := identifier
  rw [isWellFormed_qualify, chars, isStem, Bool.and_eq_true, List.all_eq_true]
  exact ⟨head, fun d mem => tail d (mem_of_mem_dropFinalNewline mem)⟩

theorem isIdentifier_of_isWellFormed {stem : String} (oneLine : '\n' ∉ stem.toList)
    (wellFormed : isWellFormed (qualify stem) = true) : IsIdentifier stem := by
  rw [isWellFormed_qualify] at wellFormed
  cases chars : stem.toList with
  | nil => simp [chars, isStem] at wellFormed
  | cons c rest =>
    rw [chars] at oneLine wellFormed
    have absent : '\n' ∉ rest := fun mem => oneLine (List.mem_cons_of_mem c mem)
    rw [isStem, Bool.and_eq_true, dropFinalNewline_of_notMem absent, List.all_eq_true] at wellFormed
    exact ⟨c, rest, chars, wellFormed.1, wellFormed.2⟩

theorem ofValue?_text {name : String} (wellFormed : isWellFormed name = true) :
    ofValue? (.text name) = some name := by
  rw [ofValue?, if_pos wellFormed]

end RuleName

/-! ## One rule less -/

namespace Registry

theorem IsIndex.notMem_others {before after : List (String × Rule)} {p : String × Rule}
    (index : IsIndex (before ++ p :: after)) : p.1 ∉ (before ++ after).map (·.1) := by
  have distinct := index.distinct
  rw [List.map_append, List.map_cons, List.nodup_middle, List.nodup_cons,
    ← List.map_append] at distinct
  exact distinct.1

theorem IsIndex.enabledRules_eq {before after : List (String × Rule)} {p : String × Rule}
    (index : IsIndex (before ++ p :: after)) {names : List String}
    (only : ∀ q ∈ before ++ p :: after, q.1 ∈ names ↔ q.1 = p.1) :
    enabledRules names (before ++ p :: after) = before ++ after := by
  have others : ∀ q ∈ before ++ after, (!names.contains q.1) = true := by
    intro q mem
    have inside : q ∈ before ++ p :: after := by
      rw [List.mem_append, List.mem_cons]
      exact (List.mem_append.1 mem).imp id Or.inr
    rw [Bool.not_eq_true', Bool.eq_false_iff, ne_eq, List.contains_iff_mem, only q inside]
    intro same
    exact index.notMem_others (same ▸ List.mem_map_of_mem mem)
  have gone : ¬ (!names.contains p.1) = true := by
    rw [Bool.not_eq_true', Bool.not_eq_false, List.contains_iff_mem, only p (by simp)]
  rw [enabledRules, List.filter_append, List.filter_cons, if_neg gone, ← List.filter_append,
    List.filter_eq_self]
  exact others

/-- A loaded rule belongs to a candidate, which gives it its name. -/
theorem exists_candidate {t : FileTree} {c : Catalogue} {enabled : Bool} {paths : List String}
    {disabled : List Value} {rules : List (String × Rule)}
    (ok : (loadRules t c enabled paths disabled).outcome = .ok rules) {p : String × Rule}
    (mem : p ∈ rules) :
    ∃ s ∈ candidates t c enabled paths (disabled.filterMap RuleName.ofValue?), p.1 = s.name := by
  rcases loadRules_cases t c enabled paths (isSome_ofValue?_of_loadRules ok) with
    ⟨l, loaded, progress⟩ | ⟨_, _, _, f, _, failed, _⟩
  · obtain rfl := Except.ok.inj (loaded.symm.trans ok)
    have named : p.1 ∈ l.names := List.mem_map_of_mem mem
    rw [progress.names, wanted_plan] at named
    obtain ⟨s, found, same⟩ := List.mem_map.1 named
    exact ⟨s, found, same.symm⟩
  · cases failed.symm.trans ok

/-- With the name of one loaded rule disabled in addition, and well formed, the same rules are
loaded without this one. -/
theorem loadRules_without {t : FileTree} {c : Catalogue} {enabled : Bool} {paths : List String}
    {disabled more : List Value} {before after : List (String × Rule)} {p : String × Rule}
    (ok : (loadRules t c enabled paths disabled).outcome = .ok (before ++ p :: after))
    (wellFormed : RuleName.isWellFormed p.1 = true)
    (added : ∀ v, v ∈ more ↔ v ∈ disabled ∨ v = .text p.1) :
    (loadRules t c enabled paths more).outcome = .ok (before ++ after) := by
  have good := isSome_ofValue?_of_loadRules ok
  have taken := RuleName.ofValue?_text wellFormed
  have good' : ∀ v ∈ more, (RuleName.ofValue? v).isSome = true := by
    intro v mem
    rcases (added v).1 mem with old | rfl
    · exact good v old
    · rw [taken]
      rfl
  rw [loadRules_filters t c enabled paths good good' (fun v mem => (added v).2 (.inl mem)) ok,
    (isIndex_of_loadRules ok).enabledRules_eq]
  intro q loaded
  obtain ⟨s, wanted, name⟩ := exists_candidate ok loaded
  have enabled : s.name ∉ disabled.filterMap RuleName.ofValue? := by
    simpa using (List.mem_filter.1 wanted).2
  constructor
  · intro mem
    obtain ⟨v, isMore, named⟩ := List.mem_filterMap.1 mem
    rcases (added v).1 isMore with old | rfl
    · exact absurd (List.mem_filterMap.2 ⟨v, old, name ▸ named⟩) enabled
    · exact Option.some.inj (named.symm.trans taken)
  · intro same
    rw [same]
    exact List.mem_filterMap.2 ⟨_, (added _).2 (.inr rfl), taken⟩

/-- A malformed name that is disabled in addition is refused. -/
theorem loadRules_of_refused {t : FileTree} {c : Catalogue} {enabled : Bool} {paths : List String}
    {disabled more : List Value} {rules : List (String × Rule)} {name : String}
    (ok : (loadRules t c enabled paths disabled).outcome = .ok rules)
    (malformed : RuleName.ofValue? (.text name) = none)
    (added : ∀ v, v ∈ more ↔ v ∈ disabled ∨ v = .text name) :
    loadRules t c enabled paths more = ⟨.error (.refused (.badRuleName (.text name))), []⟩ := by
  apply loadRules_of_malformed
  have found : (more.find? fun v => (RuleName.ofValue? v).isNone).isSome = true := by
    rw [List.find?_isSome]
    exact ⟨.text name, (added _).2 (.inr rfl), by rw [malformed]; rfl⟩
  obtain ⟨v, first⟩ := Option.isSome_iff_exists.1 found
  have bad := List.find?_some first
  rcases (added v).1 (List.mem_of_find?_eq_some first) with old | rfl
  · have good := isSome_ofValue?_of_loadRules ok v old
    simp_all
  · exact first

end Registry

open Registry

/-- A loaded rule bears the name of its file. If the stem of the file is an identifier, the name is
one that is taken; a name of one line is taken in no other case. With a name that is taken added to
the disabled ones, loading succeeds and gives the same rules without this one. A name that is not
taken is refused. -/
theorem loaded_rule_can_be_excluded (t : FileTree) (c : Catalogue) (enabled : Bool)
    (paths : List String) (disabled : List Value) {rules : List (String × Rule)}
    (ok : (loadRules t c enabled paths disabled).outcome = .ok rules) :
    ∀ name rule, (name, rule) ∈ rules →
      rule.name? = some (.text name) ∧
      (∃ s ∈ candidates t c enabled paths (disabled.filterMap RuleName.ofValue?),
        name = RuleName.qualify s.file.stem ∧
        (RuleName.IsIdentifier s.file.stem → RuleName.ofValue? (.text name) = some name) ∧
        ('\n' ∉ s.file.stem.toList → RuleName.ofValue? (.text name) = some name →
          RuleName.IsIdentifier s.file.stem)) ∧
      ∀ more, (∀ v, v ∈ more ↔ v ∈ disabled ∨ v = .text name) →
        (RuleName.ofValue? (.text name) = some name →
          ∃ before after, rules = before ++ (name, rule) :: after ∧
            name ∉ (before ++ after).map (·.1) ∧
            (loadRules t c enabled paths more).outcome = .ok (before ++ after)) ∧
        (RuleName.ofValue? (.text name) = none →
          (loadRules t c enabled paths more).outcome =
              .error (.refused (.badRuleName (.text name))) ∧
            (Refusal.badRuleName (.text name)).category = .configuration) := by
  intro name rule loaded
  have index := isIndex_of_loadRules ok
  have taken : RuleName.ofValue? (.text name) = some name → RuleName.isWellFormed name = true := by
    intro named
    by_contra malformed
    rw [RuleName.ofValue?, if_neg malformed] at named
    cases named
  refine ⟨index.named _ loaded, ?_, fun more added => ⟨fun named => ?_, fun malformed => ?_⟩⟩
  · obtain ⟨s, wanted, same⟩ := exists_candidate ok loaded
    obtain rfl : name = RuleName.qualify s.file.stem := same
    refine ⟨s, wanted, rfl, fun identifier => ?_, fun oneLine named => ?_⟩
    · exact RuleName.ofValue?_text (RuleName.isWellFormed_of_isIdentifier identifier)
    · exact RuleName.isIdentifier_of_isWellFormed oneLine (taken named)
  · obtain ⟨before, after, rfl⟩ := List.append_of_mem loaded
    exact ⟨before, after, rfl, index.notMem_others, loadRules_without ok (taken named) added⟩
  · rw [loadRules_of_refused ok malformed added]
    exact ⟨rfl, rfl⟩

/-- A file that makes a rule of the given stem. -/
def ruleSource (stem : String) : Content :=
  .module (.factory (.script { style := .token, name := some (.text (RuleName.qualify stem)) }))

/-- Two rule files, of which one has no identifier for a name. -/
def hyphenFiles : FileTree where
  directories := [["custom"]]
  files := [(["custom", "loud.py"], ruleSource "loud"),
    (["custom", "my-rule.py"], ruleSource "my-rule")]

/-- Loads the rules of `hyphenFiles`. -/
def loadHyphenFiles (disabled : List Value) : LoadResult :=
  loadRules hyphenFiles {} false ["custom/loud.py", "custom/my-rule.py"] disabled

theorem exists_loadHyphenFiles :
    ∃ loud other, (loadHyphenFiles []).outcome =
      .ok [("rulecheck.rules.loud", loud), ("rulecheck.rules.my-rule", other)] :=
  ⟨_, _, rfl⟩

theorem loaded_rule_can_be_excluded_of_loud :
    ∃ loud other, (loadHyphenFiles []).outcome =
        .ok [("rulecheck.rules.loud", loud), ("rulecheck.rules.my-rule", other)] ∧
      (loadHyphenFiles [.text "rulecheck.rules.loud"]).outcome =
        .ok [("rulecheck.rules.my-rule", other)] := by
  obtain ⟨loud, other, ok⟩ := exists_loadHyphenFiles
  obtain ⟨-, -, excluded⟩ := loaded_rule_can_be_excluded _ _ _ _ _ ok _ loud List.mem_cons_self
  obtain ⟨exact, -⟩ := excluded [.text "rulecheck.rules.loud"] (by simp)
  obtain ⟨before, after, split, absent, without⟩ := exact (by decide +kernel)
  refine ⟨loud, other, ok, ?_⟩
  cases before with
  | nil =>
    cases split
    exact without
  | cons first before =>
    obtain ⟨rfl, -⟩ := List.cons.inj split
    exact absurd (by simp) absent

/-- A rule whose file is named with a hyphen is loaded, and cannot be left out. -/
theorem hyphenated_rule_stays :
    ∃ rules other, (loadHyphenFiles []).outcome = .ok rules ∧
      ("rulecheck.rules.my-rule", other) ∈ rules ∧
      RuleName.ofValue? (.text "rulecheck.rules.my-rule") = none ∧
      ∀ fewer, (loadHyphenFiles [.text "rulecheck.rules.my-rule"]).outcome ≠ .ok fewer := by
  obtain ⟨loud, other, ok⟩ := exists_loadHyphenFiles
  refine ⟨_, other, ok, by simp, by decide +kernel, ?_⟩
  intro fewer loaded
  have refused : (loadHyphenFiles [.text "rulecheck.rules.my-rule"]).outcome =
      .error (.refused (.badRuleName (.text "rulecheck.rules.my-rule"))) := rfl
  cases refused.symm.trans loaded

end SourceAudit
