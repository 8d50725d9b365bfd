import Mathlib.Logic.ExistsUnique
import Mathlib.Tactic.ByContra
import SourceAudit.Settings

/-!
# Drafts from mappings

A mapping of settings is taken when all its keys are names of settings and the settings it leads to
can be used. `Draft.FilledFrom` says which settings those are, and `Draft.IsUsable` what makes them
usable. Each part of the validation decides one condition (`Decides`), and so does the whole
(`Draft.decides_validate`). What is not taken is refused as a matter of configuration, with one
exception: a key that is no text cannot be told in a refusal, and ends the reading in another way.
-/

namespace SourceAudit

/-! ## Checks that decide -/

/-- The check succeeds when the condition holds, and refuses as a matter of configuration when it
does not. -/
def Decides {α : Type} (check : Except Refusal α) (condition : Prop) : Prop :=
  (condition ∧ ∃ a, check = .ok a) ∨
    (¬ condition ∧ ∃ r, check = .error r ∧ r.category = .configuration)

namespace Decides

variable {α β : Type} {P Q : Prop}

theorem ok (a : α) : Decides (.ok a) True :=
  .inl ⟨trivial, a, rfl⟩

theorem congr {check : Except Refusal α} (d : Decides check P) (same : P ↔ Q) :
    Decides check Q := by
  rwa [propext same] at d

/-- Two checks, one after the other. -/
theorem bind {check : Except Refusal α} {next : α → Except Refusal β} (first : Decides check P)
    (second : ∀ a, Decides (next a) Q) : Decides (check >>= next) (P ∧ Q) := by
  rcases first with ⟨holds, a, rfl⟩ | ⟨fails, r, rfl, sort⟩
  · exact (second a).congr (and_iff_right holds).symm
  · exact .inr ⟨fun both => fails both.1, r, rfl, sort⟩

end Decides

/-! ## Values -/

namespace Value

theorem wording?_eq_some_iff {v : Value} {w : Text.Wording} :
    v.wording? = some w ↔ v = .ofWording w := by
  constructor
  · intro named
    cases v with
    | text s =>
      obtain rfl := Option.some.inj named
      rfl
    | broken gs =>
      obtain rfl := Option.some.inj named
      rfl
    | _ => cases named
  · rintro rfl
    cases w <;> rfl

/-- The value is a text, possibly a broken one. -/
def IsText (v : Value) : Prop :=
  ∃ w, v = .ofWording w

/-- The value is a list of texts. -/
def IsTexts (v : Value) : Prop :=
  ∃ items, v = .list items ∧ ∀ item ∈ items, item.IsText

theorem isText_iff {v : Value} : v.IsText ↔ v.wording?.isSome = true := by
  rw [Option.isSome_iff_exists]
  exact exists_congr fun w => wording?_eq_some_iff.symm

theorem isSome_mapM_wording? {items : List Value} :
    (items.mapM wording?).isSome = true ↔ ∀ item ∈ items, item.IsText := by
  induction items with
  | nil => simp
  | cons v items ih =>
    rw [List.forall_mem_cons, ← ih, isText_iff, List.mapM_cons]
    cases v.wording? with
    | none => simp
    | some w => cases items.mapM wording? <;> simp

theorem isTexts_iff {v : Value} : v.IsTexts ↔ v.wordings?.isSome = true := by
  cases v with
  | list items => simp [IsTexts, wordings?, isSome_mapM_wording?]
  | _ => simp [IsTexts, wordings?]

end Value

namespace Draft

/-! ## Settings one by one -/

/-- The settings. -/
inductive Field where
  | validator
  | builtinRules
  | rulePaths
  | disabledRules
  | extensions
  | lintTimeout

/-- The name of a setting. -/
def Field.key : Field → String
  | .validator => "validator"
  | .builtinRules => "builtin_rules"
  | .rulePaths => "rule_paths"
  | .disabledRules => "disabled_rules"
  | .extensions => "extensions"
  | .lintTimeout => "lint_timeout"

/-- The value of a setting. -/
def get (d : Draft) : Field → Value
  | .validator => d.validator
  | .builtinRules => d.builtinRules
  | .rulePaths => d.rulePaths
  | .disabledRules => d.disabledRules
  | .extensions => d.extensions
  | .lintTimeout => d.lintTimeout

theorem Field.key_inj {f g : Field} (same : f.key = g.key) : f = g := by
  revert same
  cases f <;> cases g <;> simp [key]

theorem mem_keys_iff {key : String} : key ∈ keys ↔ ∃ field : Field, key = field.key := by
  constructor
  · intro mem
    simp only [keys, List.mem_cons, List.not_mem_nil, or_false] at mem
    rcases mem with rfl | rfl | rfl | rfl | rfl | rfl
    · exact ⟨.validator, rfl⟩
    · exact ⟨.builtinRules, rfl⟩
    · exact ⟨.rulePaths, rfl⟩
    · exact ⟨.disabledRules, rfl⟩
    · exact ⟨.extensions, rfl⟩
    · exact ⟨.lintTimeout, rfl⟩
  · rintro ⟨field, rfl⟩
    cases field <;> decide

theorem ext_get {d d' : Draft} (same : ∀ field, d.get field = d'.get field) : d = d' := by
  cases d
  cases d'
  simp only [Draft.mk.injEq]
  exact ⟨same .validator, same .builtinRules, same .rulePaths, same .disabledRules,
    same .extensions, same .lintTimeout⟩

/-- Setting a setting changes this one and no other. -/
theorem exists_set (d : Draft) (field : Field) (v : Value) :
    ∃ d', d.set field.key v = some d' ∧ d'.get field = v ∧
      ∀ other, other ≠ field → d'.get other = d.get other := by
  cases field <;> refine ⟨_, rfl, rfl, ?_⟩ <;> intro other differs <;>
    cases other <;> simp_all [get]

/-- The key is the name of a setting. -/
def IsKnown (key : Value) : Prop :=
  ∃ field : Field, key = .text field.key

/-- The draft has the settings that the entries give, and standard settings otherwise. Of two
entries with one key the later counts. -/
structure FilledFrom (standard : Draft) (entries : List (Value × Value)) (d : Draft) : Prop where
  supplied : ∀ field v front rest, entries = front ++ (.text field.key, v) :: rest →
    (∀ w, (.text field.key, w) ∉ rest) → d.get field = v
  missing : ∀ field, (∀ v, (.text field.key, v) ∉ entries) → d.get field = standard.get field

theorem FilledFrom.cons {standard d d' : Draft} {field : Field} {v : Value}
    {entries : List (Value × Value)} (filled : FilledFrom d entries d') (here : d.get field = v)
    (others : ∀ other, other ≠ field → d.get other = standard.get other) :
    FilledFrom standard ((.text field.key, v) :: entries) d' := by
  constructor
  · intro other w front rest split last
    cases front with
    | nil =>
      obtain ⟨same, rfl⟩ := List.cons.inj split
      obtain ⟨key, rfl⟩ := Prod.mk.inj same
      obtain rfl := Field.key_inj (Value.text.inj key)
      rw [filled.missing field last, here]
    | cons first front => exact filled.supplied other w front rest (List.cons.inj split).2 last
  · intro other absent
    have differs : other ≠ field := by
      rintro rfl
      exact absent v List.mem_cons_self
    rw [← others other differs]
    exact filled.missing other fun w mem => absent w (List.mem_cons_of_mem _ mem)

/-- Entries whose keys are all known fill a draft. -/
theorem exists_setAll {entries : List (Value × Value)} (known : ∀ e ∈ entries, IsKnown e.1)
    (standard : Draft) : ∃ d, standard.setAll entries = .ok d ∧ FilledFrom standard entries d := by
  induction entries generalizing standard with
  | nil => exact ⟨standard, rfl, by simp, by simp⟩
  | cons e entries ih =>
    obtain ⟨key, v⟩ := e
    obtain ⟨⟨field, rfl⟩, rest⟩ := List.forall_mem_cons.1 known
    obtain ⟨d, set, here, others⟩ := standard.exists_set field v
    obtain ⟨d', all, filled⟩ := ih rest d
    refine ⟨d', ?_, filled.cons here others⟩
    simp only [setAll, set]
    exact all

theorem exists_last {key : Value} {entries : List (Value × Value)}
    (given : ∃ v, (key, v) ∈ entries) :
    ∃ v front rest, entries = front ++ (key, v) :: rest ∧ ∀ w, (key, w) ∉ rest := by
  induction entries with
  | nil => simp at given
  | cons e entries ih =>
    by_cases later : ∃ v, (key, v) ∈ entries
    · obtain ⟨v, front, rest, rfl, last⟩ := ih later
      exact ⟨v, e :: front, rest, rfl, last⟩
    · obtain ⟨v, mem⟩ := given
      rcases List.mem_cons.1 mem with rfl | mem
      · exact ⟨v, [], entries, rfl, fun w mem => later ⟨w, mem⟩⟩
      · exact absurd ⟨v, mem⟩ later

/-- The entries tell every setting. -/
theorem FilledFrom.unique {standard d d' : Draft} {entries : List (Value × Value)}
    (first : FilledFrom standard entries d) (second : FilledFrom standard entries d') : d = d' := by
  apply ext_get
  intro field
  by_cases given : ∃ v, (.text field.key, v) ∈ entries
  · obtain ⟨v, front, rest, split, last⟩ := exists_last given
    rw [first.supplied field v front rest split last, second.supplied field v front rest split last]
  · have absent : ∀ v, (.text field.key, v) ∉ entries := fun v mem => given ⟨v, mem⟩
    rw [first.missing field absent, second.missing field absent]

/-! ## Validation -/

/-- The settings can be used. -/
structure IsUsable (d : Draft) : Prop where
  validator : ∃ w : Text.Wording, d.validator = .ofWording w ∧ w.isBlank = false
  builtinRules : ∃ b, d.builtinRules = .bool b
  rulePaths : d.rulePaths.IsTexts
  disabledRules : d.disabledRules.IsTexts
  extensions : d.extensions.IsTexts
  lintTimeout : d.lintTimeout = .null ∨ (∃ n, d.lintTimeout = .int n) ∨
    ∃ x, d.lintTimeout = .double x

theorem decides_usableValidator (d : Draft) : Decides d.usableValidator
    (∃ w : Text.Wording, d.validator = .ofWording w ∧ w.isBlank = false) := by
  unfold usableValidator
  cases named : d.validator.wording? with
  | none =>
    refine .inr ⟨?_, _, rfl, rfl⟩
    rintro ⟨w, text, -⟩
    rw [Value.wording?_eq_some_iff.2 text] at named
    cases named
  | some w =>
    have text := Value.wording?_eq_some_iff.1 named
    cases blank : w.isBlank with
    | false => exact .inl ⟨⟨w, text, blank⟩, w, by simp [blank]⟩
    | true =>
      refine .inr ⟨?_, .validatorNotText, by simp [blank], rfl⟩
      rintro ⟨w', text', clear⟩
      obtain rfl := Option.some.inj (named.symm.trans (Value.wording?_eq_some_iff.2 text'))
      rw [blank] at clear
      cases clear

theorem decides_usableSwitch (d : Draft) :
    Decides d.usableSwitch (∃ b, d.builtinRules = .bool b) := by
  unfold usableSwitch
  cases d.builtinRules with
  | bool b => exact .inl ⟨⟨b, rfl⟩, b, rfl⟩
  | _ => exact .inr ⟨by simp, _, rfl, rfl⟩

theorem decides_usableTexts (key : String) (v : Value) : Decides (usableTexts key v) v.IsTexts := by
  rw [usableTexts, Value.isTexts_iff]
  cases v.wordings? with
  | none => exact .inr ⟨by simp, _, rfl, rfl⟩
  | some ts => exact .inl ⟨rfl, ts, rfl⟩

theorem decides_usableTimeout (d : Draft) : Decides d.usableTimeout
    (d.lintTimeout = .null ∨ (∃ n, d.lintTimeout = .int n) ∨ ∃ x, d.lintTimeout = .double x) := by
  unfold usableTimeout
  cases d.lintTimeout with
  | null => exact .inl ⟨.inl rfl, _, rfl⟩
  | int n => exact .inl ⟨.inr (.inl ⟨n, rfl⟩), _, rfl⟩
  | double x => exact .inl ⟨.inr (.inr ⟨x, rfl⟩), _, rfl⟩
  | _ => exact .inr ⟨by simp, _, rfl, rfl⟩

theorem isUsable_iff {d : Draft} : d.IsUsable ↔
    (∃ w : Text.Wording, d.validator = .ofWording w ∧ w.isBlank = false) ∧
      (∃ b, d.builtinRules = .bool b) ∧ d.rulePaths.IsTexts ∧ d.disabledRules.IsTexts ∧
      d.extensions.IsTexts ∧ (d.lintTimeout = .null ∨ (∃ n, d.lintTimeout = .int n) ∨
        ∃ x, d.lintTimeout = .double x) ∧ True :=
  ⟨fun u => ⟨u.1, u.2, u.3, u.4, u.5, u.6, trivial⟩,
    fun ⟨v, b, r, d, e, l, _⟩ => ⟨v, b, r, d, e, l⟩⟩

theorem decides_validate (d : Draft) : Decides d.validate d.IsUsable := by
  rw [isUsable_iff, validate]
  apply (decides_usableValidator d).bind
  intro validator
  apply (decides_usableSwitch d).bind
  intro builtinRules
  apply (decides_usableTexts "rule_paths" d.rulePaths).bind
  intro rulePaths
  apply (decides_usableTexts "disabled_rules" d.disabledRules).bind
  intro disabledRules
  apply (decides_usableTexts "extensions" d.extensions).bind
  intro extensions
  apply (decides_usableTimeout d).bind
  intro lintTimeout
  exact Decides.ok _

/-! ## Keys -/

theorem isKnown_iff {key : Value} : IsKnown key ↔ key.text?.any keys.contains = true := by
  cases key with
  | text s => simp [IsKnown, Value.text?, mem_keys_iff]
  | _ => simp [IsKnown, Value.text?]

theorem IsKnown.isText {key : Value} (known : IsKnown key) : key.IsText := by
  obtain ⟨field, rfl⟩ := known
  exact ⟨.text field.key, rfl⟩

/-- The keys that are no names of settings. -/
def unknownKeys (given : List Value) : List Value :=
  given.filter fun key => !(key.text?.any keys.contains)

theorem mem_unknownKeys {given : List Value} {key : Value} :
    key ∈ unknownKeys given ↔ key ∈ given ∧ ¬ IsKnown key := by
  rw [unknownKeys, List.mem_filter, Bool.not_eq_true', isKnown_iff, Bool.not_eq_true]

theorem checkKeys_eq (given : List Value) :
    checkKeys given =
      if (unknownKeys given).isEmpty then .ok ()
      else
        match (unknownKeys given).mapM Value.wording? with
        | some ws => .error (.refused (.unknownSettings ((sorted ws).map Text.Wording.display)))
        | none => .error .wrongType :=
  rfl

/-- All keys are known, or all are texts and the unknown ones are refused, or one is no text and
ends the reading. -/
theorem checkKeys_cases (given : List Value) :
    (checkKeys given = .ok () ∧ ∀ key ∈ given, IsKnown key) ∨
      (∃ r, checkKeys given = .error (.refused r) ∧ r.category = .configuration ∧
        (∃ key ∈ given, ¬ IsKnown key) ∧ ∀ key ∈ given, key.IsText) ∨
      (checkKeys given = .error .wrongType ∧ ∃ key ∈ given, ¬ key.IsText) := by
  rw [checkKeys_eq]
  cases strange : unknownKeys given with
  | nil =>
    refine .inl ⟨rfl, fun key isGiven => ?_⟩
    by_contra unknown
    have found := mem_unknownKeys.2 ⟨isGiven, unknown⟩
    rw [strange] at found
    cases found
  | cons first rest =>
    have found : first ∈ unknownKeys given := by rw [strange]; exact List.mem_cons_self
    rw [← strange, if_neg (by rw [strange]; simp)]
    right
    cases texts : (unknownKeys given).mapM Value.wording? with
    | some ws =>
      have all := Value.isSome_mapM_wording?.1 (by rw [texts]; rfl)
      refine .inl ⟨_, rfl, rfl, ⟨first, mem_unknownKeys.1 found⟩, fun key isGiven => ?_⟩
      by_cases known : IsKnown key
      · exact known.isText
      · exact all key (mem_unknownKeys.2 ⟨isGiven, known⟩)
    | none =>
      refine .inr ⟨rfl, ?_⟩
      by_contra all
      have told : ((unknownKeys given).mapM Value.wording?).isSome = true := by
        rw [Value.isSome_mapM_wording?]
        intro key unknown
        by_contra other
        exact all ⟨key, (mem_unknownKeys.1 unknown).1, other⟩
      rw [texts] at told
      cases told

/-! ## Reading a mapping -/

theorem ofValue_of_error {standard : Draft} {entries : List (Value × Value)} {f : Fault}
    (failed : checkKeys (entries.map (·.1)) = .error f) :
    ofValue standard (.mapping entries) = .error f := by
  simp only [ofValue, Value.elements?, failed]
  rfl

theorem ofValue_of_ok {standard d : Draft} {entries : List (Value × Value)}
    (checked : checkKeys (entries.map (·.1)) = .ok ()) (set : standard.setAll entries = .ok d) :
    ofValue standard (.mapping entries) = (orFault d.validate).map fun _ => d := by
  simp only [ofValue, Value.elements?, checked, set]
  show (orFault d.validate >>= fun _ => pure d) = _
  cases d.validate <;> rfl

/-- The keys of the entries are names of settings, and `d` is the draft that they fill and can be
used. -/
structure Admits (standard : Draft) (entries : List (Value × Value)) (d : Draft) : Prop where
  known : ∀ e ∈ entries, IsKnown e.1
  filled : FilledFrom standard entries d
  usable : d.IsUsable

/-- A mapping is read as the draft that it admits. If there is none it is refused, or one of its
keys is no text. -/
theorem ofValue_cases (standard : Draft) (entries : List (Value × Value)) :
    (∃ d, ofValue standard (.mapping entries) = .ok d ∧ Admits standard entries d) ∨
      (∃ r, ofValue standard (.mapping entries) = .error (.refused r) ∧
        r.category = .configuration ∧ (∀ e ∈ entries, e.1.IsText) ∧
        ∀ d, ¬ Admits standard entries d) ∨
      (ofValue standard (.mapping entries) = .error .wrongType ∧ ∃ e ∈ entries, ¬ e.1.IsText) := by
  have keys : ∀ {P : Value → Prop}, (∀ key ∈ entries.map (·.1), P key) → ∀ e ∈ entries, P e.1 :=
    fun all e mem => all _ (List.mem_map_of_mem mem)
  rcases checkKeys_cases (entries.map (·.1)) with
    ⟨checked, known⟩ | ⟨r, failed, sort, ⟨key, given, unknown⟩, texts⟩ | ⟨failed, key, given, other⟩
  · obtain ⟨d, set, filled⟩ := exists_setAll (keys known) standard
    rw [ofValue_of_ok checked set]
    rcases decides_validate d with ⟨usable, s, valid⟩ | ⟨useless, r, failed, sort⟩
    · rw [valid]
      exact .inl ⟨d, rfl, keys known, filled, usable⟩
    · rw [failed]
      refine .inr (.inl ⟨r, rfl, sort, fun e mem => (keys known e mem).isText, ?_⟩)
      intro d' admits
      exact useless (admits.filled.unique filled ▸ admits.usable)
  · obtain ⟨e, mem, rfl⟩ := List.mem_map.1 given
    refine .inr (.inl ⟨r, ofValue_of_error failed, sort, keys texts, ?_⟩)
    intro d admits
    exact unknown (admits.known e mem)
  · obtain ⟨e, mem, rfl⟩ := List.mem_map.1 given
    exact .inr (.inr ⟨ofValue_of_error failed, e, mem, other⟩)

/-- A mapping is read as a draft exactly when all its keys are names of settings and the draft that
it fills can be used, and then as this draft. Everything else is refused as a matter of
configuration, provided that all keys are texts. A key that is no text ends the reading in another
way, whatever else the mapping holds. -/
theorem mapping_is_read_exactly (interpreter : String) (entries : List (Value × Value)) :
    let standard := Draft.standard interpreter
    let result := ofValue standard (.mapping entries)
    ((∀ e ∈ entries, IsKnown e.1) → ∃! d, FilledFrom standard entries d) ∧
    (∀ d, result = .ok d ↔
      (∀ e ∈ entries, IsKnown e.1) ∧ FilledFrom standard entries d ∧ d.IsUsable) ∧
    ((∀ e ∈ entries, e.1.IsText) → ∀ fault, result = .error fault →
      ∃ r, fault = .refused r ∧ r.category = .configuration) ∧
    ((∃ e ∈ entries, ¬ e.1.IsText) → result = .error .wrongType) := by
  intro standard result
  have cases : _ ∨ _ ∨ _ := ofValue_cases standard entries
  refine ⟨fun known => ?_, fun d => ⟨fun read => ?_, ?_⟩, fun texts fault failed => ?_, ?_⟩
  · obtain ⟨d, -, filled⟩ := exists_setAll known standard
    exact ⟨d, filled, fun d' filled' => filled'.unique filled⟩
  · rcases cases with ⟨d', read', admits⟩ | ⟨r, refused, -⟩ | ⟨ended, -⟩
    · obtain rfl := Except.ok.inj (read.symm.trans read')
      exact ⟨admits.known, admits.filled, admits.usable⟩
    · cases read.symm.trans refused
    · cases read.symm.trans ended
  · rintro ⟨known, filled, usable⟩
    rcases cases with ⟨d', read, admits⟩ | ⟨r, -, -, -, nothing⟩ | ⟨-, e, mem, other⟩
    · rw [filled.unique admits.filled]
      exact read
    · exact absurd ⟨known, filled, usable⟩ (nothing d)
    · exact absurd (known e mem).isText other
  · rcases cases with ⟨d, read, -⟩ | ⟨r, refused, sort, -⟩ | ⟨-, e, mem, other⟩
    · cases failed.symm.trans read
    · exact ⟨r, Except.error.inj (failed.symm.trans refused), sort⟩
    · exact absurd (texts e mem) other
  · rintro ⟨e, mem, other⟩
    rcases cases with ⟨d, -, admits⟩ | ⟨r, -, -, texts, -⟩ | ⟨ended, -⟩
    · exact absurd (admits.known e mem).isText other
    · exact absurd (texts e mem) other
    · exact ended

/-- A number as a key is no matter of configuration. -/
theorem numbered_setting_is_not_refused :
    ∃ fault, ofValue (Draft.standard "python") (.mapping [(.int 1, .int 2)]) = .error fault ∧
      ∀ r, fault ≠ .refused r :=
  ⟨.wrongType, rfl, by rintro r ⟨⟩⟩

end Draft

end SourceAudit
