import SourceAudit.Application
import SourceAudit.Proofs.Drafting
import SourceAudit.Proofs.Registration

/-!
# Settings in layers

Options of the command line are laid over settings, and the result makes an application. Over
settings that can be used, options of the right types always make a draft, and the draft is that of
the settings laid over (`Settings.merge_draft`); options that follow others are laid over as one
(`Settings.overlay_overlay`). Of the draft, the paths and then the names are taken one after the
other, up to the first that is refused (`Takes`), so the application exists exactly when the draft
can be used and nothing is refused, and what ends the attempt is the first thing that is
(`Application.layers_make_one_application`).
-/

namespace SourceAudit

open Text (Wording)

/-! ## Values of the right types -/

namespace Value

/-- The list of texts, or the absent value. -/
def ofTexts? : Option (List Wording) → Value
  | none => .null
  | some ws => .list (ws.map ofWording)

/-- The number, or the absent value. -/
def ofQuantity? : Option Quantity → Value
  | none => .null
  | some (.int n) => .int n
  | some (.double x) => .double x

@[simp] theorem wording?_ofWording (w : Wording) : (ofWording w).wording? = some w :=
  wording?_eq_some_iff.2 rfl

@[simp] theorem truthy_ofWording (w : Wording) : (ofWording w).truthy = !w.glyphs.isEmpty := by
  cases w with
  | text s =>
    have same : s.isEmpty = s.toList.isEmpty := by
      rw [Bool.eq_iff_iff, String.isEmpty_iff, List.isEmpty_iff, String.toList_eq_nil_iff]
    rw [ofWording, truthy, Wording.glyphs, List.isEmpty_map, same]
  | broken gs => rfl

theorem mapM_wording?_eq_some_iff {items : List Value} {ws : List Wording} :
    items.mapM wording? = some ws ↔ items = ws.map ofWording := by
  induction items generalizing ws with
  | nil => cases ws <;> simp
  | cons v items ih =>
    rw [List.mapM_cons]
    cases ws with
    | nil => cases v.wording? <;> cases items.mapM wording? <;> simp
    | cons w ws =>
      rw [List.map_cons, List.cons.injEq, ← wording?_eq_some_iff, ← ih]
      cases v.wording? <;> cases items.mapM wording? <;> simp

theorem wordings?_eq_some_iff {v : Value} {ws : List Wording} :
    v.wordings? = some ws ↔ v = .list (ws.map ofWording) := by
  cases v with
  | list items => simp [wordings?, mapM_wording?_eq_some_iff]
  | _ => simp [wordings?]

end Value

/-! ## Drafts that can be used -/

namespace Settings

/-- The draft of settings. -/
def draft (s : Settings) : Draft where
  validator := .ofWording s.validator
  builtinRules := .bool s.builtinRules
  rulePaths := .list (s.rulePaths.map .ofWording)
  disabledRules := .list (s.disabledRules.map .ofWording)
  extensions := .list (s.extensions.map .ofWording)
  lintTimeout := .ofQuantity? s.lintTimeout

end Settings

namespace Draft

variable {d : Draft}

theorem usableTexts_list (key : String) (ws : List Wording) :
    usableTexts key (.list (ws.map .ofWording)) = .ok ws := by
  rw [usableTexts, Value.wordings?_eq_some_iff.2 rfl]

theorem usableTimeout_ofQuantity? {q? : Option Quantity} (given : d.lintTimeout = .ofQuantity? q?) :
    d.usableTimeout = .ok q? := by
  rw [usableTimeout, given]
  rcases q? with _ | _ | _ <;> rfl

/-- The draft of settings can be used exactly when the validator is not blank, and gives them
back. -/
theorem validate_draft (s : Settings) :
    s.draft.validate =
      if s.validator.isBlank then .error .validatorNotText else .ok s := by
  have validator : s.draft.usableValidator =
      if s.validator.isBlank then .error .validatorNotText else .ok s.validator := by
    rw [usableValidator, Settings.draft, Value.wording?_ofWording]
  have timeout : s.draft.usableTimeout = .ok s.lintTimeout := usableTimeout_ofQuantity? rfl
  rw [validate, validator, timeout]
  simp only [Settings.draft, usableTexts_list]
  cases s.validator.isBlank <;> rfl

theorem exists_draft (usable : d.IsUsable) : ∃ s : Settings, d = s.draft := by
  have texts : ∀ v : Value, v.IsTexts → ∃ ws : List Wording, v = .list (ws.map .ofWording) := by
    intro v listed
    obtain ⟨ws, named⟩ := Option.isSome_iff_exists.1 (Value.isTexts_iff.1 listed)
    exact ⟨ws, Value.wordings?_eq_some_iff.1 named⟩
  have limit : ∃ q?, d.lintTimeout = .ofQuantity? q? := by
    rcases usable.lintTimeout with none | ⟨n, whole⟩ | ⟨x, real⟩
    · exact ⟨Option.none, none⟩
    · exact ⟨some (.int n), whole⟩
    · exact ⟨some (.double x), real⟩
  obtain ⟨w, validator, -⟩ := usable.validator
  obtain ⟨b, builtinRules⟩ := usable.builtinRules
  obtain ⟨ps, rulePaths⟩ := texts _ usable.rulePaths
  obtain ⟨ns, disabledRules⟩ := texts _ usable.disabledRules
  obtain ⟨es, extensions⟩ := texts _ usable.extensions
  obtain ⟨q?, lintTimeout⟩ := limit
  refine ⟨⟨w, b, ps, ns, es, q?⟩, ?_⟩
  cases d
  simp only [Settings.draft, Draft.mk.injEq]
  exact ⟨validator, builtinRules, rulePaths, disabledRules, extensions, lintTimeout⟩

/-- A draft that can be used is that of its settings. -/
theorem eq_draft_of_validate {s : Settings} (valid : d.validate = .ok s) : d = s.draft := by
  rcases d.decides_validate with ⟨usable, -⟩ | ⟨-, r, refused, -⟩
  · obtain ⟨s', rfl⟩ := exists_draft usable
    rw [validate_draft] at valid
    split at valid
    · cases valid
    · rw [Except.ok.inj valid]
  · cases refused.symm.trans valid

end Draft

/-! ## Options -/

/-- What the command line gives: texts, lists of texts and a switch, each of which may be absent. -/
structure Options where
  validator : Option Wording := none
  builtinRules : Option Bool := none
  rulePaths : Option (List Wording) := none
  disabledRules : Option (List Wording) := none
  extensions : Option (List Wording) := none

namespace Options

/-- The validator that counts; an empty one does not. -/
def validator? (o : Options) : Option Wording :=
  o.validator.filter fun w => !w.glyphs.isEmpty

/-- The suffixes that count; an empty list does not. -/
def extensions? (o : Options) : Option (List Wording) :=
  o.extensions.filter fun ws => !ws.isEmpty

/-- The options as overrides. -/
def overrides (o : Options) : Overrides where
  validator := (o.validator.map Value.ofWording).getD .null
  builtinRules := (o.builtinRules.map Value.bool).getD .null
  rulePaths := .ofTexts? o.rulePaths
  disabledRules := .ofTexts? o.disabledRules
  extensions := .ofTexts? o.extensions

/-- Options, and others behind them: the lists for rules together, and otherwise the later where
they count. -/
def followedBy (a b : Options) : Options where
  validator := b.validator?.or a.validator
  builtinRules := b.builtinRules.or a.builtinRules
  rulePaths := some (a.rulePaths.getD [] ++ b.rulePaths.getD [])
  disabledRules := some (a.disabledRules.getD [] ++ b.disabledRules.getD [])
  extensions := b.extensions?.or a.extensions

theorem filter_filter_or {α : Type} (p : α → Bool) (a? b? : Option α) :
    ((b?.filter p).or a?).filter p = (b?.filter p).or (a?.filter p) := by
  cases b? with
  | none => rfl
  | some b => by_cases counts : p b = true <;> simp [Option.filter, counts]

theorem validator?_followedBy (a b : Options) :
    (a.followedBy b).validator? = b.validator?.or a.validator? :=
  filter_filter_or _ _ _

theorem extensions?_followedBy (a b : Options) :
    (a.followedBy b).extensions? = b.extensions?.or a.extensions? :=
  filter_filter_or _ _ _

end Options

namespace Settings

/-- Settings with options laid over. -/
def overlay (s : Settings) (o : Options) : Settings where
  validator := o.validator?.getD s.validator
  builtinRules := o.builtinRules.getD s.builtinRules
  rulePaths := s.rulePaths ++ o.rulePaths.getD []
  disabledRules := s.disabledRules ++ o.disabledRules.getD []
  extensions := o.extensions?.getD s.extensions
  lintTimeout := s.lintTimeout

theorem overlay_overlay (s : Settings) (a b : Options) :
    (s.overlay a).overlay b = s.overlay (a.followedBy b) := by
  simp only [overlay, Options.validator?_followedBy, Options.extensions?_followedBy, Option.getD_or]
  simp only [Options.followedBy, Option.getD_some, List.append_assoc, Option.getD_or]

theorem extend_ofTexts? (ws : List Wording) (more? : Option (List Wording)) :
    Draft.extend (.list (ws.map .ofWording)) (.ofTexts? more?) =
      .ok (.list ((ws ++ more?.getD []).map .ofWording)) := by
  rcases more? with _ | _ | ⟨w, more⟩
  · simp [Draft.extend, Value.ofTexts?, Value.truthy]
  · simp [Draft.extend, Value.ofTexts?, Value.truthy]
  · simp [Draft.extend, Value.ofTexts?, Value.truthy, Value.elements?]

theorem replace_ofTexts? (ws : List Wording) (more? : Option (List Wording)) :
    Draft.replace (.list (ws.map .ofWording)) (.ofTexts? more?) =
      .ok (.list (((more?.filter fun more => !more.isEmpty).getD ws).map .ofWording)) := by
  rcases more? with _ | _ | ⟨w, more⟩
  · simp [Draft.replace, Value.ofTexts?, Value.truthy, Value.elements?]
  · simp [Draft.replace, Value.ofTexts?, Value.truthy, Value.elements?, Option.filter]
  · simp [Draft.replace, Value.ofTexts?, Value.truthy, Value.elements?, Option.filter]

/-- Options over the draft of settings make the draft of the settings with the options laid
over. -/
theorem merge_draft (s : Settings) (o : Options) :
    s.draft.merge o.overrides = .ok (s.overlay o).draft := by
  have validator : (if o.overrides.validator.truthy then o.overrides.validator
      else .ofWording s.validator) = Value.ofWording (o.validator?.getD s.validator) := by
    unfold Options.overrides Options.validator?
    cases o.validator with
    | none => rfl
    | some w => by_cases empty : w.glyphs.isEmpty = true <;> simp [Option.filter, empty]
  -- The two settings that are no lists do not depend on the lists, so they can be settled first.
  have merged : s.draft.merge o.overrides = do
      let rulePaths ← Draft.extend (.list (s.rulePaths.map .ofWording)) (.ofTexts? o.rulePaths)
      let disabledRules ←
        Draft.extend (.list (s.disabledRules.map .ofWording)) (.ofTexts? o.disabledRules)
      let extensions ←
        Draft.replace (.list (s.extensions.map .ofWording)) (.ofTexts? o.extensions)
      return {
        validator := .ofWording (o.validator?.getD s.validator)
        builtinRules := .bool (o.builtinRules.getD s.builtinRules)
        rulePaths, disabledRules, extensions, lintTimeout := .ofQuantity? s.lintTimeout } := by
    rw [← validator]
    obtain ⟨_, builtinRules, _, _, _⟩ := o
    cases builtinRules with
    | none => rfl
    | some b => rfl
  rw [merged, extend_ofTexts?, extend_ofTexts?, replace_ofTexts?]
  rfl

end Settings

/-! ## Taking texts one after the other -/

/-- The wording is a text that satisfies the condition. -/
def Text.Wording.Satisfies (P : String → Prop) (w : Wording) : Prop :=
  ∃ s, w = .text s ∧ P s

theorem Text.Wording.satisfies_of_mem_map {P : String → Prop} {xs : List String}
    (all : ∀ x ∈ xs, P x) : ∀ w ∈ xs.map Wording.text, w.Satisfies P := by
  intro w mem
  obtain ⟨x, known, rfl⟩ := List.mem_map.1 mem
  exact ⟨x, rfl, all x known⟩

/-- The result of taking wordings one after the other: what `all` gives when all are texts that
satisfy the condition, and the error of the first one that is not. -/
def Takes {σ ε : Type} (P : String → Prop) (IsError : Wording → ε → Prop) (ws : List Wording)
    (all : List String → σ) (result : Except ε σ) : Prop :=
  (∃ xs, ws = xs.map .text ∧ (∀ x ∈ xs, P x) ∧ result = .ok (all xs)) ∨
    ∃ front w rest e, ws = front ++ w :: rest ∧ (∀ v ∈ front, v.Satisfies P) ∧
      ¬ w.Satisfies P ∧ IsError w e ∧ result = .error e

namespace Registry

/-- Each text that is taken is kept, unless it is kept already. -/
theorem takes_foldlM {σ ε : Type} {P : String → Prop} {IsError : Wording → ε → Prop}
    (step : σ → Wording → Except ε σ) (keep : List String → σ)
    (one : ∀ xs w, (∃ x, w = .text x ∧ P x ∧ step (keep xs) w = .ok (keep (noted xs x))) ∨
      (¬ w.Satisfies P ∧ ∃ e, IsError w e ∧ step (keep xs) w = .error e))
    (ws : List Wording) (xs : List String) :
    Takes P IsError ws (fun ys => keep (ys.foldl noted xs)) (ws.foldlM step (keep xs)) := by
  -- The texts before the first that is refused are in `xs`; the induction is on those to come.
  induction ws generalizing xs with
  | nil => exact .inl ⟨[], rfl, by simp, rfl⟩
  | cons w ws ih =>
    rw [List.foldlM_cons]
    rcases one xs w with ⟨x, rfl, holds, ok⟩ | ⟨fails, e, error, failed⟩
    · rw [ok]
      rcases ih (noted xs x) with ⟨ys, rfl, all, done⟩ | ⟨front, w, rest, e, rfl, before, fails⟩
      · exact .inl ⟨x :: ys, rfl, List.forall_mem_cons.2 ⟨holds, all⟩, done⟩
      · exact .inr ⟨.text x :: front, w, rest, e, rfl,
          List.forall_mem_cons.2 ⟨⟨x, rfl, holds⟩, before⟩, fails⟩
    · rw [failed]
      exact .inr ⟨[], w, ws, e, rfl, by simp, fails, error, rfl⟩

theorem foldl_noted (xs : List String) : xs.foldl noted [] = xs.eraseDups := by
  induction xs using List.reverseRecOn with
  | nil => rfl
  | append_singleton xs x ih => rw [List.foldl_append, ih, eraseDups_concat]; rfl

end Registry

open Registry

namespace Application

/-- Nothing is at the path that the wording names, for which the fault is given. -/
inductive IsMissing (t : FileTree) : Wording → Fault → Prop
  | absent {path : String} : t.find? (Path.ofString path) = .ok none →
      IsMissing t (.text path) (.refused (.rulePathNotFound path))
  | unreachable {path : String} {e : FileError} : t.find? (Path.ofString path) = .error e →
      IsMissing t (.text path) (.file e)
  | broken (gs : List Text.Glyph) :
      IsMissing t (.broken gs) (.refused (.rulePathNotFound (Wording.broken gs).display))

/-- The refusal of a wording that names no rule. -/
def IsBadName (w : Wording) (r : Refusal) : Prop :=
  r = .badRuleName (.ofWording w)

variable {t : FileTree}

theorem addPath_cases (t : FileTree) (r : Registry) (w : Wording) :
    (∃ path, w = .text path ∧ t.Has path ∧
        addPath t r w = .ok { r with paths := noted r.paths path }) ∨
      (¬ w.Satisfies t.Has ∧ ∃ f, IsMissing t w f ∧ addPath t r w = .error f) := by
  cases w with
  | broken gs =>
    refine .inr ⟨?_, _, .broken gs, rfl⟩
    rintro ⟨path, same, -⟩
    cases same
  | text path =>
    have unknown (elsewhere : ∀ place, t.find? (Path.ofString path) ≠ .ok (some place)) :
        ¬ (Wording.text path).Satisfies t.Has := by
      rintro ⟨_, same, place, found⟩
      obtain rfl := Wording.text.inj same
      exact elsewhere place found
    simp only [addPath, Registry.addPath]
    cases found : t.find? (Path.ofString path) with
    | error e => exact .inr ⟨unknown (by simp [found]), _, .unreachable found, rfl⟩
    | ok place? =>
      cases place? with
      | none => exact .inr ⟨unknown (by simp [found]), _, .absent found, rfl⟩
      | some place =>
        refine .inl ⟨path, rfl, ⟨place, found⟩, ?_⟩
        by_cases known : path ∈ r.paths <;> simp [noted, known]

theorem disable_cases (r : Registry) (w : Wording) :
    (∃ name, w = .text name ∧ RuleName.isWellFormed name = true ∧
        r.disable (.ofWording w) = .ok { r with disabled := noted r.disabled name }) ∨
      (¬ w.Satisfies (RuleName.isWellFormed · = true) ∧
        ∃ e, IsBadName w e ∧ r.disable (.ofWording w) = .error e) := by
  cases w with
  | broken gs =>
    refine .inr ⟨?_, _, rfl, rfl⟩
    rintro ⟨name, same, -⟩
    cases same
  | text name =>
    simp only [Registry.disable, Value.ofWording, RuleName.ofValue?]
    by_cases good : RuleName.isWellFormed name = true
    · refine .inl ⟨name, rfl, good, ?_⟩
      by_cases known : name ∈ r.disabled <;> simp [noted, known, good]
    · refine .inr ⟨?_, _, rfl, by simp [good, Value.ofWording]⟩
      rintro ⟨_, same, wellFormed⟩
      obtain rfl := Wording.text.inj same
      exact good wellFormed

theorem addPaths_eq_foldlM (t : FileTree) (r : Registry) (ws : List Wording) :
    addPaths t r ws = ws.foldlM (addPath t) r := by
  induction ws generalizing r with
  | nil => rfl
  | cons w ws ih =>
    rw [addPaths, List.foldlM_cons]
    cases addPath t r w with
    | error f => rfl
    | ok r => exact ih r

theorem disableAll_eq_foldlM (r : Registry) (ws : List Wording) :
    disableAll r ws = ws.foldlM (fun r w => r.disable (.ofWording w)) r := by
  induction ws generalizing r with
  | nil => rfl
  | cons w ws ih =>
    rw [disableAll, List.foldlM_cons]
    cases r.disable (.ofWording w) with
    | error e => rfl
    | ok r => exact ih r

/-- Paths are kept once, in the order in which they first come. -/
theorem takes_addPaths (t : FileTree) (flag : Bool) (ws : List Wording) :
    Takes t.Has (IsMissing t) ws (fun ps => { enableBuiltin := flag, paths := ps.eraseDups })
      (addPaths t { enableBuiltin := flag } ws) := by
  have taken := takes_foldlM (addPath t) (fun paths => { enableBuiltin := flag, paths })
    (fun paths w => addPath_cases t { enableBuiltin := flag, paths } w) ws []
  simp only [foldl_noted] at taken
  rwa [addPaths_eq_foldlM]

/-- Names are kept once, in the order in which they first come. -/
theorem takes_disableAll (flag : Bool) (paths : List String) (ws : List Wording) :
    Takes (RuleName.isWellFormed · = true) IsBadName ws
      (fun ns => { enableBuiltin := flag, paths, disabled := ns.eraseDups })
      (disableAll { enableBuiltin := flag, paths } ws) := by
  have taken := takes_foldlM (fun (r : Registry) w => r.disable (.ofWording w))
    (fun disabled => { enableBuiltin := flag, paths, disabled })
    (fun disabled w => disable_cases { enableBuiltin := flag, paths, disabled } w) ws []
  simp only [foldl_noted] at taken
  rwa [disableAll_eq_foldlM]

/-- The fault is that of the first thing that fails: the validation, or a path at which nothing is,
or a name that no rule can have. -/
inductive IsFirstFault (t : FileTree) (d : Draft) (paths names : List Wording) : Fault → Prop
  | invalid {r : Refusal} : d.validate = .error r → IsFirstFault t d paths names (.refused r)
  | missing {s : Settings} {front rest : List Wording} {w : Wording} {f : Fault} :
      d.validate = .ok s → paths = front ++ w :: rest → (∀ v ∈ front, v.Satisfies t.Has) →
      ¬ w.Satisfies t.Has → IsMissing t w f → IsFirstFault t d paths names f
  | misnamed {s : Settings} {front rest : List Wording} {w : Wording} :
      d.validate = .ok s → (∀ v ∈ paths, v.Satisfies t.Has) → names = front ++ w :: rest →
      (∀ v ∈ front, v.Satisfies (RuleName.isWellFormed · = true)) →
      ¬ w.Satisfies (RuleName.isWellFormed · = true) →
      IsFirstFault t d paths names (.refused (.badRuleName (.ofWording w)))

theorem IsFirstFault.not_accepted {d : Draft} {paths names : List Wording} {f : Fault}
    (first : IsFirstFault t d paths names f) :
    ¬ ((∃ s, d.validate = .ok s) ∧ (∀ w ∈ paths, w.Satisfies t.Has) ∧
      ∀ w ∈ names, w.Satisfies (RuleName.isWellFormed · = true)) := by
  rintro ⟨⟨s, usable⟩, exist, good⟩
  cases first with
  | invalid refused => cases refused.symm.trans usable
  | missing _ split _ fails => exact fails (exist _ (by simp [split]))
  | misnamed _ _ split _ fails => exact fails (good _ (by simp [split]))

/-- Everything that making an application of the draft of settings can come to. -/
theorem ofDraft_cases (t : FileTree) (s : Settings) :
    (∃ ps ns : List String, s.draft.validate = .ok s ∧
        s.rulePaths = ps.map .text ∧ (∀ path ∈ ps, t.Has path) ∧
        s.disabledRules = ns.map .text ∧ (∀ name ∈ ns, RuleName.isWellFormed name = true) ∧
        ofDraft t s.draft = .ok {
          registry := {
            enableBuiltin := s.builtinRules
            paths := ps.eraseDups
            disabled := ns.eraseDups }
          extensions := s.extensions.filterMap Wording.text?
          lintTimeout := s.lintTimeout }) ∨
      ∃ f, ofDraft t s.draft = .error f ∧
        IsFirstFault t s.draft s.rulePaths s.disabledRules f := by
  cases valid : s.draft.validate with
  | error r =>
    refine .inr ⟨.refused r, ?_, .invalid valid⟩
    rw [ofDraft, valid]
    rfl
  | ok s' =>
    obtain rfl : s' = s := by
      rw [Draft.validate_draft] at valid
      split at valid
      · cases valid
      · exact (Except.ok.inj valid).symm
    have whole : ofDraft t s'.draft = (do
        let registry ← addPaths t { enableBuiltin := s'.builtinRules } s'.rulePaths
        let registry ← Draft.orFault (disableAll registry s'.disabledRules)
        return {
          registry, extensions := s'.extensions.filterMap Wording.text?
          lintTimeout := s'.lintTimeout }) := by
      rw [ofDraft, valid]
      rfl
    rw [whole]
    -- No name is looked at before all paths have been taken.
    rcases takes_addPaths t s'.builtinRules s'.rulePaths with
      ⟨ps, paths, exist, added⟩ | ⟨front, w, rest, f, split, before, fails, missing, failed⟩
    · rcases takes_disableAll s'.builtinRules ps.eraseDups s'.disabledRules with
        ⟨ns, names, good, done⟩ | ⟨front, w, rest, e, split, before, fails, bad, failed⟩
      · refine .inl ⟨ps, ns, rfl, paths, exist, names, good, ?_⟩
        rw [added]
        show (Draft.orFault (disableAll _ _) >>= _) = _
        rw [done]
        rfl
      · refine .inr ⟨.refused e, ?_, ?_⟩
        · rw [added]
          show (Draft.orFault (disableAll _ _) >>= _) = _
          rw [failed]
          rfl
        · obtain rfl : e = _ := bad
          refine .misnamed valid ?_ split before fails
          rw [paths]
          exact Wording.satisfies_of_mem_map exist
    · refine .inr ⟨f, ?_, .missing valid split before fails missing⟩
      rw [failed]
      rfl

/-- Options over a draft that can be used always make a draft `d`. Of `d` there is an application
exactly when it can be used, something is at every path, of the settings and then of the options,
and every name, of the settings and then of the options, is well formed. The application then has
these paths and names without repetitions, in the order in which they first come, and the switch
and the suffixes of the options where they count, of the settings otherwise. If there is none, the
fault is that of the first condition that fails. And other options over `d` make what the first
options followed by them make of the base. -/
theorem layers_make_one_application (t : FileTree) (base : Draft) (s : Settings)
    (valid : base.validate = .ok s) (o : Options) :
    ∃ d, base.merge o.overrides = .ok d ∧
      let paths := s.rulePaths ++ o.rulePaths.getD []
      let names := s.disabledRules ++ o.disabledRules.getD []
      ((∃ a, ofDraft t d = .ok a) ↔
        (∃ s', d.validate = .ok s') ∧ (∀ w ∈ paths, w.Satisfies t.Has) ∧
          ∀ w ∈ names, w.Satisfies (RuleName.isWellFormed · = true)) ∧
      (∀ a, ofDraft t d = .ok a → ∃ ps ns : List String,
        paths = ps.map .text ∧ names = ns.map .text ∧ a = {
          registry := {
            enableBuiltin := o.builtinRules.getD s.builtinRules
            paths := ps.eraseDups
            disabled := ns.eraseDups }
          extensions := (o.extensions?.getD s.extensions).filterMap Wording.text?
          lintTimeout := s.lintTimeout }) ∧
      (∀ f, ofDraft t d = .error f → IsFirstFault t d paths names f) ∧
      ∀ more : Options, d.merge more.overrides = base.merge (o.followedBy more).overrides := by
  obtain rfl := Draft.eq_draft_of_validate valid
  refine ⟨(s.overlay o).draft, s.merge_draft o, ?_⟩
  intro paths names
  have again : ∀ more : Options, (s.overlay o).draft.merge more.overrides =
      s.draft.merge (o.followedBy more).overrides := by
    intro more
    rw [Settings.merge_draft, Settings.merge_draft, Settings.overlay_overlay]
  rcases ofDraft_cases t (s.overlay o) with
    ⟨ps, ns, usable, isPaths, exist, isNames, good, made⟩ | ⟨f, failed, first⟩
  · have accepted : (∀ w ∈ paths, w.Satisfies t.Has) ∧
        ∀ w ∈ names, w.Satisfies (RuleName.isWellFormed · = true) := by
      rw [show paths = _ from isPaths, show names = _ from isNames]
      exact ⟨Wording.satisfies_of_mem_map exist, Wording.satisfies_of_mem_map good⟩
    refine ⟨⟨fun _ => ⟨⟨_, usable⟩, accepted⟩, fun _ => ⟨_, made⟩⟩, ?_, ?_, again⟩
    · intro a ok
      obtain rfl := Except.ok.inj (made.symm.trans ok)
      exact ⟨ps, ns, isPaths, isNames, rfl⟩
    · intro f failed
      cases made.symm.trans failed
  · refine ⟨⟨?_, fun accepted => absurd accepted first.not_accepted⟩, ?_, ?_, again⟩
    · rintro ⟨a, ok⟩
      cases failed.symm.trans ok
    · intro a ok
      cases failed.symm.trans ok
    · intro f' failed'
      obtain rfl := Except.error.inj (failed.symm.trans failed')
      exact first

/-- Two directories for rules. -/
def twoDirectories : FileTree where
  directories := [["more"], ["rules"]]

theorem layers_make_one_application_of_twoDirectories :
    let base : Draft := { validator := .text "python", rulePaths := .list [.text "rules"] }
    let options : Options := {
      builtinRules := some false
      rulePaths := some [.text "more", .text "rules"]
      extensions := some [] }
    ∃ d a, base.merge options.overrides = .ok d ∧ ofDraft twoDirectories d = .ok a ∧
      a.registry.enableBuiltin = false ∧ a.registry.paths = ["rules", "more"] ∧
      a.extensions = [".py"] := by
  intro base options
  obtain ⟨d, merged, made, described, -, -⟩ :=
    layers_make_one_application twoDirectories base
      ⟨.text "python", true, [.text "rules"], [], [.text ".py"], none⟩ rfl options
  obtain rfl : _ = d := Except.ok.inj merged
  have exist : ∀ path ∈ ["rules", "more", "rules"], twoDirectories.Has path := by
    simp only [List.forall_mem_cons]
    exact ⟨⟨["rules"], rfl⟩, ⟨["more"], rfl⟩, ⟨["rules"], rfl⟩, by simp⟩
  obtain ⟨a, ok⟩ := made.2 ⟨⟨_, rfl⟩, Wording.satisfies_of_mem_map exist, by simp [options]⟩
  obtain ⟨ps, ns, paths, -, rfl⟩ := described a ok
  have texts := congrArg (List.filterMap Wording.text?) paths
  rw [List.filterMap_map, show Wording.text? ∘ Wording.text = some from rfl,
    List.filterMap_some] at texts
  refine ⟨_, _, merged, ok, rfl, ?_, rfl⟩
  change ps.eraseDups = _
  rw [← texts]
  decide

end Application

end SourceAudit
