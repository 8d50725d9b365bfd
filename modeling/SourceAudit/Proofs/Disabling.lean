import Mathlib.Data.List.Forall2
import SourceAudit.Proofs.Loading

/-!
# Disabling rules

Disabling a rule takes it out of what is loaded and does nothing else. With more names disabled,
loading does the same steps without some of the candidates, so what was loaded before is loaded
still, without those candidates (`perform_filters`); only the set of the disabled names counts, and
of it only names of rule files (`loadRules_congr`). A rule file that is skipped is not looked at, so
nothing depends on what it holds (`loadRules_of_sameBut`).
-/

namespace SourceAudit

namespace Registry

variable {c : Catalogue}

/-! ## Fewer rules -/

/-- A candidate gives at most one rule. -/
theorem Candidate.Gives.unique {s : Candidate} {r r' : Rule} (first : s.Gives c r)
    (second : s.Gives c r') : r = r' := by
  obtain ⟨g, found, called, -⟩ := first
  obtain ⟨g', found', called', -⟩ := second
  obtain rfl := Option.some.inj (found.symm.trans found')
  exact Product.rule.inj (Except.ok.inj (called.symm.trans called'))

/-- A candidate that can be loaded can be loaded to fewer rules. -/
theorem Candidate.load_of_fewer {l m less : Loaded} {s : Candidate} (ok : s.load c l = .ok m)
    (fewer : ∀ name ∈ less.names, name ∈ l.names) :
    ∃ r, m = l.push s.name r ∧ s.load c less = .ok (less.push s.name r) := by
  rcases s.load_cases c l with ⟨r, gives, new, loaded⟩ | ⟨e, -, failed⟩
  · refine ⟨r, Except.ok.inj (ok.symm.trans loaded), ?_⟩
    rcases s.load_cases c less with ⟨r', gives', -, loaded'⟩ | ⟨e, blocked, -⟩
    · rw [gives.unique gives']
      exact loaded'
    · exact absurd blocked (Candidate.not_blocks gives fun old => new (fewer _ old))
  · cases ok.symm.trans failed

/-- The rules whose names are not disabled. -/
def enabledRules (disabled : List String) (rules : List (String × Rule)) : List (String × Rule) :=
  rules.filter fun p => !disabled.contains p.1

theorem enabledRules_push (disabled : List String) (l : Loaded) (name : String) (r : Rule) :
    enabledRules disabled (l.push name r).rules =
      enabledRules disabled l.rules ++ if disabled.contains name then [] else [(name, r)] := by
  rw [enabledRules, Loaded.rules_push, List.filter_append]
  congr 1
  cases known : disabled.contains name <;> simp_all

theorem names_of_enabledRules {disabled : List String} {l less : Loaded}
    (kept : less.rules = enabledRules disabled l.rules) :
    ∀ name ∈ less.names, name ∈ l.names := by
  intro name mem
  rw [Loaded.names, kept] at mem
  obtain ⟨p, hp, rfl⟩ := List.mem_map.1 mem
  exact List.mem_map_of_mem (List.mem_filter.1 hp).1

/-- One task, with more names disabled: it is done again, and the rules are still those that are not
disabled. -/
theorem performTask_filters {disabled more : List String} (sub : ∀ name ∈ disabled, name ∈ more)
    {l m less : Loaded} {task : LoadTask} (ok : performTask c disabled l task = .ok m)
    (kept : less.rules = enabledRules more l.rules) :
    ∃ n, performTask c more less task = .ok n ∧ n.rules = enabledRules more m.rules := by
  cases about : candidate? task with
  | none =>
    cases task with
    | note e =>
      obtain rfl := Except.ok.inj ok
      exact ⟨less.note e, rfl, kept⟩
    | stop f => cases ok
    | builtin f => cases about
    | custom f => cases about
  | some s =>
    rw [performTask_of_candidate about] at ok ⊢
    by_cases skipped : disabled.contains s.name = true
    · have still : more.contains s.name = true := by
        rw [List.contains_iff_mem] at skipped ⊢
        exact sub _ skipped
      rw [if_pos skipped] at ok
      obtain rfl := Except.ok.inj ok
      rw [if_pos still]
      exact ⟨_, rfl, kept⟩
    · rw [if_neg skipped] at ok
      obtain ⟨r, rfl, again⟩ := Candidate.load_of_fewer ok (names_of_enabledRules kept)
      by_cases gone : more.contains s.name = true
      · rw [if_pos gone]
        refine ⟨_, rfl, ?_⟩
        rw [enabledRules_push, if_pos gone, List.append_nil]
        exact kept
      · rw [if_neg gone]
        refine ⟨_, again, ?_⟩
        rw [enabledRules_push, if_neg gone, Loaded.rules_push, kept]

theorem perform_filters {disabled more : List String} (sub : ∀ name ∈ disabled, name ∈ more)
    (tasks : List LoadTask) {l less : Loaded} (kept : less.rules = enabledRules more l.rules)
    (ok : (perform c disabled l tasks).2 = none) :
    (perform c more less tasks).2 = none ∧
      (perform c more less tasks).1.rules =
        enabledRules more (perform c disabled l tasks).1.rules := by
  induction tasks generalizing l less with
  | nil => exact ⟨rfl, kept⟩
  | cons task tasks ih =>
    cases done : performTask c disabled l task with
    | error f => simp [perform, done] at ok
    | ok m =>
      obtain ⟨n, again, next⟩ := performTask_filters sub done kept
      simp only [perform, done, again] at ok ⊢
      exact ih next ok

/-! ## The same steps -/

/-- Whatever is loaded, doing `b` with `others` disabled is the same as doing `a`. -/
def DoneAlike (c : Catalogue) (disabled others : List String) (a b : LoadTask) : Prop :=
  ∀ l, performTask c others l b = performTask c disabled l a

theorem forall₂_doneAlike (c : Catalogue) (disabled : List String) (tasks : List LoadTask) :
    List.Forall₂ (DoneAlike c disabled disabled) tasks tasks :=
  List.forall₂_same.2 fun _ _ _ => rfl

/-- Tasks that are done in the same way, one by one, are done in the same way together. -/
theorem perform_congr {disabled others : List String} {tasks tasks' : List LoadTask}
    (same : List.Forall₂ (DoneAlike c disabled others) tasks tasks') (l : Loaded) :
    perform c others l tasks' = perform c disabled l tasks := by
  induction same generalizing l with
  | nil => rfl
  | cons first _ ih =>
    rw [perform, perform, first l]
    split
    · rfl
    · exact ih _

theorem doneAlike_of_contains {disabled others : List String} {task : LoadTask}
    (same : ∀ s, candidate? task = some s → others.contains s.name = disabled.contains s.name) :
    DoneAlike c disabled others task task := by
  intro l
  cases about : candidate? task with
  | none =>
    cases task with
    | note e => rfl
    | stop f => rfl
    | builtin f => cases about
    | custom f => cases about
  | some s => rw [performTask_of_candidate about, performTask_of_candidate about, same s about]

/-- The result of loading, from what is loaded and the fault. -/
def resultOf (p : Loaded × Option Fault) : LoadResult :=
  match p.2 with
  | some f => ⟨.error f, p.1.log⟩
  | none => ⟨.ok p.1.rules, p.1.log⟩

end Registry

open Registry

theorem loadRules_eq {disabled : List Value}
    (good : ∀ v ∈ disabled, (RuleName.ofValue? v).isSome = true) (t : FileTree) (c : Catalogue)
    (enabled : Bool) (paths : List String) :
    loadRules t c enabled paths disabled =
      resultOf (perform c (disabled.filterMap RuleName.ofValue?) {} (plan t c enabled paths)) := by
  have none : disabled.find? (fun v => (RuleName.ofValue? v).isNone) = none := by
    rw [List.find?_eq_none]
    intro v hv
    obtain ⟨name, named⟩ := Option.isSome_iff_exists.1 (good v hv)
    simp [named]
  have list := disabledNames_eq disabled
  rw [none] at list
  rw [loadRules, list]
  rfl

theorem loadRules_filters (t : FileTree) (c : Catalogue) (enabled : Bool) (paths : List String)
    {disabled more : List Value} (good : ∀ v ∈ disabled, (RuleName.ofValue? v).isSome = true)
    (good' : ∀ v ∈ more, (RuleName.ofValue? v).isSome = true) (sub : ∀ v ∈ disabled, v ∈ more)
    {rules : List (String × Rule)}
    (ok : (loadRules t c enabled paths disabled).outcome = .ok rules) :
    (loadRules t c enabled paths more).outcome =
      .ok (enabledRules (more.filterMap RuleName.ofValue?) rules) := by
  have names : ∀ name ∈ disabled.filterMap RuleName.ofValue?,
      name ∈ more.filterMap RuleName.ofValue? := by
    intro name mem
    obtain ⟨v, hv, named⟩ := List.mem_filterMap.1 mem
    exact List.mem_filterMap.2 ⟨v, sub v hv, named⟩
  rw [loadRules_eq good, resultOf] at ok
  split at ok
  · cases ok
  · rename_i going
    obtain rfl := Except.ok.inj ok
    have start : ({} : Loaded).rules =
        enabledRules (more.filterMap RuleName.ofValue?) ({} : Loaded).rules := rfl
    obtain ⟨done, rules⟩ := perform_filters names (plan t c enabled paths) start going
    rw [loadRules_eq good', resultOf, done]
    simp only [rules]

/-- Only the disabled names of rule files count. -/
theorem loadRules_congr {t : FileTree} {c : Catalogue} {enabled : Bool} {paths : List String}
    {disabled others : List Value} (good : ∀ v ∈ disabled, (RuleName.ofValue? v).isSome = true)
    (good' : ∀ v ∈ others, (RuleName.ofValue? v).isSome = true)
    (same : ∀ s ∈ candidates t c enabled paths [],
      s.name ∈ others.filterMap RuleName.ofValue? ↔ s.name ∈ disabled.filterMap RuleName.ofValue?) :
    loadRules t c enabled paths others = loadRules t c enabled paths disabled := by
  rw [loadRules_eq good, loadRules_eq good']
  congr 1
  apply perform_congr
  rw [List.forall₂_same]
  intro task mem
  apply doneAlike_of_contains
  intro s about
  have found : s ∈ candidates t c enabled paths [] := by
    rw [← wanted_plan, wanted, List.mem_filter]
    exact ⟨List.mem_filterMap.2 ⟨task, mem, about⟩, rfl⟩
  rw [Bool.eq_iff_iff, List.contains_iff_mem, List.contains_iff_mem]
  exact same s found

/-! ## Other contents -/

namespace FileTree

/-- The two trees have the same directories and files, and a path leads to the same contents in both
unless its stem is one to skip. -/
structure SameBut (t u : FileTree) (skip : String → Prop) : Prop where
  directories : u.directories = t.directories
  places : u.files.map (·.1) = t.files.map (·.1)
  contents : ∀ p : Path, ¬ skip p.stem → u.open? p = t.open? p

section Shape

variable {t u : FileTree} (directories : u.directories = t.directories)
  (places : u.files.map (·.1) = t.files.map (·.1))

include places in
theorem isFileAt_eq (place : Place) : u.isFileAt place = t.isFileAt place := by
  have any : ∀ w : FileTree, w.isFileAt place = (w.files.map (·.1)).any (· == place) := by
    intro w
    rw [List.any_map]
    rfl
  rw [any u, any t, places]

include directories places in
theorem step_eq (place : Place) (part : String) : u.step place part = t.step place part := by
  have isDirectory : ∀ place, u.isDirectoryAt place = t.isDirectoryAt place := by
    intro place
    rw [isDirectoryAt, isDirectoryAt, directories]
  rw [step, step, existsAt, existsAt, isDirectory, isDirectory, isFileAt_eq places]

include directories places in
theorem follow_eq (place : Place) (parts : List String) :
    u.follow place parts = t.follow place parts := by
  induction parts generalizing place with
  | nil => rfl
  | cons part parts ih =>
    rw [follow, follow, step_eq directories places]
    split
    · rfl
    · exact ih _

include directories places in
/-- Where a path leads to is told by the shape of the tree. -/
theorem locate_eq (p : Path) : u.locate p = t.locate p := by
  rw [locate, locate, followFrom, followFrom, follow_eq directories places]

include places in
theorem below_eq (place : Place) : u.below place = t.below place := by
  have below : ∀ w : FileTree, w.below place = (w.files.map (·.1)).filterMap fun q =>
      if place.isPrefixOf q && place.length < q.length then some (q.drop place.length)
      else none := by
    intro w
    rw [List.filterMap_map]
    rfl
  rw [below u, below t, places]

include directories places in
/-- Finding files does not look into them. -/
theorem discover_eq (shown : String) (extensions : List String) :
    discover u shown extensions = discover t shown extensions := by
  simp only [discover, find?, locate_eq directories places, isFileAt_eq places, walk,
    below_eq places]

end Shape

/-- What holds of the files and directories of a working directory: everything is in a directory,
and no file is a directory. -/
structure IsSound (t : FileTree) : Prop where
  parent : ∀ place, t.existsAt place = true → t.isDirectoryAt place.dropLast = true
  apart : ∀ place, t.isDirectoryAt place = true → t.isFileAt place = false

variable {t : FileTree}

/-- A path to a file ends with the name of the file. -/
theorem getLast?_of_follow (sound : t.IsSound) {place file : Place} {parts : List String}
    (found : t.follow place parts = .ok file) (isFile : t.isFileAt file = true)
    (away : parts ≠ []) : file.getLast? = parts.getLast? := by
  induction parts generalizing place with
  | nil => exact absurd rfl away
  | cons part parts ih =>
    rw [follow] at found
    split at found
    · cases found
    · rename_i next stepped
      cases parts with
      | cons second rest =>
        rw [List.getLast?_cons_cons]
        exact ih found (by simp)
      | nil =>
        obtain rfl := Except.ok.inj found
        unfold step at stepped
        split at stepped
        · cases stepped
        · rename_i directory
          split at stepped
          · -- a double dot leads to a directory
            have here : t.isDirectoryAt place = true := by simpa using directory
            have above := sound.parent place (by rw [existsAt, here, Bool.true_or])
            obtain rfl := Except.ok.inj stepped
            rw [sound.apart _ above] at isFile
            cases isFile
          · split at stepped
            · cases stepped
            · split at stepped
              · obtain rfl := Except.ok.inj stepped
                simp
              · cases stepped

theorem stem_of_locate (sound : t.IsSound) {p : Path} {file : Place} (found : t.locate p = .ok file)
    (isFile : t.isFileAt file = true) : p.stem = Path.stemOf (file.getLast?.getD "") := by
  unfold locate at found
  split at found
  · cases found
  · unfold followFrom at found
    split at found
    · by_cases away : p.parts = []
      · rw [away] at found
        obtain rfl := Except.ok.inj found
        rw [sound.apart [] rfl] at isFile
        cases isFile
      · rw [getLast?_of_follow sound found isFile away]
        rfl
    · cases found

theorem isDirectoryAt_take (sound : t.IsSound) {place : Place}
    (directory : t.isDirectoryAt place = true) (n : Nat) :
    t.isDirectoryAt (place.take (place.length - n)) = true := by
  induction n with
  | zero => simpa using directory
  | succ n ih =>
    have above := sound.parent _ (by rw [existsAt, ih, Bool.true_or])
    rwa [List.dropLast_eq_take, List.length_take, List.take_take,
      show min (min (place.length - n) place.length - 1) (place.length - n) =
        place.length - (n + 1) by omega] at above

theorem makeDirectory_of_isDirectoryAt (sound : t.IsSound) {place : Place}
    (directory : t.isDirectoryAt place = true) : t.makeDirectory place = t := by
  have known : (ancestry place).filter (fun d => !t.directories.contains d) = [] := by
    rw [List.filter_eq_nil_iff]
    intro d mem
    obtain ⟨n, hn, rfl⟩ := List.mem_map.1 mem
    rw [List.mem_range] at hn
    have there := isDirectoryAt_take sound directory (place.length - (n + 1))
    rw [show place.length - (place.length - (n + 1)) = n + 1 by omega] at there
    have some : (place.take (n + 1)).isEmpty = false := by
      rw [List.isEmpty_eq_false_iff, ← List.length_pos_iff, List.length_take]
      omega
    simpa [isDirectoryAt, some] using there
  rw [makeDirectory, known, List.append_nil]

theorem writeAt_of_isFileAt (sound : t.IsSound) {place : Place} (isFile : t.isFileAt place = true)
    (c : Content) : t.writeAt place c =
      { t with files := t.files.map fun f => if f.1 = place then (place, c) else f } := by
  have above := sound.parent place (by rw [existsAt, isFile, Bool.or_true])
  rw [writeAt, makeDirectory_of_isDirectoryAt sound above]
  exact if_pos isFile

theorem contentAt?_writeAt_of_ne (sound : t.IsSound) {place other : Place}
    (isFile : t.isFileAt place = true) (c : Content) (ne : other ≠ place) :
    (t.writeAt place c).contentAt? other = t.contentAt? other := by
  rw [writeAt_of_isFileAt sound isFile, contentAt?, contentAt?]
  induction t.files with
  | nil => rfl
  | cons f files ih =>
    rw [List.map_cons]
    by_cases here : f.1 = place
    · rw [if_pos here, List.find?_cons_of_neg (by simpa using Ne.symm ne), ih,
        List.find?_cons_of_neg (by simpa [here] using Ne.symm ne)]
    · rw [if_neg here, List.find?_cons, List.find?_cons]
      split
      · rfl
      · exact ih

/-- Writing to a file whose stem is one to skip changes nothing else. -/
theorem sameBut_writeAt (sound : t.IsSound) {place : Place} (isFile : t.isFileAt place = true)
    (c : Content) {skip : String → Prop} (skipped : skip (Path.stemOf (place.getLast?.getD ""))) :
    t.SameBut (t.writeAt place c) skip := by
  have written := writeAt_of_isFileAt sound isFile c
  have places : (t.writeAt place c).files.map (·.1) = t.files.map (·.1) := by
    rw [written, List.map_map]
    refine List.map_congr_left fun f _ => ?_
    by_cases here : f.1 = place
    · rw [Function.comp_apply, if_pos here, here]
    · rw [Function.comp_apply, if_neg here]
  have directories : (t.writeAt place c).directories = t.directories := by rw [written]
  refine ⟨directories, places, ?_⟩
  intro p seen
  have located : (t.writeAt place c).locate p = t.locate p := locate_eq directories places p
  rw [open?, open?, located]
  cases found : t.locate p with
  | error e => rfl
  | ok file =>
    have ne : file ≠ place := by
      rintro rfl
      exact seen (stem_of_locate sound found isFile ▸ skipped)
    simp only [contentAt?_writeAt_of_ne sound isFile c ne]

end FileTree

namespace Registry

variable {t u : FileTree} {c : Catalogue}

/-- A file with this stem is not looked at. -/
def IsSkipped (disabled : List String) (stem : String) : Prop :=
  RuleName.qualify stem ∈ disabled ∨ stem.toList.head? = some '_'

theorem stem_ruleFile (t : FileTree) (shown : String) :
    (ruleFile t shown).stem = (Path.ofString shown).stem := rfl

theorem ruleFile_of_sameBut {skip : String → Prop} (same : t.SameBut u skip) {shown : String}
    (seen : ¬ skip (Path.ofString shown).stem) : ruleFile u shown = ruleFile t shown := by
  rw [ruleFile, ruleFile, same.contents _ seen]

/-- A rule file is loaded in the same way from both trees, or skipped in both. -/
theorem doneAlike_of_sameBut {disabled : List String}
    (same : t.SameBut u (IsSkipped disabled)) {shown : String}
    (rule : (ruleFile t shown).isRuleFile = true) {task : RuleFile → LoadTask}
    (about : ∀ f, ∃ s, candidate? (task f) = some s ∧ s.name = f.name) :
    DoneAlike c disabled disabled (task (ruleFile t shown)) (task (ruleFile u shown)) := by
  intro l
  by_cases skipped : IsSkipped disabled (Path.ofString shown).stem
  · have named : RuleName.qualify (Path.ofString shown).stem ∈ disabled := by
      rcases skipped with named | hidden
      · exact named
      · rw [RuleFile.isRuleFile, stem_ruleFile, hidden] at rule
        simp at rule
    obtain ⟨s, first, name⟩ := about (ruleFile t shown)
    obtain ⟨s', second, name'⟩ := about (ruleFile u shown)
    rw [RuleFile.name, stem_ruleFile] at name name'
    rw [performTask_of_candidate first, performTask_of_candidate second, name, name',
      if_pos (List.contains_iff_mem.2 named), if_pos (List.contains_iff_mem.2 named)]
  · rw [ruleFile_of_sameBut same skipped]

theorem tasksOf_of_sameBut {disabled : List String} (same : t.SameBut u (IsSkipped disabled))
    (path : String) {task : RuleFile → LoadTask}
    (about : ∀ f, ∃ s, candidate? (task f) = some s ∧ s.name = f.name) :
    List.Forall₂ (DoneAlike c disabled disabled) (tasksOf t path task) (tasksOf u path task) := by
  unfold tasksOf
  rw [FileTree.discover_eq same.directories same.places]
  split
  · exact forall₂_doneAlike ..
  · rename_i d found
    refine List.rel_append (forall₂_doneAlike ..) ?_
    induction d.files with
    | nil => exact .nil
    | cons shown rest ih =>
      have stems : (ruleFile u shown).isRuleFile = (ruleFile t shown).isRuleFile := by
        rw [RuleFile.isRuleFile, RuleFile.isRuleFile, stem_ruleFile, stem_ruleFile]
      simp only [List.map_cons, List.filter_cons, stems]
      split
      · rename_i rule
        exact .cons (doneAlike_of_sameBut same rule about) ih
      · exact ih

theorem plan_of_sameBut {disabled : List String} (same : t.SameBut u (IsSkipped disabled))
    (enabled : Bool) (paths : List String) :
    List.Forall₂ (DoneAlike c disabled disabled) (plan t c enabled paths)
      (plan u c enabled paths) := by
  unfold plan
  refine List.rel_append ?_ ?_
  · cases enabled with
    | false => exact .nil
    | true =>
      simp only [if_true, builtinTasks]
      cases c.directory with
      | none => exact forall₂_doneAlike ..
      | some path => exact tasksOf_of_sameBut same path fun f => ⟨_, rfl, rfl⟩
  · induction paths.zipIdx with
    | nil => exact .nil
    | cons first rest ih =>
      simp only [List.flatMap_cons]
      exact List.rel_append (tasksOf_of_sameBut same first.1 fun f => ⟨_, rfl, rfl⟩) ih

end Registry

theorem loadRules_of_sameBut {t u : FileTree} (c : Catalogue) (enabled : Bool) (paths : List String)
    {disabled : List Value} (good : ∀ v ∈ disabled, (RuleName.ofValue? v).isSome = true)
    (same : t.SameBut u (IsSkipped (disabled.filterMap RuleName.ofValue?))) :
    loadRules u c enabled paths disabled = loadRules t c enabled paths disabled := by
  rw [loadRules_eq good, loadRules_eq good, perform_congr (plan_of_sameBut same enabled paths)]

theorem RuleName.eq_of_ofValue? {v : Value} {name : String} (named : ofValue? v = some name) :
    v = .text name := by
  cases v with
  | text s =>
    rw [ofValue?] at named
    split at named
    · rw [Option.some.inj named]
    · cases named
  | _ => cases named

/-- Disabling is a filter. With more names disabled, loading succeeds still and gives the same rules
in the same order, without those of the names. The result depends on the set of the disabled names
only, and a name that no rule file has is of no effect. Nothing depends on what a skipped rule file
holds, be it that its name is disabled or that its stem starts with an underscore: not between two
trees that differ there only, and not when such a file is written anew. -/
theorem disabling_is_filter (t : FileTree) (c : Catalogue) (enabled : Bool) (paths : List String)
    (disabled : List Value) (good : ∀ v ∈ disabled, (RuleName.ofValue? v).isSome = true) :
    let names := disabled.filterMap RuleName.ofValue?
    let result := loadRules t c enabled paths disabled
    (∀ more, (∀ v ∈ more, (RuleName.ofValue? v).isSome = true) → (∀ v ∈ disabled, v ∈ more) →
      ∀ rules, result.outcome = .ok rules →
        (loadRules t c enabled paths more).outcome =
          .ok (enabledRules (more.filterMap RuleName.ofValue?) rules)) ∧
    (∀ others, (∀ v, v ∈ others ↔ v ∈ disabled) →
      loadRules t c enabled paths others = result) ∧
    (∀ unknown, (∀ v ∈ unknown, (RuleName.ofValue? v).isSome = true) →
      (∀ s ∈ candidates t c enabled paths [], .text s.name ∉ unknown) →
        loadRules t c enabled paths (disabled ++ unknown) = result) ∧
    (∀ u, t.SameBut u (IsSkipped names) → loadRules u c enabled paths disabled = result) ∧
    ∀ place content, t.IsSound → t.isFileAt place = true →
      IsSkipped names (Path.stemOf (place.getLast?.getD "")) →
        loadRules (t.writeAt place content) c enabled paths disabled = result := by
  intro names result
  refine ⟨?_, ?_, ?_, ?_, ?_⟩
  · intro more good' sub rules ok
    exact loadRules_filters t c enabled paths good good' sub ok
  · intro others same
    have good' : ∀ v ∈ others, (RuleName.ofValue? v).isSome = true := by
      intro v hv
      exact good v ((same v).1 hv)
    apply loadRules_congr good good'
    intro s _
    simp only [List.mem_filterMap, same]
  · intro unknown good' absent
    apply loadRules_congr good
    · intro v hv
      exact (List.mem_append.1 hv).elim (good v) (good' v)
    · intro s found
      rw [List.filterMap_append, List.mem_append, or_iff_left]
      intro mem
      obtain ⟨v, hv, named⟩ := List.mem_filterMap.1 mem
      exact absent s found (RuleName.eq_of_ofValue? named ▸ hv)
  · intro u same
    exact loadRules_of_sameBut c enabled paths good same
  · intro place content sound isFile skipped
    exact loadRules_of_sameBut c enabled paths good
      (FileTree.sameBut_writeAt sound isFile content skipped)

/-- A rule file that has no factory, and notes. -/
def customFiles : FileTree where
  directories := [["custom"]]
  files := [(["custom", "loud.py"], .module .bare), (["custom", "_notes.py"], .module .bare)]

/-- Loads the shipped rules and those of `customFiles`. -/
def loadCustomFiles (t : FileTree) (disabled : List Value) : LoadResult :=
  loadRules t {} true ["custom/loud.py", "custom/_notes.py"] disabled

theorem disabling_is_filter_of_customFiles :
    let loud := Value.text "rulecheck.rules.loud"
    let long := Value.text "rulecheck.rules.line_length"
    let misfit := Content.module (.factory (.value .null))
    customFiles.IsSound ∧
      (∃ rules, (loadCustomFiles customFiles [loud]).outcome = .ok rules ∧
        (loadCustomFiles customFiles [loud, long]).outcome =
          .ok (enabledRules ["rulecheck.rules.loud", "rulecheck.rules.line_length"] rules)) ∧
      loadCustomFiles customFiles [loud, loud] = loadCustomFiles customFiles [loud] ∧
      loadCustomFiles (customFiles.writeAt ["custom", "loud.py"] misfit) [loud] =
        loadCustomFiles customFiles [loud] ∧
      loadCustomFiles (customFiles.writeAt ["custom", "_notes.py"] misfit) [loud] =
        loadCustomFiles customFiles [loud] := by
  intro loud long misfit
  have sound : customFiles.IsSound := by
    constructor
    · intro place there
      have known : (place = [] ∨ place = ["custom"]) ∨
          ["custom", "loud.py"] = place ∨ ["custom", "_notes.py"] = place := by
        simpa [FileTree.existsAt, FileTree.isDirectoryAt, FileTree.isFileAt, customFiles]
          using there
      rcases known with (rfl | rfl) | rfl | rfl <;> decide
    · intro place directory
      have known : place = [] ∨ place = ["custom"] := by
        simpa [FileTree.isDirectoryAt, customFiles] using directory
      rcases known with rfl | rfl <;> decide
  obtain ⟨filters, only, -, -, written⟩ := disabling_is_filter customFiles {} true
    ["custom/loud.py", "custom/_notes.py"] [loud] (by decide +kernel)
  refine ⟨sound, ?_, only [loud, loud] (by simp), ?_, ?_⟩
  · have ok : (loadCustomFiles customFiles [loud]).outcome.toOption.isSome = true := by
      decide +kernel
    cases loaded : (loadCustomFiles customFiles [loud]).outcome with
    | error e => simp [loaded, Except.toOption] at ok
    | ok rules =>
      exact ⟨rules, rfl, filters [loud, long] (by decide +kernel) (by simp) rules loaded⟩
  · exact written _ misfit sound (by decide +kernel) (.inl (by decide +kernel))
  · exact written _ misfit sound (by decide +kernel) (.inr (by decide +kernel))

end SourceAudit
