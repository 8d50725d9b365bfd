import SourceAudit.Proofs.PathText
import SourceAudit.Registry.Load

/-!
# What loading rules gives

The rule files to load are known from the paths and the disabled names alone (`candidates`). Each
gives a rule by itself (`Candidate.Gives`) or is refused for one of ten reasons
(`Candidate.Blocks`), of which only two look at what was loaded before. Loading keeps the rules of
the candidates so far, in order and under distinct names (`Progress`), so it succeeds exactly when
every path exists, every candidate gives a rule and no name comes twice, and otherwise ends with
the first candidate or path that is refused.
-/

namespace SourceAudit

/-- Something is at the path. -/
def FileTree.Has (t : FileTree) (path : String) : Prop :=
  ∃ place, t.find? (Path.ofString path) = .ok (some place)

/-- The module of a custom rule file: its suffix tells a form, in which it can be imported. -/
def RuleFile.module? (f : RuleFile) : Option RuleModule :=
  f.form?.bind fun form => (f.imports form).toOption

/-- The factory of a custom rule file: its module loads and defines something that can be called. -/
def RuleFile.factory? (f : RuleFile) : Option Factory :=
  match f.module? with
  | some (.factory g) => if g.isCallable then some g else none
  | _ => none

/-- What loading the module of a custom rule file raises. -/
def RuleFile.raises? (f : RuleFile) : Option Raised :=
  match f.module? with
  | some (.raises e) => some e
  | _ => none

/-- The factory makes a rule with the given name and a check. -/
def Factory.Makes (g : Factory) (name : String) (r : Rule) : Prop :=
  g.call = .ok (.rule r) ∧ r.hasCheck = true ∧ r.name? = some (.text name)

namespace Registry

/-- A rule file to load. -/
structure Candidate where
  /-- Whether its factory comes from the table of built-in rules. -/
  isBuiltin : Bool
  file : RuleFile

namespace Candidate

/-- The name of the rule. -/
def name (s : Candidate) : String :=
  s.file.name

/-- The factory, from the table or from the file. -/
def factory? (c : Catalogue) (s : Candidate) : Option Factory :=
  if s.isBuiltin then (c.table.find? (·.1 == s.file.stem)).map (·.2) else s.file.factory?

/-- The candidate gives the rule. -/
def Gives (c : Catalogue) (s : Candidate) (r : Rule) : Prop :=
  ∃ g, s.factory? c = some g ∧ g.Makes s.name r

/-- Why a candidate is refused when rules of the given names are loaded. A custom file is refused
for its name before it is looked at, a built-in one only when its rule is made. -/
inductive Blocks (c : Catalogue) (names : List String) : Candidate → Fault → Prop
  | noBuiltin {f : RuleFile} (absent : c.table.find? (·.1 == f.stem) = none) :
    Blocks c names ⟨true, f⟩ (.refused (.noBuiltin f.shown))
  | definedTwice {f : RuleFile} {r : Rule} (made : Gives c ⟨true, f⟩ r) (taken : f.name ∈ names) :
    Blocks c names ⟨true, f⟩ (.refused (.definedTwice f.name))
  | alreadyLoaded {f : RuleFile} (taken : f.name ∈ names) :
    Blocks c names ⟨false, f⟩ (.refused (.alreadyLoaded f.name f.shown))
  | notLoadable {f : RuleFile} (new : f.name ∉ names) (suffix : f.form? = none) :
    Blocks c names ⟨false, f⟩ (.refused (.notLoadable f.shown))
  | notLinked {f : RuleFile} (new : f.name ∉ names) (suffix : f.form? = some .native)
      (absent : f.module? = none) :
    Blocks c names ⟨false, f⟩ .notLinked
  | moduleFailed {f : RuleFile} {e : Raised} (new : f.name ∉ names) (raised : f.raises? = some e) :
    Blocks c names ⟨false, f⟩ (loadFault (.raised e) (.moduleFailed f.shown))
  | noFactory {f : RuleFile} {m : RuleModule} (new : f.name ∉ names)
      (imported : f.module? = some m) (quiet : f.raises? = none) (absent : f.factory? = none) :
    Blocks c names ⟨false, f⟩ (.refused (.noFactory f.shown))
  | factoryFailed {s : Candidate} {g : Factory} {x : Failure}
      (new : s.isBuiltin = false → s.name ∉ names) (found : s.factory? c = some g)
      (failed : g.call = .error x) :
    Blocks c names s (loadFault x (.factoryFailed s.file.shown))
  | notARule {s : Candidate} {g : Factory} {p : Product}
      (new : s.isBuiltin = false → s.name ∉ names) (found : s.factory? c = some g)
      (called : g.call = .ok p) (other : ∀ r, p = .rule r → r.conforms = false) :
    Blocks c names s (.refused (.notARule s.file.shown))
  | misnamed {s : Candidate} {g : Factory} {r : Rule} {v : Value}
      (new : s.isBuiltin = false → s.name ∉ names) (found : s.factory? c = some g)
      (called : g.call = .ok (.rule r)) (conforms : r.conforms = true) (named : r.name? = some v)
      (wrong : v ≠ .text s.name) :
    Blocks c names s (.refused (.misnamed s.file.shown v s.name))

/-- A candidate that gives a rule under a new name is not refused. -/
theorem not_blocks {c : Catalogue} {names : List String} {s : Candidate} {r : Rule} {e : Fault}
    (gives : s.Gives c r) (new : s.name ∉ names) : ¬ s.Blocks c names e := by
  obtain ⟨g, found, called, check, named⟩ := gives
  intro blocked
  cases blocked with
  | noBuiltin absent => simp [factory?, absent] at found
  | definedTwice _ taken => exact new taken
  | alreadyLoaded taken => exact new taken
  | notLoadable _ suffix => simp [factory?, RuleFile.factory?, RuleFile.module?, suffix] at found
  | notLinked _ _ absent => simp [factory?, RuleFile.factory?, absent] at found
  | moduleFailed _ raised =>
    simp only [factory?, RuleFile.factory?, RuleFile.raises?] at found raised
    split at raised <;> simp_all
  | noFactory _ _ _ absent => simp [factory?, absent] at found
  | factoryFailed _ found' failed =>
    cases found.symm.trans found'
    cases called.symm.trans failed
  | notARule _ found' called' other =>
    cases found.symm.trans found'
    cases called.symm.trans called'
    have conforms : r.conforms = true := by simp [Rule.conforms, check, named]
    rw [other r rfl] at conforms
    cases conforms
  | misnamed _ found' called' _ named' wrong =>
    cases found.symm.trans found'
    cases called.symm.trans called'
    cases named.symm.trans named'
    exact wrong rfl

/-- Loads the candidate. -/
def load (c : Catalogue) (l : Loaded) (s : Candidate) : Except Fault Loaded :=
  if s.isBuiltin then loadBuiltin c l s.file else loadCustom l s.file

end Candidate

/-! ## One candidate -/

theorem isNamed_iff {name : String} {r : Rule} :
    isNamed name r = true ↔ r.name? = some (.text name) := by
  unfold isNamed
  split
  · rename_i s h
    rw [h, beq_iff_eq, Option.some.injEq, Value.text.injEq]
  · rename_i other
    simp only [Bool.false_eq_true, false_iff]
    exact other name

/-- The names of the loaded rules. -/
def Loaded.names (l : Loaded) : List String :=
  l.rules.map (·.1)

theorem Loaded.has_iff {l : Loaded} {name : String} : l.has name = true ↔ name ∈ l.names := by
  simp [has, names]

@[simp] theorem Loaded.rules_push (l : Loaded) (name : String) (r : Rule) :
    (l.push name r).rules = l.rules ++ [(name, r)] := rfl

section

variable {c : Catalogue} (names : List String)

theorem instantiate_cases {s : Candidate} {g : Factory}
    (new : s.isBuiltin = false → s.name ∉ names) (found : s.factory? c = some g) :
    (∃ r, s.Gives c r ∧ instantiate s.name g s.file.shown = .ok r) ∨
      ∃ e, s.Blocks c names e ∧ instantiate s.name g s.file.shown = .error e := by
  unfold instantiate
  cases called : g.call with
  | error x => exact .inr ⟨_, .factoryFailed new found called, rfl⟩
  | ok p =>
    cases p with
    | value v => exact .inr ⟨_, .notARule new found called (by simp), rfl⟩
    | rule r =>
      by_cases conforms : r.conforms = true
      · have parts : r.name?.isSome = true ∧ r.hasCheck = true := by
          simpa [Rule.conforms] using conforms
        obtain ⟨v, named⟩ := Option.isSome_iff_exists.1 parts.1
        by_cases right : isNamed s.name r = true
        · refine .inl ⟨r, ⟨g, found, called, parts.2, isNamed_iff.1 right⟩, ?_⟩
          simp [conforms, right]
        · refine .inr ⟨_, .misnamed new found called conforms named ?_, ?_⟩
          · intro same
            exact right (isNamed_iff.2 (same ▸ named))
          · simp [conforms, right, named]
      · refine .inr ⟨_, .notARule new found called ?_, by simp [conforms]⟩
        intro r' same
        cases same
        simpa using conforms

theorem imports_eq_error {f : RuleFile} {form : ModuleForm} {e : Fault}
    (failed : f.imports form = .error e) : form = .native ∧ e = .notLinked := by
  unfold RuleFile.imports at failed
  split at failed <;> cases failed
  exact ⟨rfl, rfl⟩

theorem customFactory_cases {f : RuleFile} (new : f.name ∉ names) :
    (∃ g, f.factory? = some g ∧ customFactory f = .ok g) ∨
      ∃ e, Candidate.Blocks c names ⟨false, f⟩ e ∧ customFactory f = .error e := by
  unfold customFactory
  cases suffix : f.form? with
  | none => exact .inr ⟨_, .notLoadable new suffix, rfl⟩
  | some form =>
    have module : f.module? = (f.imports form).toOption := by
      rw [RuleFile.module?, suffix, Option.bind_some]
    dsimp only
    cases imported : f.imports form with
    | error e =>
      obtain ⟨rfl, rfl⟩ := imports_eq_error imported
      rw [imported] at module
      exact .inr ⟨_, .notLinked new suffix module, rfl⟩
    | ok m =>
      rw [imported] at module
      cases m with
      | raises e => exact .inr ⟨_, .moduleFailed new (by rw [RuleFile.raises?, module]; rfl), rfl⟩
      | bare =>
        refine .inr ⟨_, .noFactory new module ?_ ?_, rfl⟩
        · rw [RuleFile.raises?, module]
          rfl
        · rw [RuleFile.factory?, module]
          rfl
      | factory g =>
        have quiet : f.raises? = none := by
          rw [RuleFile.raises?, module]
          rfl
        have found : f.factory? = if g.isCallable then some g else none := by
          rw [RuleFile.factory?, module]
          rfl
        by_cases callable : g.isCallable = true
        · rw [if_pos callable] at found
          exact .inl ⟨g, found, if_pos callable⟩
        · rw [if_neg callable] at found
          exact .inr ⟨_, .noFactory new module quiet found, if_neg callable⟩

/-- Loading a candidate adds the rule it gives, under a new name, or refuses it. -/
theorem Candidate.load_cases (c : Catalogue) (l : Loaded) (s : Candidate) :
    (∃ r, s.Gives c r ∧ s.name ∉ l.names ∧ s.load c l = .ok (l.push s.name r)) ∨
      ∃ e, s.Blocks c l.names e ∧ s.load c l = .error e := by
  obtain ⟨isBuiltin, f⟩ := s
  cases isBuiltin with
  | true =>
    simp only [load, if_true, loadBuiltin]
    cases entry : c.table.find? (·.1 == f.stem) with
    | none => exact .inr ⟨_, .noBuiltin entry, rfl⟩
    | some pair =>
      obtain ⟨stem, g⟩ := pair
      have found : factory? c ⟨true, f⟩ = some g := by simp [factory?, entry]
      rcases instantiate_cases l.names (s := ⟨true, f⟩) (by simp) found with
        ⟨r, gives, made⟩ | ⟨e, blocked, failed⟩
      · replace made : instantiate f.name g f.shown = .ok r := made
        by_cases taken : l.has f.name = true
        · refine .inr ⟨_, .definedTwice gives (Loaded.has_iff.1 taken), ?_⟩
          simp only [made, taken, if_true]
        · refine .inl ⟨r, gives, fun old => taken (Loaded.has_iff.2 old), ?_⟩
          simp only [made, taken]
          rfl
      · replace failed : instantiate f.name g f.shown = .error e := failed
        exact .inr ⟨e, blocked, by simp only [failed]⟩
  | false =>
    simp only [load, Bool.false_eq_true, if_false, loadCustom]
    by_cases taken : l.has f.name = true
    · refine .inr ⟨_, .alreadyLoaded (Loaded.has_iff.1 taken), ?_⟩
      simp only [taken, if_true]
    · have new : f.name ∉ l.names := fun old => taken (Loaded.has_iff.2 old)
      simp only [taken, Bool.false_eq_true, if_false]
      rcases customFactory_cases (c := c) l.names new with ⟨g, found, loaded⟩ | ⟨e, blocked, failed⟩
      · rcases instantiate_cases (c := c) l.names (s := ⟨false, f⟩) (fun _ => new) found with
          ⟨r, gives, made⟩ | ⟨e, blocked, failed⟩
        · replace made : instantiate f.name g f.shown = .ok r := made
          refine .inl ⟨r, gives, new, ?_⟩
          simp only [loaded, made]
          rfl
        · replace failed : instantiate f.name g f.shown = .error e := failed
          exact .inr ⟨e, blocked, by simp only [loaded, failed]⟩
      · exact .inr ⟨e, blocked, by simp only [failed]⟩

end

/-! ## Tasks -/

/-- The candidate that a task is about. -/
def candidate? : LoadTask → Option Candidate
  | .builtin f => some ⟨true, f⟩
  | .custom f => some ⟨false, f⟩
  | _ => none

/-- The candidates of tasks, without those that are disabled. -/
def wanted (disabled : List String) (tasks : List LoadTask) : List Candidate :=
  (tasks.filterMap candidate?).filter fun s => !disabled.contains s.name

theorem wanted_append (disabled : List String) (tasks more : List LoadTask) :
    wanted disabled (tasks ++ more) = wanted disabled tasks ++ wanted disabled more := by
  rw [wanted, List.filterMap_append, List.filter_append]
  rfl

/-- Nothing stands in the way of tasks: every path exists, every candidate gives a rule, and no
name comes twice. -/
structure Clear (c : Catalogue) (disabled : List String) (tasks : List LoadTask) : Prop where
  found : ∀ f, .stop f ∉ tasks
  gives : ∀ s ∈ wanted disabled tasks, ∃ r, s.Gives c r
  distinct : ((wanted disabled tasks).map Candidate.name).Nodup

/-- The first obstacle: a path that does not exist, or a candidate that is refused when those
before it are loaded. -/
def Stops (c : Catalogue) (disabled : List String) (done : List LoadTask) (task : LoadTask)
    (f : Fault) : Prop :=
  task = .stop f ∨ ∃ s, wanted disabled [task] = [s] ∧
    s.Blocks c ((wanted disabled done).map Candidate.name) f

/-- What is loaded when tasks are done. -/
structure Progress (c : Catalogue) (disabled : List String) (done : List LoadTask)
    (l : Loaded) : Prop extends Clear c disabled done where
  names : l.names = (wanted disabled done).map Candidate.name
  rules : ∀ p ∈ (wanted disabled done).zip l.rules, p.1.Gives c p.2.2
  named : ∀ p ∈ l.rules, p.2.name? = some (.text p.1)

section

variable {c : Catalogue} {disabled : List String}

theorem wanted_singleton {task : LoadTask} {s : Candidate} (about : candidate? task = some s) :
    wanted disabled [task] = if disabled.contains s.name then [] else [s] := by
  rw [wanted, List.filterMap_cons, about, List.filterMap_nil]
  simp only [List.filter_cons, List.filter_nil]
  cases disabled.contains s.name <;> rfl

theorem performTask_of_candidate {task : LoadTask} {s : Candidate}
    (about : candidate? task = some s) (l : Loaded) :
    performTask c disabled l task =
      if disabled.contains s.name then .ok (l.noteRule "Skipping disabled rule" s.name)
      else s.load c l := by
  cases task with
  | note e => cases about
  | stop f => cases about
  | builtin f =>
    cases about
    rfl
  | custom f =>
    cases about
    rfl

/-- A task fails, changes nothing but the log, or loads a candidate. -/
theorem performTask_cases (c : Catalogue) (disabled : List String) (l : Loaded) (task : LoadTask) :
    (∃ f, task = .stop f ∧ performTask c disabled l task = .error f) ∨
      (∀ f, task ≠ .stop f) ∧
        ((wanted disabled [task] = [] ∧
            ∃ l', performTask c disabled l task = .ok l' ∧ l'.rules = l.rules) ∨
          ∃ s, wanted disabled [task] = [s] ∧ performTask c disabled l task = s.load c l) := by
  cases about : candidate? task with
  | none =>
    cases task with
    | note e => exact .inr ⟨by simp, .inl ⟨rfl, l.note e, rfl, rfl⟩⟩
    | stop f => exact .inl ⟨f, rfl, rfl⟩
    | builtin f => cases about
    | custom f => cases about
  | some s =>
    refine .inr ⟨?_, ?_⟩
    · rintro f rfl
      cases about
    · rw [wanted_singleton about, performTask_of_candidate about]
      by_cases skipped : disabled.contains s.name = true
      · rw [if_pos skipped, if_pos skipped]
        exact .inl ⟨rfl, l.noteRule "Skipping disabled rule" s.name, rfl, rfl⟩
      · rw [if_neg skipped, if_neg skipped]
        exact .inr ⟨s, rfl, rfl⟩

/-- One task: either it is done and everything said about the tasks before it holds with it, or it
stops loading. -/
theorem Progress.step {done : List LoadTask} {l : Loaded} (progress : Progress c disabled done l)
    (task : LoadTask) :
    (∃ l', performTask c disabled l task = .ok l' ∧ Progress c disabled (done ++ [task]) l') ∨
      ∃ f, performTask c disabled l task = .error f ∧ Stops c disabled done task f := by
  rcases performTask_cases c disabled l task with ⟨f, rfl, failed⟩ | ⟨going, kind⟩
  · exact .inr ⟨f, failed, .inl rfl⟩
  have found : ∀ f, .stop f ∉ done ++ [task] := by
    intro f hf
    rcases List.mem_append.1 hf with hf | hf
    · exact progress.found f hf
    · exact going f (List.mem_singleton.1 hf).symm
  rcases kind with ⟨nothing, l', done', same⟩ | ⟨s, single, loading⟩
  · have still : wanted disabled (done ++ [task]) = wanted disabled done := by
      rw [wanted_append, nothing, List.append_nil]
    refine .inl ⟨l', done', ⟨found, ?_, ?_⟩, ?_, ?_, ?_⟩
    · rw [still]
      exact progress.gives
    · rw [still]
      exact progress.distinct
    · rw [still, ← progress.names, Loaded.names, same, Loaded.names]
    · rw [still, same]
      exact progress.rules
    · rw [same]
      exact progress.named
  · have more : wanted disabled (done ++ [task]) = wanted disabled done ++ [s] := by
      rw [wanted_append, single]
    rw [loading]
    rcases s.load_cases c l with ⟨r, gives, new, loaded⟩ | ⟨e, blocked, failed⟩
    · rw [progress.names] at new
      refine .inl ⟨_, loaded, ⟨found, ?_, ?_⟩, ?_, ?_, ?_⟩
      · rw [more]
        intro u hu
        rcases List.mem_append.1 hu with hu | hu
        · exact progress.gives u hu
        · rw [List.mem_singleton.1 hu]
          exact ⟨r, gives⟩
      · rw [more, List.map_append, List.nodup_append]
        refine ⟨progress.distinct, by simp, ?_⟩
        intro a old b last
        rw [List.map_singleton, List.mem_singleton] at last
        rintro rfl
        exact new (last ▸ old)
      · rw [more, List.map_append, ← progress.names, Loaded.names, Loaded.rules_push,
          List.map_append]
        rfl
      · have length : (wanted disabled done).length = l.rules.length := by
          have both := congrArg List.length progress.names
          simpa [Loaded.names] using both.symm
        rw [more, Loaded.rules_push, List.zip_append length]
        intro p hp
        rcases List.mem_append.1 hp with hp | hp
        · exact progress.rules p hp
        · rw [List.zip_cons_cons, List.zip_nil_left, List.mem_singleton] at hp
          rw [hp]
          exact gives
      · intro p hp
        rw [Loaded.rules_push] at hp
        rcases List.mem_append.1 hp with hp | hp
        · exact progress.named p hp
        · obtain ⟨g, -, -, -, named⟩ := gives
          rw [List.mem_singleton.1 hp]
          exact named
    · rw [progress.names] at blocked
      exact .inr ⟨e, failed, .inr ⟨s, single, blocked⟩⟩

/-- All tasks: either all are done, or the first that stops is the fault. -/
theorem Progress.run {done : List LoadTask} {l : Loaded} (progress : Progress c disabled done l)
    (tasks : List LoadTask) :
    ((perform c disabled l tasks).2 = none ∧
        Progress c disabled (done ++ tasks) (perform c disabled l tasks).1) ∨
      ∃ first task rest f, tasks = first ++ task :: rest ∧
        (perform c disabled l tasks).2 = some f ∧ Clear c disabled (done ++ first) ∧
        Stops c disabled (done ++ first) task f := by
  induction tasks generalizing done l with
  | nil =>
    refine .inl ⟨rfl, ?_⟩
    rw [List.append_nil]
    exact progress
  | cons task tasks ih =>
    rcases progress.step task with ⟨l', ok, next⟩ | ⟨f, failed, stops⟩
    · simp only [perform, ok]
      rcases ih next with ⟨none, last⟩ | ⟨first, stop, rest, f, split, fault, clear, stops⟩
      · rw [List.append_assoc] at last
        exact .inl ⟨none, last⟩
      · rw [List.append_assoc] at clear stops
        refine .inr ⟨task :: first, stop, rest, f, ?_, fault, clear, stops⟩
        rw [split, List.cons_append]
    · simp only [perform, failed]
      refine .inr ⟨[], task, tasks, f, rfl, rfl, ?_, ?_⟩
      · rw [List.append_nil]
        exact progress.toClear
      · rw [List.append_nil]
        exact stops

end

/-! ## The plan -/

/-- The rule files at a path, in order. -/
def ruleFilesAt (t : FileTree) (path : String) : List RuleFile :=
  match discover t (Path.normalize path) defaultExtensions with
  | .error _ => []
  | .ok d => (d.files.map (ruleFile t)).filter RuleFile.isRuleFile

/-- The built-in rule files, in order. -/
def builtinFiles (t : FileTree) (c : Catalogue) : List RuleFile :=
  match c.directory with
  | some path => ruleFilesAt t path
  | none => shippedFiles.filter RuleFile.isRuleFile

/-- The rule files to load: the built-in ones, then those of each path, without the disabled. -/
def candidates (t : FileTree) (c : Catalogue) (enabled : Bool) (paths disabled : List String) :
    List Candidate :=
  ((if enabled then (builtinFiles t c).map (Candidate.mk true) else []) ++
    paths.zipIdx.flatMap fun (path, index) =>
      (ruleFilesAt t path).map fun f => Candidate.mk false { f with index := index }).filter
    fun s => !disabled.contains s.name

/-- The path is one whose rules are to be loaded. -/
def IsSource (c : Catalogue) (enabled : Bool) (paths : List String) (path : String) : Prop :=
  (enabled = true ∧ c.directory = some path) ∨ path ∈ paths

/-- The fault about a path that does not exist, or of which nobody can tell. -/
def Missing (t : FileTree) (path : String) (f : Fault) : Prop :=
  (t.find? (Path.ofString path) = .ok none ∧
      f = .refused (.inputNotFound (Path.normalize path))) ∨
    ∃ e, t.find? (Path.ofString path) = .error e ∧ f = .file e

section

variable {t : FileTree} {c : Catalogue} {enabled : Bool} {paths : List String}

theorem discover_cases (t : FileTree) (path : String) (extensions : List String) :
    (t.Has path ∧ ∃ d, discover t (Path.normalize path) extensions = .ok d) ∨
      ∃ f, Missing t path f ∧ discover t (Path.normalize path) extensions = .error f := by
  unfold discover
  rw [Path.ofString_normalize]
  cases found : t.find? (Path.ofString path) with
  | error e => exact .inr ⟨.file e, .inr ⟨e, found, rfl⟩, by simp only [found]⟩
  | ok place =>
    cases place with
    | none => exact .inr ⟨_, .inl ⟨found, rfl⟩, by simp only [found]⟩
    | some place =>
      refine .inl ⟨⟨place, found⟩, ?_⟩
      simp only [found]
      split
      · exact ⟨_, rfl⟩
      · exact ⟨_, rfl⟩

/-- A path gives what there is to do for its rule files, or is missing. -/
theorem tasksOf_cases (t : FileTree) (path : String) (task : RuleFile → LoadTask) :
    (t.Has path ∧ ∃ log : List LogEntry,
        tasksOf t path task = log.map .note ++ (ruleFilesAt t path).map task) ∨
      ∃ f, Missing t path f ∧ ruleFilesAt t path = [] ∧ tasksOf t path task = [.stop f] := by
  unfold tasksOf ruleFilesAt
  rcases discover_cases t path defaultExtensions with ⟨has, d, found⟩ | ⟨f, missing, failed⟩
  · rw [found]
    exact .inl ⟨has, d.log, rfl⟩
  · rw [failed]
    exact .inr ⟨f, missing, rfl, rfl⟩

theorem filterMap_tasksOf (t : FileTree) (path : String) {task : RuleFile → LoadTask}
    {make : RuleFile → Candidate} (about : ∀ f, candidate? (task f) = some (make f)) :
    (tasksOf t path task).filterMap candidate? = (ruleFilesAt t path).map make := by
  rcases tasksOf_cases t path task with ⟨-, log, tasks⟩ | ⟨f, -, nothing, tasks⟩
  · have notes : (log.map LoadTask.note).filterMap candidate? = [] := by
      simp [List.filterMap_eq_nil_iff, candidate?]
    rw [tasks, List.filterMap_append, notes, List.nil_append, List.filterMap_map]
    simp only [Function.comp_def, about, List.filterMap_eq_map']
  · rw [tasks, nothing]
    rfl

theorem stop_mem_tasksOf {path : String} {task : RuleFile → LoadTask} {f : Fault}
    (going : ∀ g, task g ≠ .stop f) (mem : .stop f ∈ tasksOf t path task) : Missing t path f := by
  rcases tasksOf_cases t path task with ⟨-, log, tasks⟩ | ⟨e, missing, -, tasks⟩
  · rw [tasks, List.mem_append] at mem
    rcases mem with mem | mem
    · simp at mem
    · obtain ⟨g, -, same⟩ := List.mem_map.1 mem
      exact absurd same (going g)
  · rw [tasks, List.mem_singleton, LoadTask.stop.injEq] at mem
    exact mem ▸ missing

theorem filterMap_builtinTasks (t : FileTree) (c : Catalogue) :
    (builtinTasks t c).filterMap candidate? = (builtinFiles t c).map (Candidate.mk true) := by
  unfold builtinTasks builtinFiles
  cases c.directory with
  | some path => exact filterMap_tasksOf t path fun _ => rfl
  | none =>
    rw [List.filterMap_cons]
    simp only [candidate?, List.filterMap_map, Function.comp_def, List.filterMap_eq_map']

theorem wanted_plan (disabled : List String) :
    wanted disabled (plan t c enabled paths) = candidates t c enabled paths disabled := by
  have first : (if enabled then builtinTasks t c else []).filterMap candidate? =
      if enabled then (builtinFiles t c).map (Candidate.mk true) else [] := by
    cases enabled with
    | true => exact filterMap_builtinTasks t c
    | false => rfl
  have further : ∀ p : String × Nat,
      (tasksOf t p.1 fun f => .custom { f with index := p.2 }).filterMap candidate? =
        (ruleFilesAt t p.1).map fun f => Candidate.mk false { f with index := p.2 } :=
    fun p => filterMap_tasksOf t p.1 fun _ => rfl
  rw [wanted, plan, List.filterMap_append, first, List.filterMap_flatMap]
  simp only [further]
  rfl

theorem stop_mem_plan {f : Fault} (mem : .stop f ∈ plan t c enabled paths) :
    ∃ path, IsSource c enabled paths path ∧ Missing t path f := by
  rcases List.mem_append.1 mem with mem | mem
  · cases enabled with
    | false => cases mem
    | true =>
      simp only [if_true, builtinTasks] at mem
      cases directory : c.directory with
      | some path =>
        rw [directory] at mem
        exact ⟨path, .inl ⟨rfl, directory⟩, stop_mem_tasksOf (by simp) mem⟩
      | none => simp [directory] at mem
  · obtain ⟨⟨path, index⟩, entry, mem⟩ := List.mem_flatMap.1 mem
    exact ⟨path, .inr (List.fst_mem_of_mem_zipIdx entry), stop_mem_tasksOf (by simp) mem⟩

theorem disabledNames_eq (disabled : List Value) :
    disabledNames disabled =
      match disabled.find? fun v => (RuleName.ofValue? v).isNone with
      | some v => .error (.badRuleName v)
      | none => .ok (disabled.filterMap RuleName.ofValue?) := by
  induction disabled with
  | nil => rfl
  | cons v vs ih =>
    cases name : RuleName.ofValue? v with
    | none => simp [disabledNames, name]
    | some n =>
      simp only [disabledNames, name, ih, List.find?_cons, Option.isNone_some,
        List.filterMap_cons_some name]
      cases vs.find? fun v => (RuleName.ofValue? v).isNone with
      | none => rfl
      | some bad => rfl

end

end Registry

open Registry

theorem loadRules_of_malformed {t : FileTree} {c : Catalogue} {enabled : Bool} {paths : List String}
    {disabled : List Value} {v : Value}
    (first : disabled.find? (fun v => (RuleName.ofValue? v).isNone) = some v) :
    loadRules t c enabled paths disabled = ⟨.error (.refused (.badRuleName v)), []⟩ := by
  have list := disabledNames_eq disabled
  rw [first] at list
  rw [loadRules, list]

/-- Loading succeeds with well-formed disabled names only. -/
theorem isSome_ofValue?_of_loadRules {t : FileTree} {c : Catalogue} {enabled : Bool}
    {paths : List String} {disabled : List Value} {rules : List (String × Rule)}
    (ok : (loadRules t c enabled paths disabled).outcome = .ok rules) :
    ∀ v ∈ disabled, (RuleName.ofValue? v).isSome = true := by
  intro v mem
  cases named : RuleName.ofValue? v with
  | some name => rfl
  | none =>
    have found : (disabled.find? fun v => (RuleName.ofValue? v).isNone).isSome = true := by
      rw [List.find?_isSome]
      exact ⟨v, mem, by rw [named]; rfl⟩
    obtain ⟨first, isFirst⟩ := Option.isSome_iff_exists.1 found
    rw [loadRules_of_malformed isFirst] at ok
    cases ok

/-- Loading with well-formed disabled names. -/
theorem loadRules_cases (t : FileTree) (c : Catalogue) (enabled : Bool) (paths : List String)
    {disabled : List Value} (good : ∀ v ∈ disabled, (RuleName.ofValue? v).isSome = true) :
    let names := disabled.filterMap RuleName.ofValue?
    (∃ l, (loadRules t c enabled paths disabled).outcome = .ok l.rules ∧
        Progress c names (plan t c enabled paths) l) ∨
      ∃ done task rest f, plan t c enabled paths = done ++ task :: rest ∧
        (loadRules t c enabled paths disabled).outcome = .error f ∧ Clear c names done ∧
        Stops c names done task f := by
  intro names
  have none : disabled.find? (fun v => (RuleName.ofValue? v).isNone) = none := by
    rw [List.find?_eq_none]
    intro v hv
    obtain ⟨name, named⟩ := Option.isSome_iff_exists.1 (good v hv)
    simp [named]
  have list := disabledNames_eq disabled
  rw [none] at list
  have start : Progress c names [] {} := by
    refine ⟨⟨by simp, by simp [wanted], by simp [wanted]⟩, rfl, by simp, by simp⟩
  rcases start.run (plan t c enabled paths) with
    ⟨ok, all⟩ | ⟨done, task, rest, f, split, fault, before, stops⟩
  · refine .inl ⟨_, ?_, all⟩
    simp only [loadRules, list, names, ok]
  · refine .inr ⟨done, task, rest, f, split, ?_, before, stops⟩
    simp only [loadRules, list, names, fault]

example : (loadRules {} {} true [] [.text "rulecheck.rules.line_length"]).outcome.toOption.map
    (·.map (·.1)) = some ["rulecheck.rules.bare_except", "rulecheck.rules.tab_indentation",
      "rulecheck.rules.todo_comment", "rulecheck.rules.trailing_whitespace"] := by
  decide +kernel

end SourceAudit
