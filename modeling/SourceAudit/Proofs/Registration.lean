import Mathlib.Data.List.Induction
import Mathlib.Data.List.Nodup
import SourceAudit.Proofs.Loading
import SourceAudit.Registry

/-!
# What a registry remembers

A registry is set up and loaded by operations, of which each may be refused. What it holds after any
sequence of them is read off the sequence alone: the paths and names that were accepted, in the
order in which they first came, the last flag that was one, and the rules of the last load that
succeeded. The rules are kept under the names that they give themselves. None is lost by that,
because a load that succeeds has checked these names and that none comes twice (`IsIndex`).
-/

namespace SourceAudit

namespace Registry

/-- Rules under their own names, none of which comes twice. -/
structure IsIndex (rules : List (String × Rule)) : Prop where
  named : ∀ p ∈ rules, p.2.name? = some (.text p.1)
  distinct : (rules.map (·.1)).Nodup

theorem put_of_notMem {done : List (String × Rule)} {rule : Rule} {name : String}
    (named : rule.name? = some (.text name)) (new : name ∉ done.map (·.1)) :
    put done rule = done ++ [(name, rule)] := by
  have free : done.any (·.1 == name) = false := by
    rw [List.any_eq_false]
    intro p mem same
    exact new (List.mem_map.2 ⟨p, mem, eq_of_beq same⟩)
  simp only [put, named, free, Bool.false_eq_true, if_false]

/-- Rules that are put one after the other stay in order, behind those that are there. -/
theorem foldl_put {done rest : List (String × Rule)} (index : IsIndex (done ++ rest)) :
    (rest.map (·.2)).foldl put done = done ++ rest := by
  induction rest generalizing done with
  | nil => simp
  | cons p rest ih =>
    have named : p.2.name? = some (.text p.1) := index.named p (by simp)
    have new : p.1 ∉ done.map (·.1) := by
      have apart := index.distinct
      rw [List.map_append, List.map_cons] at apart
      intro mem
      exact List.disjoint_of_nodup_append apart mem List.mem_cons_self
    rw [List.append_cons] at index ⊢
    rw [List.map_cons, List.foldl_cons, put_of_notMem named new]
    exact ih index

theorem byName_eq {rules : List (String × Rule)} (index : IsIndex rules) :
    byName (rules.map (·.2)) = rules := by
  have all := @foldl_put [] rules index
  rwa [List.nil_append] at all

theorem isIndex_of_loadRules {t : FileTree} {c : Catalogue} {enabled : Bool} {paths : List String}
    {disabled : List Value} {rules : List (String × Rule)}
    (ok : (loadRules t c enabled paths disabled).outcome = .ok rules) : IsIndex rules := by
  rcases loadRules_cases t c enabled paths (isSome_ofValue?_of_loadRules ok) with
    ⟨l, loaded, progress⟩ | ⟨_, _, _, f, _, failed, _⟩
  · obtain rfl := Except.ok.inj (loaded.symm.trans ok)
    refine ⟨progress.named, ?_⟩
    have names : l.rules.map (·.1) = _ := progress.names
    rw [names]
    exact progress.distinct
  · cases failed.symm.trans ok

/-- What loading gives with the settings of the registry. -/
def offered (r : Registry) (t : FileTree) : LoadResult :=
  loadRules t r.catalogue r.enableBuiltin r.paths (r.disabled.map .text)

theorem load_of_ok {r : Registry} {t : FileTree} {rules : List (String × Rule)}
    (ok : (r.offered t).outcome = .ok rules) :
    IsIndex rules ∧ r.load t = ({ r with rules := rules }, r.offered t) := by
  have index : IsIndex rules := isIndex_of_loadRules ok
  refine ⟨index, ?_⟩
  rw [load, ← offered, ok]
  simp only [byName_eq index]

theorem load_of_error {r : Registry} {t : FileTree} {f : Fault}
    (failed : (r.offered t).outcome = .error f) : r.load t = (r, r.offered t) := by
  rw [load, ← offered, failed]

theorem IsIndex.get? {r : Registry} (index : IsIndex r.rules) {p : String × Rule}
    (mem : p ∈ r.rules) : r.get? p.1 = some p.2 := by
  have found : (r.rules.find? (·.1 == p.1)).isSome = true := by
    rw [List.find?_isSome]
    exact ⟨p, mem, beq_self_eq_true p.1⟩
  obtain ⟨q, first⟩ := Option.isSome_iff_exists.1 found
  have key := List.find?_some first
  have one : q = p :=
    List.inj_on_of_nodup_map index.distinct (List.mem_of_find?_eq_some first) mem (eq_of_beq key)
  rw [Registry.get?, first, one]
  rfl

/-- What can be asked of a registry. -/
inductive Operation where
  | enable (flag : Value)
  | addPath (path : String)
  | disable (name : Value)
  | load
  deriving Repr

namespace Operation

/-- The path that is accepted: one where something is. -/
def added? (t : FileTree) : Operation → Option String
  | .addPath path =>
    match t.find? (Path.ofString path) with
    | .ok (some _) => some path
    | _ => none
  | _ => none

/-- The rule name that is accepted. -/
def disabled? : Operation → Option String
  | .disable name => RuleName.ofValue? name
  | _ => none

/-- The flag that is accepted. -/
def flag? : Operation → Option Bool
  | .enable (.bool b) => some b
  | _ => none

end Operation

open Operation

/-- A list with one more entry, unless it has the entry. -/
def noted (xs : List String) (x : String) : List String :=
  if x ∈ xs then xs else xs ++ [x]

theorem eraseDups_concat (xs : List String) (x : String) :
    (xs ++ [x]).eraseDups = noted xs.eraseDups x := by
  rw [List.eraseDups_append, noted]
  by_cases known : x ∈ xs
  · have none : [x].removeAll xs = [] := by simp [List.removeAll, known]
    rw [none, if_pos (List.mem_eraseDups.2 known), List.eraseDups_nil, List.append_nil]
  · have one : [x].removeAll xs = [x] := by simp [List.removeAll, known]
    rw [one, if_neg (fun mem => known (List.mem_eraseDups.1 mem)), List.eraseDups_cons]
    rfl

theorem nodup_noted {xs : List String} (distinct : xs.Nodup) (x : String) : (noted xs x).Nodup := by
  rw [noted]
  split
  · exact distinct
  · next new => exact List.concat_eq_append ▸ distinct.concat new

/-- A change that may be refused, in which case the registry stays. -/
def settle (r : Registry) : Except Fault Registry → Registry × Except Fault (Option (List Rule))
  | .ok s => (s, .ok none)
  | .error f => (r, .error f)

/-- The registry after an operation, and what the operation gave: the rules if it was a load, or the
fault. -/
def operate (t : FileTree) (r : Registry) :
    Operation → Registry × Except Fault (Option (List Rule))
  | .enable flag => r.settle ((r.setEnableBuiltin flag).mapError .refused)
  | .addPath path => r.settle (r.addPath t path)
  | .disable name => r.settle ((r.disable name).mapError .refused)
  | .load => ((r.load t).1, (r.load t).2.outcome.map fun rules => some (rules.map (·.2)))

/-- The registry after operations. -/
def operateAll (t : FileTree) (r : Registry) (ops : List Operation) : Registry :=
  ops.foldl (fun r op => (r.operate t op).1) r

/-- The lists of rules that the loads among operations gave. -/
def loads (t : FileTree) (r : Registry) : List Operation → List (List Rule)
  | [] => []
  | op :: ops =>
    ((r.operate t op).2.toOption.bind id).toList ++ loads t (r.operate t op).1 ops

section

variable {t : FileTree} {r : Registry}

theorem operateAll_concat (ops : List Operation) (op : Operation) :
    r.operateAll t (ops ++ [op]) = ((r.operateAll t ops).operate t op).1 := by
  rw [operateAll, List.foldl_append]
  rfl

/-- Everything an operation can do: it is refused and changes nothing, or it is accepted and changes
the one field that it is about. -/
theorem operate_cases (t : FileTree) (r : Registry) (op : Operation) :
    (∃ f, r.operate t op = (r, .error f) ∧ flag? op = none ∧ added? t op = none ∧
        disabled? op = none) ∨
      (∃ b, op = .enable (.bool b) ∧
        r.operate t op = ({ r with enableBuiltin := b }, .ok none)) ∨
      (∃ path, op = .addPath path ∧ added? t op = some path ∧
        r.operate t op = ({ r with paths := noted r.paths path }, .ok none)) ∨
      (∃ value name, op = .disable value ∧ RuleName.ofValue? value = some name ∧
        r.operate t op = ({ r with disabled := noted r.disabled name }, .ok none)) ∨
      ∃ rules, op = .load ∧ IsIndex rules ∧
        r.operate t op = ({ r with rules := rules }, .ok (some (rules.map (·.2)))) := by
  cases op with
  | enable flag =>
    cases flag with
    | bool b => exact .inr (.inl ⟨b, rfl, rfl⟩)
    | _ => exact .inl ⟨_, rfl, rfl, rfl, rfl⟩
  | addPath path =>
    cases found : t.find? (Path.ofString path) with
    | error e =>
      refine .inl ⟨.file e, ?_, rfl, ?_, rfl⟩
      · simp only [operate, addPath, found, settle]
      · simp only [added?, found]
    | ok place? =>
      cases place? with
      | none =>
        refine .inl ⟨.refused (.rulePathNotFound path), ?_, rfl, ?_, rfl⟩
        · simp only [operate, addPath, found, settle]
        · simp only [added?, found]
      | some place =>
        refine .inr (.inr (.inl ⟨path, rfl, ?_, ?_⟩))
        · simp only [added?, found]
        · by_cases known : path ∈ r.paths <;> simp [operate, addPath, found, noted, known, settle]
  | disable value =>
    cases named : RuleName.ofValue? value with
    | none =>
      refine .inl ⟨.refused (.badRuleName value), ?_, rfl, rfl, named⟩
      simp only [operate, disable, named, Except.mapError, settle]
    | some name =>
      refine .inr (.inr (.inr (.inl ⟨value, name, rfl, named, ?_⟩)))
      by_cases known : name ∈ r.disabled <;>
        simp [operate, disable, named, noted, known, settle, Except.mapError]
  | load =>
    cases outcome : (r.offered t).outcome with
    | ok rules =>
      obtain ⟨index, loaded⟩ := load_of_ok outcome
      refine .inr (.inr (.inr (.inr ⟨rules, rfl, index, ?_⟩)))
      rw [operate, loaded, outcome]
      rfl
    | error f =>
      refine .inl ⟨f, ?_, rfl, rfl, rfl⟩
      rw [operate, load_of_error outcome, outcome]
      rfl

theorem operate_of_error {op : Operation} {f : Fault} (failed : (r.operate t op).2 = .error f) :
    (r.operate t op).1 = r := by
  rcases operate_cases t r op with ⟨_, did, _⟩ | ⟨_, _, did⟩ | ⟨_, _, _, did⟩ |
    ⟨_, _, _, _, did⟩ | ⟨_, _, _, did⟩
  · rw [did]
  all_goals
    rw [did] at failed
    cases failed

theorem enableBuiltin_operate (t : FileTree) (r : Registry) (op : Operation) :
    (r.operate t op).1.enableBuiltin = (flag? op).getD r.enableBuiltin := by
  rcases operate_cases t r op with ⟨_, did, flag, _⟩ | ⟨b, rfl, did⟩ | ⟨_, rfl, _, did⟩ |
    ⟨_, _, rfl, _, did⟩ | ⟨_, rfl, _, did⟩
  · rw [did, flag, Option.getD_none]
  all_goals rw [did]; rfl

theorem paths_operate (t : FileTree) (r : Registry) (op : Operation) :
    (r.operate t op).1.paths = (added? t op).elim r.paths (noted r.paths) := by
  rcases operate_cases t r op with ⟨_, did, _, path, _⟩ | ⟨b, rfl, did⟩ | ⟨_, _, path, did⟩ |
    ⟨_, _, rfl, _, did⟩ | ⟨_, rfl, _, did⟩
  · rw [did, path, Option.elim_none]
  · rw [did]; rfl
  · rw [did, path, Option.elim_some]
  all_goals rw [did]; rfl

theorem disabled_operate (t : FileTree) (r : Registry) (op : Operation) :
    (r.operate t op).1.disabled = (disabled? op).elim r.disabled (noted r.disabled) := by
  rcases operate_cases t r op with ⟨_, did, _, _, name⟩ | ⟨b, rfl, did⟩ | ⟨_, rfl, _, did⟩ |
    ⟨_, _, rfl, name, did⟩ | ⟨_, rfl, _, did⟩
  · rw [did, name, Option.elim_none]
  · rw [did]; rfl
  · rw [did]; rfl
  · rw [did, disabled?, name, Option.elim_some]
  · rw [did]; rfl

theorem rules_operate (t : FileTree) (r : Registry) (op : Operation) :
    (r.operate t op).1.rules.map (·.2) =
      ((r.operate t op).2.toOption.bind id).getD (r.rules.map (·.2)) := by
  rcases operate_cases t r op with ⟨_, did, _⟩ | ⟨_, _, did⟩ | ⟨_, _, _, did⟩ |
    ⟨_, _, _, _, did⟩ | ⟨_, _, _, did⟩
  all_goals rw [did]; rfl

theorem rules_operate_of_ne_load {op : Operation} (setting : op ≠ .load) :
    (r.operate t op).1.rules = r.rules := by
  rcases operate_cases t r op with ⟨_, did, _⟩ | ⟨_, _, did⟩ | ⟨_, _, _, did⟩ |
    ⟨_, _, _, _, did⟩ | ⟨_, isLoad, _⟩
  case inr.inr.inr.inr => exact absurd isLoad setting
  all_goals rw [did]

theorem isIndex_operate (index : IsIndex r.rules) (op : Operation) :
    IsIndex (r.operate t op).1.rules := by
  rcases operate_cases t r op with ⟨_, did, _⟩ | ⟨_, _, did⟩ | ⟨_, _, _, did⟩ |
    ⟨_, _, _, _, did⟩ | ⟨_, _, loaded, did⟩
  all_goals rwa [did]

/-- A list that is kept by noting one entry after the other holds each once, in the order in which
they first came. -/
theorem operateAll_notes {view : Registry → List String} {key? : Operation → Option String}
    (step : ∀ r op, view (r.operate t op).1 = (key? op).elim (view r) (noted (view r)))
    (empty : view r = []) (ops : List Operation) :
    view (r.operateAll t ops) = (ops.filterMap key?).eraseDups ∧
      (view (r.operateAll t ops)).Nodup := by
  induction ops using List.reverseRecOn with
  | nil => simp [operateAll, empty]
  | append_singleton ops op ih =>
    obtain ⟨order, distinct⟩ := ih
    rw [operateAll_concat, step]
    cases key : key? op with
    | none =>
      rw [List.filterMap_append, List.filterMap_cons_none key, List.filterMap_nil, List.append_nil]
      exact ⟨order, distinct⟩
    | some x =>
      rw [List.filterMap_append, List.filterMap_cons_some key, List.filterMap_nil, eraseDups_concat,
        ← order]
      exact ⟨rfl, nodup_noted distinct x⟩

theorem enableBuiltin_operateAll (ops : List Operation) :
    (r.operateAll t ops).enableBuiltin = (ops.filterMap flag?).getLast?.getD r.enableBuiltin := by
  induction ops using List.reverseRecOn with
  | nil => rfl
  | append_singleton ops op ih =>
    rw [operateAll_concat, enableBuiltin_operate, ih, List.filterMap_append, List.getLast?_append]
    cases flag : flag? op <;> simp [flag]

/-- The last of what came is the last of what came later, if there is any. -/
theorem getLastD_toList_append {α : Type} (first? : Option α) (later : List α) (d : α) :
    (first?.toList ++ later).getLast?.getD d = later.getLast?.getD (first?.getD d) := by
  rw [List.getLast?_append]
  cases later.getLast? <;> cases first? <;> rfl

theorem rules_operateAll (ops : List Operation) :
    (r.operateAll t ops).rules.map (·.2) = (loads t r ops).getLast?.getD (r.rules.map (·.2)) := by
  induction ops generalizing r with
  | nil => rfl
  | cons op ops ih =>
    have later := ih (r := (r.operate t op).1)
    rw [operateAll, List.foldl_cons, ← operateAll, later, rules_operate, loads,
      getLastD_toList_append]

theorem isIndex_operateAll (index : IsIndex r.rules) (ops : List Operation) :
    IsIndex (r.operateAll t ops).rules := by
  induction ops generalizing r with
  | nil => exact index
  | cons op ops ih => exact ih (isIndex_operate index op)

/-- What is noted already is not noted again. -/
theorem operate_again {op : Operation} (isFlag : flag? op = none) (isLoad : op ≠ .load)
    (path : ∀ p, added? t op = some p → p ∈ r.paths)
    (name : ∀ n, disabled? op = some n → n ∈ r.disabled) : (r.operate t op).1 = r := by
  rcases operate_cases t r op with ⟨_, did, _⟩ | ⟨_, rfl, _⟩ | ⟨p, _, accepted, did⟩ |
    ⟨_, n, rfl, accepted, did⟩ | ⟨_, rfl, _⟩
  · rw [did]
  · cases isFlag
  · rw [did, noted, if_pos (path p accepted)]
  · rw [did, noted, if_pos (name n accepted)]
  · exact absurd rfl isLoad

theorem has_of_added? {op : Operation} {path : String} (accepted : added? t op = some path) :
    t.Has path := by
  cases op with
  | addPath p =>
    rw [added?] at accepted
    split at accepted
    · next place found => exact ⟨place, Option.some.inj accepted ▸ found⟩
    · cases accepted
  | _ => cases accepted

theorem ofValue?_of_disabled? {op : Operation} {name : String}
    (accepted : disabled? op = some name) : RuleName.ofValue? (.text name) = some name := by
  cases op with
  | disable value =>
    cases value with
    | text s =>
      rw [disabled?, RuleName.ofValue?] at accepted
      split at accepted
      · next good =>
        obtain rfl := Option.some.inj accepted
        rw [RuleName.ofValue?, if_pos good]
      · cases accepted
    | _ => cases accepted
  | _ => cases accepted

end

/-- What a registry holds after any operations. Its paths and disabled names are those that were
accepted, each once, in the order in which they first came; its flag is the last that was one. The
rules are those that the last successful load gave, in order, each under its own name, where it is
found. To add a path or disable a name again changes nothing, and no more does an operation that
fails. -/
theorem operations_are_remembered (t : FileTree) (c : Catalogue) (flag : Bool)
    (ops : List Operation) :
    let start : Registry := { enableBuiltin := flag, catalogue := c }
    let r := start.operateAll t ops
    (r.paths = (ops.filterMap (added? t)).eraseDups ∧ r.paths.Nodup ∧
      ∀ path ∈ r.paths, t.Has path) ∧
    (r.disabled = (ops.filterMap disabled?).eraseDups ∧ r.disabled.Nodup ∧
      ∀ name ∈ r.disabled, RuleName.ofValue? (.text name) = some name) ∧
    r.enableBuiltin = (ops.filterMap flag?).getLast?.getD flag ∧
    (∀ path, .addPath path ∈ ops → (r.operate t (.addPath path)).1 = r) ∧
    (∀ name, .disable name ∈ ops → (r.operate t (.disable name)).1 = r) ∧
    (r.rules.map (·.2) = (loads t start ops).getLast?.getD [] ∧ (r.rules.map (·.1)).Nodup ∧
      ∀ name rule, (name, rule) ∈ r.rules →
        rule.name? = some (.text name) ∧ r.get? name = some rule) ∧
    ∀ op f, (r.operate t op).2 = .error f → (r.operate t op).1 = r := by
  intro start r
  have paths : r.paths = _ ∧ r.paths.Nodup := operateAll_notes (paths_operate t) rfl ops
  have disabled : r.disabled = _ ∧ r.disabled.Nodup :=
    operateAll_notes (disabled_operate t) rfl ops
  have index : IsIndex r.rules := isIndex_operateAll ⟨by simp [start], by simp [start]⟩ ops
  have mem_paths : ∀ path, path ∈ r.paths ↔ ∃ op ∈ ops, added? t op = some path := by
    intro path
    rw [paths.1, List.mem_eraseDups, List.mem_filterMap]
  have mem_disabled : ∀ name, name ∈ r.disabled ↔ ∃ op ∈ ops, disabled? op = some name := by
    intro name
    rw [disabled.1, List.mem_eraseDups, List.mem_filterMap]
  refine ⟨⟨paths.1, paths.2, ?_⟩, ⟨disabled.1, disabled.2, ?_⟩, enableBuiltin_operateAll ops, ?_,
    ?_, ⟨rules_operateAll ops, index.distinct, ?_⟩, ?_⟩
  · intro path mem
    obtain ⟨op, _, accepted⟩ := (mem_paths path).1 mem
    exact has_of_added? accepted
  · intro name mem
    obtain ⟨op, _, accepted⟩ := (mem_disabled name).1 mem
    exact ofValue?_of_disabled? accepted
  · intro path mem
    refine operate_again rfl nofun ?_ nofun
    intro p accepted
    exact (mem_paths p).2 ⟨_, mem, accepted⟩
  · intro value mem
    refine operate_again rfl nofun nofun ?_
    intro n accepted
    exact (mem_disabled n).2 ⟨_, mem, accepted⟩
  · intro name rule mem
    exact ⟨index.named _ mem, index.get? mem⟩
  · intro op f failed
    exact operate_of_error failed

end Registry

end SourceAudit
