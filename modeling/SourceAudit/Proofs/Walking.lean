import Mathlib
import SourceAudit.Discovery
import SourceAudit.Proofs.PathText

/-!
# The files below a directory

A directory stands for the files below it that have a wanted suffix. `FileTree.Beneath` tells
without any enumeration which files these are: those in the directory itself, and those beneath the
directories in it. In a tree where everything is in a directory (`FileTree.IsTree`) the walk finds
exactly these (`mem_below`). It sorts them by their parts, which is a linear order on all lists of
parts (`Path.partsLe_iff`), so neither a repetition nor the order in which the tree happens to list
its files can show in the result.
-/

namespace SourceAudit

/-! ## Suffixes and the order of parts -/

namespace Path

/-- The suffix of a name: what starts at its last dot, unless that is the first or the last
character of the name, and nothing otherwise. -/
def IsSuffix (name suffix : String) : Prop :=
  (∃ stem ending, name.toList = stem ++ '.' :: ending ∧ '.' ∉ ending ∧ stem ≠ [] ∧ ending ≠ [] ∧
      suffix.toList = '.' :: ending) ∨
    ((∀ stem ending, name.toList = stem ++ '.' :: ending → '.' ∉ ending →
      stem = [] ∨ ending = []) ∧ suffix = "")

theorem suffixLength_append (stem : List Char) {ending : List Char} (last : '.' ∉ ending) :
    suffixLength (stem ++ '.' :: ending) =
      if stem ≠ [] ∧ ending ≠ [] then ending.length + 1 else 0 := by
  have plain : ∀ c ∈ ending.reverse, (c != '.') = true := by
    intro c mem
    rw [bne_iff_ne]
    rintro rfl
    exact last (List.mem_reverse.1 mem)
  have tail : (stem ++ '.' :: ending).reverse.takeWhile (· != '.') = ending.reverse := by
    rw [List.reverse_append, List.reverse_cons, List.append_assoc,
      List.takeWhile_append_of_pos plain]
    simp
  rw [suffixLength, tail, List.length_reverse, List.length_append, List.length_cons]
  congr 1
  rw [← List.length_pos_iff, ← List.length_pos_iff]
  apply propext
  omega

theorem suffixLength_of_notMem {name : List Char} (plain : '.' ∉ name) : suffixLength name = 0 := by
  have all : name.reverse.takeWhile (· != '.') = name.reverse := by
    rw [List.takeWhile_eq_self_iff]
    intro c mem
    rw [bne_iff_ne]
    rintro rfl
    exact plain (List.mem_reverse.1 mem)
  rw [suffixLength, all, List.length_reverse, if_neg (by omega)]

theorem exists_last_dot {name : List Char} (dot : '.' ∈ name) :
    ∃ stem ending, name = stem ++ '.' :: ending ∧ '.' ∉ ending := by
  obtain ⟨ending, stem, split, last⟩ := List.eq_append_cons_of_mem (List.mem_reverse.2 dot)
  refine ⟨stem.reverse, ending.reverse, ?_, fun mem => last (List.mem_reverse.1 mem)⟩
  have whole := congrArg List.reverse split
  simpa using whole

theorem toList_suffixOf {name : String} {stem ending : List Char}
    (split : name.toList = stem ++ '.' :: ending) (last : '.' ∉ ending) :
    (suffixOf name).toList = if stem ≠ [] ∧ ending ≠ [] then '.' :: ending else [] := by
  rw [suffixOf, String.toList_ofList, split, suffixLength_append stem last]
  by_cases inside : stem ≠ [] ∧ ending ≠ []
  · rw [if_pos inside, if_pos inside, List.length_append, List.length_cons, Nat.add_sub_cancel,
      List.drop_left]
  · rw [if_neg inside, if_neg inside, Nat.sub_zero, List.drop_length]

theorem suffixOf_eq_empty {name : String}
    (none : ∀ stem ending, name.toList = stem ++ '.' :: ending → '.' ∉ ending →
      stem = [] ∨ ending = []) : suffixOf name = "" := by
  by_cases dot : '.' ∈ name.toList
  · obtain ⟨stem, ending, split, last⟩ := exists_last_dot dot
    rw [← String.toList_eq_nil_iff, toList_suffixOf split last, if_neg]
    rintro ⟨some, more⟩
    exact (none stem ending split last).elim some more
  · rw [suffixOf, suffixLength_of_notMem dot, Nat.sub_zero, List.drop_length]

/-- The suffix that is computed is the suffix, and there is no other. -/
theorem isSuffix_iff {name suffix : String} : IsSuffix name suffix ↔ suffixOf name = suffix := by
  constructor
  · rintro (⟨stem, ending, split, last, some, more, same⟩ | ⟨none, rfl⟩)
    · rw [← String.toList_inj, toList_suffixOf split last, if_pos ⟨some, more⟩, same]
    · exact suffixOf_eq_empty none
  · rintro rfl
    by_cases inside : ∃ stem ending, name.toList = stem ++ '.' :: ending ∧ '.' ∉ ending ∧
        stem ≠ [] ∧ ending ≠ []
    · obtain ⟨stem, ending, split, last, some, more⟩ := inside
      refine .inl ⟨stem, ending, split, last, some, more, ?_⟩
      rw [toList_suffixOf split last, if_pos ⟨some, more⟩]
    · have none : ∀ stem ending, name.toList = stem ++ '.' :: ending → '.' ∉ ending →
          stem = [] ∨ ending = [] := by
        intro stem ending split last
        by_contra both
        rw [not_or] at both
        exact inside ⟨stem, ending, split, last, both.1, both.2⟩
      exact .inr ⟨none, suffixOf_eq_empty none⟩

/-- Parts are in the lexicographic order, each by code points. -/
theorem partsLe_iff {a b : List String} : partsLe a b = true ↔ a = b ∨ a < b := by
  induction a generalizing b with
  | nil => cases b <;> simp [partsLe]
  | cons x xs ih =>
    cases b with
    | nil => simp [partsLe]
    | cons y ys =>
      rw [partsLe, List.cons_lt_cons_iff]
      by_cases same : x = y
      · subst same
        simp [ih]
      · simp [same]

theorem partsLe_trans (a b c : List String) (first : partsLe a b = true)
    (second : partsLe b c = true) : partsLe a c = true := by
  rw [partsLe_iff] at first second ⊢
  rcases first with rfl | first
  · exact second
  · rcases second with rfl | second
    · exact .inr first
    · exact .inr (lt_trans first second)

theorem partsLe_total (a b : List String) : (partsLe a b || partsLe b a) = true := by
  rw [Bool.or_eq_true, partsLe_iff, partsLe_iff]
  rcases lt_trichotomy a b with less | same | more
  · exact .inl (.inr less)
  · exact .inl (.inl same)
  · exact .inr (.inr more)

theorem partsLe_antisymm {a b : List String} (first : partsLe a b = true)
    (second : partsLe b a = true) : a = b := by
  rw [partsLe_iff] at first second
  rcases first with same | less
  · exact same
  · rcases second with same | more
    · exact same.symm
    · exact absurd more (lt_asymm less)

/-- Sorting forgets the order in which parts are given. -/
theorem mergeSort_partsLe_of_perm {xs ys : List (List String)} (perm : xs.Perm ys) :
    xs.mergeSort partsLe = ys.mergeSort partsLe := by
  refine List.Perm.eq_of_pairwise ?_ (List.pairwise_mergeSort partsLe_trans partsLe_total xs)
    (List.pairwise_mergeSort partsLe_trans partsLe_total ys) ?_
  · intro a b _ _
    exact partsLe_antisymm
  · exact (List.mergeSort_perm xs _).trans (perm.trans (List.mergeSort_perm ys _).symm)

/-- Distinct parts are sorted into strictly increasing order. -/
theorem pairwise_lt_mergeSort {xs : List (List String)} (distinct : xs.Nodup) :
    (xs.mergeSort partsLe).Pairwise (· < ·) := by
  have sorted := List.pairwise_mergeSort partsLe_trans partsLe_total xs
  have different := (List.mergeSort_perm xs partsLe).nodup_iff.2 distinct
  refine sorted.imp₂ (fun a b le ne => ?_) different
  exact (partsLe_iff.1 le).resolve_left ne

end Path

/-! ## Trees -/

namespace FileTree

/-- A name that something in a directory can have. -/
def IsName (name : String) : Prop :=
  Path.isPart name.toList = true ∧ '/' ∉ name.toList ∧ name ≠ ".."

/-- What holds of the files and directories of a working directory: no file is listed twice or is a
directory, everything is in a directory, and all names are names. -/
structure IsTree (t : FileTree) : Prop where
  distinct : (t.files.map (·.1)).Nodup
  apart : ∀ f ∈ t.files, t.isDirectoryAt f.1 = false
  inside : ∀ place ∈ t.directories ++ t.files.map (·.1), t.isDirectoryAt place.dropLast = true
  named : ∀ f ∈ t.files, ∀ name ∈ f.1, IsName name

/-- A file is beneath a directory, at any depth, behind the given parts. -/
inductive Beneath (t : FileTree) : Place → List String → Prop
  | file {place : Place} {name : String} (isFile : t.isFileAt (place ++ [name]) = true) :
      Beneath t place [name]
  | directory {place : Place} {name : String} {parts : List String}
      (isDirectory : t.isDirectoryAt (place ++ [name]) = true)
      (below : Beneath t (place ++ [name]) parts) : Beneath t place (name :: parts)

variable {t u : FileTree} {place : Place} {parts : List String}

theorem isFileAt_iff : t.isFileAt place = true ↔ place ∈ t.files.map (·.1) := by
  simp [isFileAt]

namespace IsTree

theorem isDirectoryAt_of_isFileAt (tree : t.IsTree) (isFile : t.isFileAt place = true) :
    t.isDirectoryAt place = false := by
  obtain ⟨f, mem, rfl⟩ := List.mem_map.1 (isFileAt_iff.1 isFile)
  exact tree.apart f mem

theorem isDirectoryAt_dropLast (tree : t.IsTree) (there : t.existsAt place = true) :
    t.isDirectoryAt place.dropLast = true := by
  rw [existsAt, isDirectoryAt, Bool.or_eq_true, Bool.or_eq_true, List.isEmpty_iff,
    List.contains_iff_mem, isFileAt_iff] at there
  rcases there with (rfl | listed) | listed
  · rfl
  · exact tree.inside place (List.mem_append_left _ listed)
  · exact tree.inside place (List.mem_append_right _ listed)

/-- Everything on the way to a file or directory is a directory. -/
theorem isDirectoryAt_of_append (tree : t.IsTree) (more : parts ≠ [])
    (there : t.existsAt (place ++ parts) = true) : t.isDirectoryAt place = true := by
  -- The parts are taken away from the end.
  induction parts using List.reverseRecOn with
  | nil => exact absurd rfl more
  | append_singleton front name ih =>
    have above := tree.isDirectoryAt_dropLast there
    rw [← List.append_assoc, List.dropLast_concat] at above
    by_cases last : front = []
    · rwa [last, List.append_nil] at above
    · exact ih last (by rw [existsAt, above, Bool.true_or])

theorem beneath_iff (tree : t.IsTree) :
    t.Beneath place parts ↔ parts ≠ [] ∧ t.isFileAt (place ++ parts) = true := by
  constructor
  · intro beneath
    induction beneath with
    | file isFile => exact ⟨by simp, isFile⟩
    | directory _ _ ih =>
      rw [List.append_assoc] at ih
      exact ⟨by simp, ih.2⟩
  · rintro ⟨some, isFile⟩
    induction parts generalizing place with
    | nil => exact absurd rfl some
    | cons name parts ih =>
      by_cases last : parts = []
      · subst last
        exact .file isFile
      · rw [← List.singleton_append, ← List.append_assoc] at isFile
        refine .directory ?_ (ih last isFile)
        exact tree.isDirectoryAt_of_append last (by rw [existsAt, isFile, Bool.or_true])

theorem named_of_beneath (tree : t.IsTree) (beneath : t.Beneath place parts) :
    ∀ name ∈ parts, IsName name := by
  obtain ⟨f, mem, same⟩ := List.mem_map.1 (isFileAt_iff.1 (tree.beneath_iff.1 beneath).2)
  intro name part
  exact tree.named f mem name (same ▸ List.mem_append_right _ part)

end IsTree

/-! ## The walk -/

theorem below_eq_filterMap (t : FileTree) (place : Place) :
    t.below place = (t.files.map (·.1)).filterMap fun q =>
      if place.isPrefixOf q && place.length < q.length then some (q.drop place.length)
      else none := by
  rw [List.filterMap_map]
  rfl

theorem drop_eq_some_iff {q : Place} :
    (if place.isPrefixOf q && place.length < q.length then some (q.drop place.length) else none) =
      some parts ↔ parts ≠ [] ∧ q = place ++ parts := by
  rw [Option.ite_none_right_eq_some, Bool.and_eq_true, List.isPrefixOf_iff_prefix,
    decide_eq_true_eq]
  constructor
  · rintro ⟨⟨⟨rest, rfl⟩, longer⟩, same⟩
    rw [List.drop_left, Option.some.injEq] at same
    subst same
    rw [List.length_append] at longer
    exact ⟨List.ne_nil_of_length_pos (by omega), rfl⟩
  · rintro ⟨some, rfl⟩
    have longer := List.length_pos_iff.2 some
    refine ⟨⟨List.prefix_append _ _, ?_⟩, by rw [List.drop_left]⟩
    rw [List.length_append]
    omega

theorem mem_below : parts ∈ t.below place ↔ parts ≠ [] ∧ t.isFileAt (place ++ parts) = true := by
  rw [below_eq_filterMap, List.mem_filterMap, isFileAt_iff]
  constructor
  · rintro ⟨q, listed, cut⟩
    obtain ⟨some, rfl⟩ := drop_eq_some_iff.1 cut
    exact ⟨some, listed⟩
  · rintro ⟨some, listed⟩
    exact ⟨_, listed, drop_eq_some_iff.2 ⟨some, rfl⟩⟩

theorem IsTree.nodup_below (tree : t.IsTree) (place : Place) : (t.below place).Nodup := by
  rw [below_eq_filterMap]
  refine List.Nodup.filterMap ?_ tree.distinct
  intro q q' parts cut cut'
  rw [(drop_eq_some_iff.1 cut).2, (drop_eq_some_iff.1 cut').2]

theorem IsTree.mem_walk (tree : t.IsTree) {extensions : List String} :
    parts ∈ t.walk place extensions ↔
      t.Beneath place parts ∧ Path.suffixOf (parts.getLast?.getD "") ∈ extensions := by
  rw [walk, List.mem_mergeSort, List.mem_filter, mem_below, tree.beneath_iff,
    List.contains_iff_mem]

theorem IsTree.pairwise_lt_walk (tree : t.IsTree) (place : Place) (extensions : List String) :
    (t.walk place extensions).Pairwise (· < ·) :=
  Path.pairwise_lt_mergeSort ((tree.nodup_below place).filter _)

/-! ## Where the found paths lead -/

theorem follow_append (t : FileTree) (place : Place) (parts more : List String) :
    t.follow place (parts ++ more) =
      match t.follow place parts with
      | .error e => .error e
      | .ok next => t.follow next more := by
  induction parts generalizing place with
  | nil => rfl
  | cons part parts ih =>
    rw [List.cons_append, follow, follow]
    cases t.step place part with
    | error e => rfl
    | ok next => exact ih next

theorem eq_of_follow (plain : ∀ part ∈ parts, part ≠ "..") {q : Place}
    (found : t.follow place parts = .ok q) : q = place ++ parts := by
  induction parts generalizing place with
  | nil => rw [List.append_nil, Except.ok.inj found]
  | cons part parts ih =>
    obtain ⟨here, rest⟩ := List.forall_mem_cons.1 plain
    rw [follow] at found
    split at found
    · cases found
    · rename_i next stepped
      unfold step at stepped
      rw [if_neg here] at stepped
      split at stepped
      · cases stepped
      · split at stepped
        · cases stepped
        · split at stepped
          · obtain rfl := Except.ok.inj stepped
            rw [ih rest found, List.append_assoc, List.singleton_append]
          · cases stepped

theorem locate_of_find? {p : Path} (found : t.find? p = .ok (some place)) :
    t.locate p = .ok place := by
  unfold find? at found
  split at found
  · rename_i q located
    rw [located, Option.some.inj (Except.ok.inj found)]
  · cases found
  · cases found

/-- A path that goes on from a place by plain names leads to what these names lead to. -/
theorem eq_of_locate_join {p : Path} (found : t.find? p = .ok (some place))
    (plain : ∀ part ∈ parts, part ≠ "..") {q : Place} (located : t.locate (p.join parts) = .ok q) :
    q = place ++ parts := by
  have start := locate_of_find? found
  unfold locate at start located
  split at start
  · cases start
  · split at located
    · cases located
    · unfold followFrom at start located
      split at start
      · rename_i relative
        have relative : (p.join parts).root.isEmpty = true := relative
        rw [if_pos relative] at located
        have whole := t.follow_append [] p.parts parts
        rw [start] at whole
        exact eq_of_follow plain (whole.symm.trans located)
      · cases start

/-! ## Trees that list the same in another order -/

section

variable (directories : ∀ place, u.isDirectoryAt place = t.isDirectoryAt place)
  (files : ∀ place, u.isFileAt place = t.isFileAt place)

include directories files

theorem follow_congr (place : Place) (parts : List String) :
    u.follow place parts = t.follow place parts := by
  induction parts generalizing place with
  | nil => rfl
  | cons part parts ih =>
    have same : u.step place part = t.step place part := by
      rw [step, step, existsAt, existsAt, directories, directories, files]
    rw [follow, follow, same]
    split
    · rfl
    · exact ih _

theorem find?_congr (p : Path) : u.find? p = t.find? p := by
  rw [find?, find?, locate, locate, followFrom, followFrom, follow_congr directories files]

end

theorem walk_of_perm (files : u.files.Perm t.files) (place : Place) (extensions : List String) :
    u.walk place extensions = t.walk place extensions :=
  Path.mergeSort_partsLe_of_perm ((files.filterMap _).filter _)

theorem discover_of_perm (files : u.files.Perm t.files)
    (directories : u.directories.Perm t.directories) (shown : String) (extensions : List String) :
    discover u shown extensions = discover t shown extensions := by
  have isDirectory : ∀ place, u.isDirectoryAt place = t.isDirectoryAt place := by
    intro place
    rw [isDirectoryAt, isDirectoryAt, directories.contains_eq]
  have isFile : ∀ place, u.isFileAt place = t.isFileAt place := fun place => files.any_eq
  simp only [discover, find?_congr isDirectory isFile, isFile, walk_of_perm files]

/-! ## The files that are found -/

theorem isPlain_join {p : Path} (plain : p.IsPlain) (named : ∀ name ∈ parts, IsName name) :
    (p.join parts).IsPlain := by
  refine ⟨plain.root, ?_⟩
  intro part mem
  rcases List.mem_append.1 mem with old | new
  · exact plain.part part old
  · exact ⟨(named part new).1, (named part new).2.1⟩

theorem name_join (p : Path) (some : parts ≠ []) :
    (p.join parts).name = parts.getLast?.getD "" := by
  rw [Path.name, Path.join, List.getLast?_append_of_ne_nil _ some]

theorem IsTree.discover_directory (tree : t.IsTree) {shown : String}
    (found : t.find? (Path.ofString shown) = .ok (some place))
    (directory : t.isDirectoryAt place = true) (extensions : List String) :
    ∃ d, discover t shown extensions = .ok d ∧
      d.files = (t.walk place extensions).map
        fun parts => ((Path.ofString shown).join parts).text := by
  have notFile : t.isFileAt place = false := by
    by_contra isFile
    rw [Bool.not_eq_false] at isFile
    rw [tree.isDirectoryAt_of_isFileAt isFile] at directory
    cases directory
  simp only [discover, found, notFile, Bool.false_eq_true, if_false]
  exact ⟨_, rfl, rfl⟩

/-- Discovery is exact and canonical. Of a directory it gives the files beneath it, at any depth,
whose suffix is wanted, each once and in increasing order of their parts, which are compared one by
one and by code points. Directories are never among them, and trees that list the same files and
directories in another order give the same. -/
theorem discover_lists_directory {t : FileTree} (tree : t.IsTree) {shown : String} {place : Place}
    (found : t.find? (Path.ofString shown) = .ok (some place))
    (directory : t.isDirectoryAt place = true) (extensions : List String) :
    ∃ d, discover t shown extensions = .ok d ∧
      (∀ file, file ∈ d.files ↔ ∃ parts, t.Beneath place parts ∧
        file = ((Path.ofString shown).join parts).text ∧
        ∃ suffix ∈ extensions, Path.IsSuffix (Path.ofString file).name suffix) ∧
      d.files.Nodup ∧
      d.files.Pairwise (fun a b => (Path.ofString a).parts < (Path.ofString b).parts) ∧
      (∀ file ∈ d.files, t.isDirectory (Path.ofString file) = false) ∧
      ∀ u : FileTree, u.files.Perm t.files → u.directories.Perm t.directories →
        discover u shown extensions = .ok d := by
  obtain ⟨d, ok, files⟩ := tree.discover_directory found directory extensions
  -- The text of a found path can be read again.
  have read : ∀ parts, t.Beneath place parts →
      Path.ofString ((Path.ofString shown).join parts).text = (Path.ofString shown).join parts :=
    fun parts beneath => Path.ofString_text
      (isPlain_join (Path.isPlain_ofString shown) (tree.named_of_beneath beneath))
  have order : d.files.Pairwise
      (fun a b => (Path.ofString a).parts < (Path.ofString b).parts) := by
    rw [files, List.pairwise_map]
    refine (tree.pairwise_lt_walk place extensions).imp_of_mem ?_
    intro a b first second less
    rw [read a (tree.mem_walk.1 first).1, read b (tree.mem_walk.1 second).1]
    exact List.append_left_lt less
  refine ⟨d, ok, fun file => ?_, ?_, order, ?_, ?_⟩
  · rw [files, List.mem_map]
    constructor
    · rintro ⟨parts, mem, rfl⟩
      obtain ⟨beneath, wanted⟩ := tree.mem_walk.1 mem
      refine ⟨parts, beneath, rfl, _, wanted, ?_⟩
      rw [read parts beneath, name_join _ (tree.beneath_iff.1 beneath).1]
      exact Path.isSuffix_iff.2 rfl
    · rintro ⟨parts, beneath, rfl, suffix, wanted, ends⟩
      rw [read parts beneath, name_join _ (tree.beneath_iff.1 beneath).1,
        Path.isSuffix_iff] at ends
      exact ⟨parts, tree.mem_walk.2 ⟨beneath, ends ▸ wanted⟩, rfl⟩
  · refine order.imp ?_
    rintro a b less rfl
    exact lt_irrefl _ less
  · intro file mem
    rw [files] at mem
    obtain ⟨parts, walked, rfl⟩ := List.mem_map.1 mem
    have beneath := (tree.mem_walk.1 walked).1
    rw [read parts beneath, isDirectory]
    split
    · rename_i q located
      have plain : ∀ part ∈ parts, part ≠ ".." := fun part mem =>
        (tree.named_of_beneath beneath part mem).2.2
      rw [eq_of_locate_join found plain located]
      exact tree.isDirectoryAt_of_isFileAt (tree.beneath_iff.1 beneath).2
    · rfl
  · intro u files directories
    rw [discover_of_perm files directories, ok]

/-- Files whose parts and texts are in different orders, a directory with a wanted suffix, and names
whose dots start no suffix. -/
def dottedTree : FileTree where
  directories := [["src"], ["src", "a"], ["src", "d.py"]]
  files := [(["src", "a.py"], .bytes []), (["src", ".py"], .bytes []),
    (["src", "d.py", "e..py"], .bytes []), (["src", "a", "b.py"], .bytes []),
    (["src", "f.py."], .bytes []), (["g.py"], .bytes [])]

theorem discover_lists_directory_of_dottedTree :
    dottedTree.IsTree ∧ ∃ d, discover dottedTree "src/." [".py"] = .ok d ∧
      d.files = ["src/a/b.py", "src/a.py", "src/d.py/e..py"] ∧
      ∀ u : FileTree, u.files.Perm dottedTree.files →
        u.directories.Perm dottedTree.directories → discover u "src/." [".py"] = .ok d := by
  have tree : dottedTree.IsTree := by
    refine ⟨by decide, by decide, by decide, ?_⟩
    unfold IsName
    decide
  have files : (discover dottedTree "src/." [".py"]).toOption.map Discovered.files =
      some ["src/a/b.py", "src/a.py", "src/d.py/e..py"] := by
    cbv
  have found : dottedTree.find? (Path.ofString "src/.") = .ok (some ["src"]) := by decide +kernel
  obtain ⟨d, ok, -, -, -, -, same⟩ := discover_lists_directory tree found (by decide) [".py"]
  rw [ok] at files
  exact ⟨tree, d, ok, Option.some.inj files, same⟩

end FileTree

end SourceAudit
