import SourceAudit.Path

/-!
# The text of a path

Reading a path drops what means nothing, so a path that was read has a root and parts of a known
shape (`Path.IsPlain`). Reading the text of such a path gives the path back (`Path.ofString_text`),
so a path may be normalized any number of times (`Path.ofString_normalize`).
-/

namespace SourceAudit.Path

theorem notMem_of_mem_pieces {cs piece : List Char} (h : piece ∈ pieces cs) : '/' ∉ piece := by
  unfold pieces at h
  induction cs generalizing piece with
  | nil =>
    rw [List.splitOn_nil, List.mem_singleton] at h
    rw [h]
    exact List.not_mem_nil
  | cons c cs ih =>
    rw [List.splitOn_cons_eq_if_modifyHead] at h
    by_cases slash : c = '/'
    · simp only [slash, beq_self_eq_true, if_true, List.mem_cons] at h
      rcases h with rfl | h
      · exact List.not_mem_nil
      · exact ih h
    · simp only [beq_iff_eq, slash, if_false] at h
      cases hs : cs.splitOn '/' with
      | nil => exact absurd hs (List.splitOn_ne_nil _ _)
      | cons first rest =>
        rw [hs, List.modifyHead_cons, List.mem_cons] at h
        rcases h with rfl | h
        · rw [List.mem_cons, not_or]
          exact ⟨Ne.symm slash, ih (hs ▸ List.mem_cons_self)⟩
        · exact ih (hs ▸ List.mem_cons_of_mem _ h)

/-- A path whose root and parts are those that a text can have. -/
structure IsPlain (p : Path) : Prop where
  root : p.root = "" ∨ p.root = "/" ∨ p.root = "//"
  part : ∀ s ∈ p.parts, isPart s.toList = true ∧ '/' ∉ s.toList

theorem isPlain_ofString (s : String) : (ofString s).IsPlain := by
  constructor
  · simp only [ofString]
    unfold rootOf
    split <;> simp
  · intro part hpart
    obtain ⟨piece, hpiece, rfl⟩ := List.mem_map.1 hpart
    obtain ⟨hmem, hpart⟩ := List.mem_filter.1 hpiece
    rw [String.toList_ofList]
    exact ⟨hpart, notMem_of_mem_pieces hmem⟩

theorem pieces_slash_cons (cs : List Char) : pieces ('/' :: cs) = [] :: pieces cs := by
  rw [pieces, List.splitOn_cons_eq_if_modifyHead]
  rfl

/-- The parts of a text that joins parts with slashes. -/
theorem filter_pieces_intercalate {parts : List String}
    (plain : ∀ s ∈ parts, isPart s.toList = true ∧ '/' ∉ s.toList) :
    (pieces (String.intercalate "/" parts).toList).filter isPart = parts.map String.toList := by
  rw [String.toList_intercalate]
  cases parts with
  | nil => rfl
  | cons first rest =>
    have whole : pieces (['/'].intercalate ((first :: rest).map String.toList)) =
        (first :: rest).map String.toList := by
      apply List.splitOn_intercalate
      · intro piece hpiece
        obtain ⟨s, hs, rfl⟩ := List.mem_map.1 hpiece
        exact (plain s hs).2
      · simp
    rw [show "/".toList = ['/'] from rfl, whole, List.filter_eq_self]
    intro piece hpiece
    obtain ⟨s, hs, rfl⟩ := List.mem_map.1 hpiece
    exact (plain s hs).1

theorem head_intercalate_ne {parts : List String}
    (plain : ∀ s ∈ parts, isPart s.toList = true ∧ '/' ∉ s.toList) :
    (String.intercalate "/" parts).toList.head? ≠ some '/' := by
  rw [String.toList_intercalate]
  cases parts with
  | nil => simp
  | cons first rest =>
    obtain ⟨part, clean⟩ := plain first List.mem_cons_self
    cases hf : first.toList with
    | nil => simp [hf, isPart] at part
    | cons c cs =>
      rw [hf] at clean
      intro hc
      apply clean
      cases rest <;> simp_all [List.intercalate]

theorem rootOf_append {root : String} (known : root = "" ∨ root = "/" ∨ root = "//")
    {cs : List Char} (clean : cs.head? ≠ some '/') : rootOf (root.toList ++ cs) = root := by
  rcases known with rfl | rfl | rfl <;> cases cs with
  | nil => rfl
  | cons c cs =>
    have other : c ≠ '/' := by simpa using clean
    simp [rootOf, other]

theorem filter_pieces_append {root : String} (known : root = "" ∨ root = "/" ∨ root = "//")
    (cs : List Char) : (pieces (root.toList ++ cs)).filter isPart = (pieces cs).filter isPart := by
  rcases known with rfl | rfl | rfl
  · rfl
  · rw [show "/".toList ++ cs = '/' :: cs from rfl, pieces_slash_cons]
    rfl
  · rw [show "//".toList ++ cs = '/' :: '/' :: cs from rfl, pieces_slash_cons, pieces_slash_cons]
    rfl

/-- Reading the text of a path gives the path back. -/
theorem ofString_text {p : Path} (plain : p.IsPlain) : ofString p.text = p := by
  obtain ⟨root, parts⟩ := p
  obtain ⟨known, part⟩ := plain
  unfold text
  split
  · rename_i empty
    simp only [Bool.and_eq_true, String.isEmpty_iff, List.isEmpty_iff] at empty
    obtain ⟨rfl, rfl⟩ := empty
    decide
  · unfold ofString
    rw [String.toList_append, rootOf_append known (head_intercalate_ne part),
      filter_pieces_append known, filter_pieces_intercalate part, List.map_map]
    simp [Function.comp_def]

theorem ofString_normalize (s : String) : ofString (normalize s) = ofString s :=
  ofString_text (isPlain_ofString s)

end SourceAudit.Path
