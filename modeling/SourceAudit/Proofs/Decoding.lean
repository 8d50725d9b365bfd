import SourceAudit.Proofs.JsonText

/-!
# Written values are read again

The indented text of a value belongs to the grammar of JSON and has the lexemes of the value, as
long as the value has no floating-point numbers (`Json.scans_text`). A numeral has no needless zeros
and is read as its number, a glyph of a string spells its units whichever of its forms it is written
in, and what the layout adds is blank.
-/

namespace SourceAudit

/-! ## Numerals -/

theorem head?_toDigits {n : Nat} (zero : (Nat.toDigits 10 n).head? = some '0') : n = 0 := by
  induction n using Nat.strongRecOn with
  | ind n ih =>
    by_cases small : n < 10
    · rw [Nat.toDigits_of_lt_base small, List.head?_singleton, Option.some.injEq] at zero
      revert zero
      have all : ∀ m < 10, Nat.digitChar m = '0' → m = 0 := by decide
      exact all n small
    · rw [Nat.toDigits_of_base_le (by omega) (by omega), List.head?_append,
        List.head?_eq_some_head Nat.toDigits_ne_nil, Option.some_or,
        ← List.head?_eq_some_head] at zero
      have := ih (n / 10) (by omega) zero
      omega

namespace Json

open Text (Glyph)

theorem natural?_toDigits (n : Nat) : natural? (Nat.toDigits 10 n) = some n := by
  rw [natural?, if_pos, Nat.ofDigitChars_toDigits (by omega) (by omega)]
  refine ⟨Nat.toDigits_ne_nil, ?_, fun zero => ?_⟩
  · rw [List.all_eq_true]
    exact fun c mem => Nat.isDigit_of_mem_toDigits (by omega) (by omega) mem
  · rw [head?_toDigits zero]
    rfl

theorem integer?_intText (n : Int) : integer? (intText n).toList = some n := by
  have natural := natural?_toDigits n.natAbs
  rw [intText]
  split
  · rename_i negative
    have text : ("-" ++ natText n.natAbs).toList = '-' :: Nat.toDigits 10 n.natAbs := by
      simp [natText]
    rw [text]
    change (natural? (Nat.toDigits 10 n.natAbs)).map (fun n : Nat => -(n : Int)) = some n
    rw [natural, Option.map_some, Option.some.injEq]
    omega
  · rw [natText, String.toList_ofList]
    unfold integer?
    split
    · rename_i ds same
      rw [same] at natural
      cases (natural?_eq_some natural).2 '-' List.mem_cons_self
    · rw [natural, Option.map_some, Option.some.injEq]
      omega

theorem word?_intText (n : Int) : word? (intText n).toList = some (.int n) := by
  have read := integer?_intText n
  have other : ∀ w ∈ ["null".toList, "true".toList, "false".toList], (intText n).toList ≠ w := by
    intro w mem same
    rw [same] at read
    have none : ∀ w ∈ ["null".toList, "true".toList, "false".toList], integer? w = none := by decide
    rw [none w mem] at read
    cases read
  rw [word?, if_neg (other _ (by simp)), if_neg (other _ (by simp)), if_neg (other _ (by simp)),
    read]
  rfl

theorem word?_bool (b : Bool) : word? (if b then "true" else "false").toList = some (.bool b) := by
  cases b with
  | false => rfl
  | true => rfl

/-! ## Escapes -/

theorem hexNumber?_concat {ds : List Char} {c : Char} {n d : Nat}
    (front : Yaml.hexNumber? ds = some n) (last : Yaml.hexValue? c = some d) :
    Yaml.hexNumber? (ds ++ [c]) = some (16 * n + d) := by
  obtain ⟨vs, read, rfl⟩ := Option.map_eq_some_iff.1 front
  rw [Yaml.hexNumber?, List.mapM_append, read]
  simp [last]

theorem hexValue?_digitChar {d : Nat} (small : d < 16) :
    Yaml.hexValue? (Nat.digitChar d) = some d := by
  have all : ∀ d < 16, Yaml.hexValue? (Nat.digitChar d) = some d := by decide
  exact all d small

theorem hexNumber?_toDigits (n : Nat) : Yaml.hexNumber? (Nat.toDigits 16 n) = some n := by
  induction n using Nat.strongRecOn with
  | ind n ih =>
    have nothing : Yaml.hexNumber? [] = some 0 := rfl
    by_cases small : n < 16
    · rw [Nat.toDigits_of_lt_base small, ← List.nil_append [_],
        hexNumber?_concat nothing (hexValue?_digitChar small), Nat.mul_zero, Nat.zero_add]
    · rw [Nat.toDigits_of_base_le (by omega) (by omega),
        hexNumber?_concat (ih (n / 16) (by omega)) (hexValue?_digitChar (by omega)),
        Nat.div_add_mod]

theorem hexNumber?_zero_cons (ds : List Char) :
    Yaml.hexNumber? ('0' :: ds) = Yaml.hexNumber? ds := by
  have zero : Yaml.hexValue? '0' = some 0 := by decide
  rw [Yaml.hexNumber?, Yaml.hexNumber?, List.mapM_cons, zero]
  cases ds.mapM Yaml.hexValue? <;> simp

theorem hexNumber?_hexDigits (width n : Nat) :
    Yaml.hexNumber? (Text.hexDigits width n) = some n := by
  have zeros : ∀ k, Yaml.hexNumber? (List.replicate k '0' ++ Nat.toDigits 16 n) = some n := by
    intro k
    induction k with
    | zero => exact hexNumber?_toDigits n
    | succ k ih => rw [List.replicate_succ, List.cons_append, hexNumber?_zero_cons, ih]
  exact zeros _

theorem length_hexDigits {n : Nat} (small : n < 0x10000) : (Text.hexDigits 4 n).length = 4 := by
  have few : (Nat.toDigits 16 n).length ≤ 4 :=
    (Nat.length_toDigits_le_iff (by omega) (by omega)).2 small
  rw [Text.hexDigits, List.length_append, List.length_replicate]
  omega

theorem spells_unitEscape {n : Nat} (small : n < 0x10000) {cs : List Char} {us : List Nat}
    (rest : Spells cs us) : Spells (unitEscape n ++ cs) (n :: us) :=
  .unit (length_hexDigits small) (hexNumber?_hexDigits 4 n) rest

theorem code_lt (g : Glyph) : g.code < 0x110000 := by
  cases g with
  | char c =>
    have code := code_char_cases c
    omega
  | half u =>
    have small := u.isLt
    rw [Glyph.code]
    omega

theorem lt_of_mem_units {g : Glyph} {n : Nat} (mem : n ∈ units g) : n < 0x10000 := by
  have small := code_lt g
  rw [units] at mem
  by_cases basic : g.code < 0x10000
  · rw [if_pos basic, List.mem_singleton] at mem
    omega
  · rw [if_neg basic, List.mem_cons, List.mem_singleton] at mem
    omega

theorem spells_units {vs : List Nat} (small : ∀ n ∈ vs, n < 0x10000) {cs : List Char}
    {us : List Nat} (rest : Spells cs us) : Spells (vs.flatMap unitEscape ++ cs) (vs ++ us) := by
  induction vs with
  | nil => exact rest
  | cons v vs ih =>
    obtain ⟨first, others⟩ := List.forall_mem_cons.1 small
    rw [List.flatMap_cons, List.append_assoc]
    exact spells_unitEscape first (ih others)

/-- Whichever of its forms a character is written in, it is read as the character. -/
theorem spells_escapeChar (c : Char) {cs : List Char} {us : List Nat} (rest : Spells cs us) :
    Spells (escapeChar c ++ cs) (units (.char c) ++ us) := by
  unfold escapeChar
  split_ifs with quote backslash newline ret tab back feed visible
  · exact .short (by rw [quote]; rfl) rest
  · exact .short (by rw [backslash]; rfl) rest
  · exact .short (by rw [newline]; rfl) rest
  · exact .short (by rw [ret]; rfl) rest
  · exact .short (by rw [tab]; rfl) rest
  · exact .short (by rw [back]; rfl) rest
  · exact .short (by rw [feed]; rfl) rest
  · exact .plain visible.1 quote backslash rest
  · exact spells_units (fun n mem => lt_of_mem_units mem) rest

theorem spells_escape (g : Glyph) {cs : List Char} {us : List Nat} (rest : Spells cs us) :
    Spells (escape g ++ cs) (units g ++ us) := by
  cases g with
  | char c => exact spells_escapeChar c rest
  | half u =>
    have basic : (Glyph.half u).code < 0x10000 := by
      have small := u.isLt
      rw [Glyph.code]
      omega
    rw [escape, units, if_pos basic]
    exact spells_unitEscape basic rest

theorem spells_flatMap_escape (gs : List Glyph) :
    Spells (gs.flatMap escape) (gs.flatMap units) := by
  induction gs with
  | nil => exact .nil
  | cons g gs ih =>
    rw [List.flatMap_cons, List.flatMap_cons]
    exact spells_escape g ih

theorem scans_stringText (s : List Glyph) {cs : List Char} {ls : List Lexeme}
    (rest : Scans cs ls) :
    Scans ((stringText s).toList ++ cs) (.scalar (.string (joined s)) :: ls) := by
  rw [stringText, String.toList_ofList, List.append_assoc, List.singleton_append]
  exact .string (spells_flatMap_escape s) rest

/-! ## Layout -/

theorem scans_blanks {blanks : List Char} (blank : ∀ c ∈ blanks, isBlank c = true)
    {cs : List Char} {ls : List Lexeme} (rest : Scans cs ls) : Scans (blanks ++ cs) ls := by
  induction blanks with
  | nil => exact rest
  | cons c blanks ih =>
    obtain ⟨first, others⟩ := List.forall_mem_cons.1 blank
    exact .blank first (ih others)

theorem scans_lineBreak (depth : Nat) {cs : List Char} {ls : List Lexeme} (rest : Scans cs ls) :
    Scans ((lineBreak depth).toList ++ cs) ls := by
  refine scans_blanks ?_ rest
  intro c mem
  simp only [lineBreak, String.toList_append, String.toList_ofList, List.mem_append] at mem
  rcases mem with newline | space
  · rw [List.mem_singleton.1 newline]
    rfl
  · rw [List.eq_of_mem_replicate space]
    rfl

theorem isEnd_lineBreak (depth : Nat) (cs : List Char) :
    IsEnd ((lineBreak depth).toList ++ cs) := by
  intro c first
  rw [lineBreak, String.toList_append] at first
  cases first
  rfl

theorem isEnd_cons {c : Char} (ends : isBreak c = true) (cs : List Char) : IsEnd (c :: cs) := by
  intro d first
  cases first
  exact ends

/-- Parts behind a first one, each on a line of its own behind a comma. -/
def moreParts (depth : Nat) (parts : List String) : List Char :=
  parts.flatMap fun part => ',' :: ((lineBreak depth).toList ++ part.toList)

theorem moreParts_cons (depth : Nat) (part : String) (parts : List String) :
    moreParts depth (part :: parts) =
      ',' :: ((lineBreak depth).toList ++ part.toList) ++ moreParts depth parts :=
  List.flatMap_cons

theorem isEnd_moreParts (depth more : Nat) (parts : List String) (cs : List Char) :
    IsEnd (moreParts more parts ++ ((lineBreak depth).toList ++ cs)) := by
  cases parts with
  | nil => exact isEnd_lineBreak depth cs
  | cons part parts => exact isEnd_cons rfl _

theorem intercalate_eq_moreParts (depth : Nat) (part : String) (parts : List String) :
    (String.intercalate ("," ++ lineBreak depth) (part :: parts)).toList =
      part.toList ++ moreParts depth parts := by
  rw [String.toList_intercalate]
  induction parts generalizing part with
  | nil => simp [moreParts]
  | cons next parts ih =>
    rw [List.map_cons, List.map_cons, List.intercalate_cons_cons, ← List.map_cons, ih next]
    simp [moreParts]

theorem toList_enclose_nil (opening closing : String) (depth : Nat) :
    (enclose opening closing depth []).toList = opening.toList ++ closing.toList := by
  rw [enclose, List.isEmpty_nil, if_pos rfl, String.toList_append]

theorem toList_enclose_cons (opening closing : String) (depth : Nat) (part : String)
    (parts : List String) :
    (enclose opening closing depth (part :: parts)).toList =
      opening.toList ++ ((lineBreak (depth + 1)).toList ++ (part.toList ++
        (moreParts (depth + 1) parts ++ ((lineBreak depth).toList ++ closing.toList)))) := by
  rw [enclose, if_neg (by simp)]
  simp only [String.toList_append, intercalate_eq_moreParts, List.append_assoc]

/-! ## Values -/

mutual

/-- There are no numbers but integers. -/
def IsIntegral : Json → Prop
  | .double _ => False
  | .array items => AreIntegral items
  | .object fields => HaveIntegral fields
  | _ => True

/-- The items have no numbers but integers. -/
def AreIntegral : List Json → Prop
  | [] => True
  | v :: vs => IsIntegral v ∧ AreIntegral vs

/-- The fields have no numbers but integers. -/
def HaveIntegral : List (List Glyph × Json) → Prop
  | [] => True
  | (_, v) :: fs => IsIntegral v ∧ HaveIntegral fs

end

theorem areIntegral_iff {vs : List Json} : AreIntegral vs ↔ ∀ v ∈ vs, v.IsIntegral := by
  induction vs with
  | nil => simp [AreIntegral]
  | cons v vs ih => rw [AreIntegral, ih, List.forall_mem_cons]

theorem haveIntegral_iff {fs : List (List Glyph × Json)} :
    HaveIntegral fs ↔ ∀ f ∈ fs, f.2.IsIntegral := by
  induction fs with
  | nil => simp [HaveIntegral]
  | cons f fs ih => rw [HaveIntegral, ih, List.forall_mem_cons]

mutual

/-- The text of a value has its lexemes, at any depth and before anything that ends a word. -/
theorem scans_render (v : Json) (integral : v.IsIntegral) (depth : Nat) {cs : List Char}
    {ls : List Lexeme} (ends : IsEnd cs) (rest : Scans cs ls) :
    Scans ((render depth v).toList ++ cs) (lexemes v ++ ls) := by
  match v, integral with
  | .null, _ =>
    rw [render]
    exact .word (if_pos rfl) ends rest
  | .bool b, _ =>
    rw [render]
    exact .word (word?_bool b) ends rest
  | .int n, _ =>
    rw [render]
    exact .word (word?_intText n) ends rest
  | .string s, _ =>
    rw [render]
    exact scans_stringText s rest
  | .array [], _ =>
    rw [render, renderItems, toList_enclose_nil]
    exact .mark rfl (.mark rfl rest)
  | .object [], _ =>
    rw [render, renderFields, toList_enclose_nil]
    exact .mark rfl (.mark rfl rest)
  | .array (v :: vs), ⟨first, others⟩ =>
    rw [render, renderItems, toList_enclose_cons, lexemes]
    simp only [List.append_assoc, List.cons_append]
    refine .mark rfl (scans_lineBreak (depth + 1) ?_)
    exact scans_render v first (depth + 1) (isEnd_moreParts _ _ _ _)
      (scans_moreItems vs others depth rest)
  | .object ((k, v) :: fs), ⟨first, others⟩ =>
    rw [render, renderFields, toList_enclose_cons, lexemes]
    simp only [String.toList_append, List.append_assoc, List.cons_append]
    refine .mark rfl (scans_lineBreak (depth + 1) (scans_stringText k (.mark rfl ?_)))
    refine .blank rfl ?_
    exact scans_render v first (depth + 1) (isEnd_moreParts _ _ _ _)
      (scans_moreFields fs others depth rest)

theorem scans_moreItems (vs : List Json) (integral : AreIntegral vs) (depth : Nat) {cs : List Char}
    {ls : List Lexeme} (rest : Scans cs ls) :
    Scans (moreParts (depth + 1) (renderItems (depth + 1) vs) ++
      ((lineBreak depth).toList ++ ']' :: cs)) (moreItems vs ++ ls) := by
  match vs, integral with
  | [], _ => exact scans_lineBreak depth (.mark rfl rest)
  | v :: vs, ⟨first, others⟩ =>
    rw [renderItems, moreParts_cons, moreItems]
    simp only [List.append_assoc, List.cons_append]
    refine .mark rfl (scans_lineBreak (depth + 1) ?_)
    exact scans_render v first (depth + 1) (isEnd_moreParts _ _ _ _)
      (scans_moreItems vs others depth rest)

theorem scans_moreFields (fs : List (List Glyph × Json)) (integral : HaveIntegral fs) (depth : Nat)
    {cs : List Char} {ls : List Lexeme} (rest : Scans cs ls) :
    Scans (moreParts (depth + 1) (renderFields (depth + 1) fs) ++
      ((lineBreak depth).toList ++ '\x7d' :: cs)) (moreFields fs ++ ls) := by
  match fs, integral with
  | [], _ => exact scans_lineBreak depth (.mark rfl rest)
  | (k, v) :: fs, ⟨first, others⟩ =>
    rw [renderFields, moreParts_cons, moreFields]
    simp only [String.toList_append, List.append_assoc, List.cons_append]
    refine .mark rfl (scans_lineBreak (depth + 1) (scans_stringText k (.mark rfl ?_)))
    refine .blank rfl ?_
    exact scans_render v first (depth + 1) (isEnd_moreParts _ _ _ _)
      (scans_moreFields fs others depth rest)

end

/-- The text of a value is a JSON text with the lexemes of the value. -/
theorem scans_text {v : Json} (integral : v.IsIntegral) : Scans v.text.toList v.lexemes := by
  have whole : Scans ((render 0 v).toList ++ []) (lexemes v ++ []) :=
    scans_render v integral 0 (fun _ none => by cases none) .nil
  rwa [List.append_nil, List.append_nil] at whole

end Json

end SourceAudit
