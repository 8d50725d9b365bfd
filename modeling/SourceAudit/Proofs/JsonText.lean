import Mathlib.Data.List.Basic
import Mathlib.Data.List.Chain
import Mathlib.Tactic.SplitIfs
import SourceAudit.Json
import SourceAudit.Yaml.ScalarText

/-!
# Reading JSON

A JSON text is a row of lexemes with blanks between them: marks, and values without parts. The row
that a value stands for is `Json.lexemes`, and `Json.Scans` is the grammar that says which texts
have which lexemes. Strings are spelled in UTF-16 units, so a pair of halves in a string reads as
the character that it encodes (`Json.joined`). `Json.decode` reads a text. It keeps the place in the
text (`Spot`) while it makes lexemes of characters, and the values that are not complete (`Frame`)
while it makes a value of lexemes; when a key comes again in an object, the later value takes the
place of the earlier one. Numbers with a fraction or an exponent are left out.

* `Json.scan_of_scans`: a text of the grammar is read as its lexemes.
* `Json.build_lexemes`: the lexemes of a value are read as `Json.read` says.
* `Json.decode_of_scans`: so every text of a value decodes to that.
* `Json.read_of_isPlain`: that is the value itself if its keys are distinct and its strings
  separate, which means that no upper half stands directly before a lower one.
-/

namespace SourceAudit.Json

open Text (Glyph)

/-! ## Units -/

/-- The glyph of one UTF-16 unit. -/
def ofUnit (u : Nat) : Glyph :=
  (Glyph.ofCode? u).getD (.char Glyph.replacement)

/-- Whether two units are the upper and the lower one of a pair. -/
def isUnitPair (u v : Nat) : Bool :=
  0xD800 ≤ u && u < 0xDC00 && 0xDC00 ≤ v && v < 0xE000

/-- The glyphs of UTF-16 units: pairs become characters, and other halves stay. -/
def ofUnits : List Nat → List Glyph
  | u :: v :: us =>
    if isUnitPair u v then
      .char (Char.ofNat (0x10000 + 0x400 * (u - 0xD800) + (v - 0xDC00))) :: ofUnits us
    else ofUnit u :: ofUnits (v :: us)
  | [u] => [ofUnit u]
  | [] => []

/-- A string as it is read: pairs of halves become characters. -/
def joined (s : List Glyph) : List Glyph :=
  ofUnits (s.flatMap units)

/-! ## Lexemes -/

/-- The smallest parts of a text that mean something. -/
inductive Lexeme where
  | openArray
  | closeArray
  | openObject
  | closeObject
  | comma
  | colon
  /-- A value without parts. -/
  | scalar (v : Json)

mutual

/-- The lexemes of a value. -/
def lexemes : Json → List Lexeme
  | .array [] => [.openArray, .closeArray]
  | .array (v :: vs) => .openArray :: (lexemes v ++ moreItems vs)
  | .object [] => [.openObject, .closeObject]
  | .object ((k, v) :: fs) =>
    .openObject :: .scalar (.string (joined k)) :: .colon :: (lexemes v ++ moreFields fs)
  | .string s => [.scalar (.string (joined s))]
  | v => [.scalar v]

/-- The lexemes of an array behind an item. -/
def moreItems : List Json → List Lexeme
  | [] => [.closeArray]
  | v :: vs => .comma :: (lexemes v ++ moreItems vs)

/-- The lexemes of an object behind a field. -/
def moreFields : List (List Glyph × Json) → List Lexeme
  | [] => [.closeObject]
  | (k, v) :: fs =>
    .comma :: .scalar (.string (joined k)) :: .colon :: (lexemes v ++ moreFields fs)

end

/-- The mark that a character is. -/
def mark? (c : Char) : Option Lexeme :=
  if c = '[' then some .openArray
  else if c = ']' then some .closeArray
  else if c = '\x7b' then some .openObject
  else if c = '\x7d' then some .closeObject
  else if c = ',' then some .comma
  else if c = ':' then some .colon
  else none

/-- Whether a character may stand between lexemes. -/
def isBlank (c : Char) : Bool :=
  c == ' ' || c == '\t' || c == '\n' || c == '\r'

/-- Whether a word ends before the character. -/
def isBreak (c : Char) : Bool :=
  isBlank c || (mark? c).isSome

/-- What may follow a word: nothing, or a character that ends it. -/
def IsEnd (cs : List Char) : Prop :=
  ∀ c ∈ cs.head?, isBreak c = true

/-- A natural number without needless zeros. -/
def natural? (ds : List Char) : Option Nat :=
  if ds ≠ [] ∧ ds.all Char.isDigit ∧ (ds.head? = some '0' → ds.length = 1) then
    some (Nat.ofDigitChars 10 ds 0)
  else none

/-- An integer. -/
def integer? : List Char → Option Int
  | '-' :: ds => (natural? ds).map fun n : Nat => -(n : Int)
  | ds => (natural? ds).map fun n : Nat => (n : Int)

/-- The value that a word denotes. -/
def word? (w : List Char) : Option Json :=
  if w = "null".toList then some .null
  else if w = "true".toList then some (.bool true)
  else if w = "false".toList then some (.bool false)
  else (integer? w).map .int

/-! ## Strings -/

/-- The character that a letter behind a backslash stands for. -/
def escaped? (c : Char) : Option Char :=
  if c = '"' ∨ c = '\\' ∨ c = '/' then some c
  else if c = 'b' then some '\x08'
  else if c = 'f' then some '\x0c'
  else if c = 'n' then some '\n'
  else if c = 'r' then some '\r'
  else if c = 't' then some '\t'
  else none

/-- The texts between quotes, with the UTF-16 units that they spell. -/
inductive Spells : List Char → List Nat → Prop
  | nil : Spells [] []
  | plain {c : Char} {cs : List Char} {us : List Nat} (visible : 0x20 ≤ c.toNat) (quote : c ≠ '"')
      (backslash : c ≠ '\\') (rest : Spells cs us) : Spells (c :: cs) (units (.char c) ++ us)
  | short {e c : Char} {cs : List Char} {us : List Nat} (escape : escaped? e = some c)
      (rest : Spells cs us) : Spells ('\\' :: e :: cs) (units (.char c) ++ us)
  | unit {ds cs : List Char} {n : Nat} {us : List Nat} (four : ds.length = 4)
      (number : Yaml.hexNumber? ds = some n) (rest : Spells cs us) :
      Spells ('\\' :: 'u' :: ds ++ cs) (n :: us)

/-! ## The grammar -/

/-- The texts that have the lexemes. -/
inductive Scans : List Char → List Lexeme → Prop
  | nil : Scans [] []
  | blank {c : Char} {cs : List Char} {ls : List Lexeme} (blank : isBlank c = true)
      (rest : Scans cs ls) : Scans (c :: cs) ls
  | mark {c : Char} {l : Lexeme} {cs : List Char} {ls : List Lexeme} (mark : mark? c = some l)
      (rest : Scans cs ls) : Scans (c :: cs) (l :: ls)
  | word {w cs : List Char} {v : Json} {ls : List Lexeme} (word : word? w = some v)
      (ends : IsEnd cs) (rest : Scans cs ls) : Scans (w ++ cs) (.scalar v :: ls)
  | string {body cs : List Char} {us : List Nat} {ls : List Lexeme} (spelled : Spells body us)
      (rest : Scans cs ls) :
      Scans ('"' :: body ++ '"' :: cs) (.scalar (.string (ofUnits us)) :: ls)

/-! ## The decoder -/

/-- Where a reader stands in a text. -/
inductive Spot where
  | between
  /-- Behind a part of a word. -/
  | word (w : List Char)
  /-- In a string, behind units. -/
  | string (us : List Nat)
  | escape (us : List Nat)
  /-- Behind some of four hexadecimal digits. -/
  | unit (us : List Nat) (ds : List Char)

/-- Reads a character between lexemes. -/
def begin (c : Char) : List Lexeme × Spot :=
  if isBlank c then ([], .between)
  else
    match mark? c with
    | some l => ([l], .between)
    | none => ([], if c = '"' then .string [] else .word [c])

/-- Reads a character: the lexemes that it completes, and the spot behind it. -/
def Spot.next : Spot → Char → Option (List Lexeme × Spot)
  | .between, c => some (begin c)
  | .word w, c =>
    if isBreak c then (word? w).map fun v => (.scalar v :: (begin c).1, (begin c).2)
    else some ([], .word (w ++ [c]))
  | .string us, c =>
    if c = '"' then some ([.scalar (.string (ofUnits us))], .between)
    else if c = '\\' then some ([], .escape us)
    else if c.toNat < 0x20 then none
    else some ([], .string (us ++ units (.char c)))
  | .escape us, c =>
    if c = 'u' then some ([], .unit us [])
    else (escaped? c).map fun d => ([], .string (us ++ units (.char d)))
  | .unit us ds, c =>
    if ds.length < 3 then some ([], .unit us (ds ++ [c]))
    else (Yaml.hexNumber? (ds ++ [c])).map fun n => ([], .string (us ++ [n]))

/-- The lexemes that the end of the text completes. -/
def Spot.finish : Spot → Option (List Lexeme)
  | .between => some []
  | .word w => (word? w).map fun v => [.scalar v]
  | _ => none

/-- The lexemes of a text that is read from a spot on. -/
def scan (spot : Spot) : List Char → Option (List Lexeme)
  | [] => spot.finish
  | c :: cs => (spot.next c).bind fun r => (scan r.2 cs).map (r.1 ++ ·)

/-- A value that is not complete. -/
inductive Frame where
  /-- An array with the items before one. -/
  | array (items : List Json)
  /-- An object with the fields before one, and the key of this one. -/
  | object (fields : List (List Glyph × Json)) (key : List Glyph)

/-- What has to come next. -/
inductive Turn where
  | value
  /-- An item, or the end of an array. -/
  | items
  /-- A key, or the end of an object. -/
  | fields
  | key (fields : List (List Glyph × Json))
  | colon (fields : List (List Glyph × Json)) (key : List Glyph)
  /-- What follows a value. -/
  | done (v : Json)

/-- The fields with one more; a key that is there already keeps its place. -/
def putField (fields : List (List Glyph × Json)) (k : List Glyph) (v : Json) :
    List (List Glyph × Json) :=
  if fields.any (·.1 == k) then fields.map fun f => if f.1 = k then (k, v) else f
  else fields ++ [(k, v)]

/-- Reads the first lexeme of a value. -/
def open? (frames : List Frame) : Lexeme → Option (List Frame × Turn)
  | .scalar v => some (frames, .done v)
  | .openArray => some (frames, .items)
  | .openObject => some (frames, .fields)
  | _ => none

/-- Reads a lexeme behind a value. -/
def close? (v : Json) : List Frame → Lexeme → Option (List Frame × Turn)
  | .array items :: frames, .comma => some (.array (items ++ [v]) :: frames, .value)
  | .array items :: frames, .closeArray => some (frames, .done (.array (items ++ [v])))
  | .object fields k :: frames, .comma => some (frames, .key (putField fields k v))
  | .object fields k :: frames, .closeObject => some (frames, .done (.object (putField fields k v)))
  | _, _ => none

/-- Reads a lexeme. -/
def Turn.next (frames : List Frame) : Turn → Lexeme → Option (List Frame × Turn)
  | .value, l => open? frames l
  | .items, .closeArray => some (frames, .done (.array []))
  | .items, l => open? (.array [] :: frames) l
  | .fields, .closeObject => some (frames, .done (.object []))
  | .fields, .scalar (.string k) => some (frames, .colon [] k)
  | .key fs, .scalar (.string k) => some (frames, .colon fs k)
  | .colon fs k, .colon => some (.object fs k :: frames, .value)
  | .done v, l => close? v frames l
  | _, _ => none

/-- The value of lexemes that are read with values not complete. -/
def build (frames : List Frame) (turn : Turn) : List Lexeme → Option Json
  | [] =>
    match frames, turn with
    | [], .done v => some v
    | _, _ => none
  | l :: ls => (turn.next frames l).bind fun r => build r.1 r.2 ls

/-- The value that a text denotes. -/
def decode (text : String) : Option Json :=
  (scan .between text.toList).bind (build [] .value)

example : (decode "[01]").isNone = true ∧ (decode "[1,]").isNone = true ∧
    (decode "\"\\ud83\"").isNone = true := by decide +kernel
example : (decode "[-1, \x7b\"a\": \"\\uD83D\\ude00\", \"a\": null\x7d]").map text =
    some "[\n  -1,\n  \x7b\n    \"a\": null\n  \x7d\n]" := by decide +kernel

/-! ## From texts to lexemes -/

theorem scan_cons {spot next : Spot} {c : Char} {ls : List Lexeme}
    (read : spot.next c = some (ls, next)) (cs : List Char) :
    scan spot (c :: cs) = (scan next cs).map (ls ++ ·) := by
  rw [scan, read, Option.bind_some]

theorem scan_skip {spot next : Spot} {c : Char} (read : spot.next c = some ([], next))
    (cs : List Char) : scan spot (c :: cs) = scan next cs := by
  rw [scan_cons read]
  exact Option.map_id'

/-- In a string the units add up. -/
theorem scan_string {body : List Char} {us : List Nat} (spelled : Spells body us)
    (before : List Nat) (cs : List Char) :
    scan (.string before) (body ++ cs) = scan (.string (before ++ us)) cs := by
  induction spelled generalizing before with
  | nil => rw [List.nil_append, List.append_nil]
  | @plain c _ _ visible quote backslash _ ih =>
    have read : (Spot.string before).next c = some ([], .string (before ++ units (.char c))) := by
      rw [Spot.next, if_neg quote, if_neg backslash, if_neg (by omega)]
    rw [List.cons_append, scan_skip read, ih, List.append_assoc]
  | @short e c _ _ escape _ ih =>
    have letter : e ≠ 'u' := by
      rintro rfl
      cases escape
    have first : (Spot.string before).next '\\' = some ([], .escape before) := rfl
    have second : (Spot.escape before).next e =
        some ([], .string (before ++ units (.char c))) := by
      rw [Spot.next, if_neg letter, escape, Option.map_some]
    rw [List.cons_append, List.cons_append, scan_skip first, scan_skip second, ih,
      List.append_assoc]
  | @unit ds _ n _ four number _ ih =>
    obtain ⟨a, b, c, d, rfl⟩ : ∃ a b c d, ds = [a, b, c, d] := by
      match ds, four with
      | [a, b, c, d], _ => exact ⟨a, b, c, d, rfl⟩
    have last : (Spot.unit before [a, b, c]).next d = some ([], .string (before ++ [n])) := by
      rw [Spot.next, if_neg (by simp)]
      exact congrArg _ number
    simp only [List.cons_append, List.nil_append]
    have first : (Spot.string before).next '\\' = some ([], .escape before) := rfl
    have second : (Spot.escape before).next 'u' = some ([], .unit before []) := rfl
    have third : (Spot.unit before []).next a = some ([], .unit before [a]) := rfl
    have fourth : (Spot.unit before [a]).next b = some ([], .unit before [a, b]) := rfl
    have fifth : (Spot.unit before [a, b]).next c = some ([], .unit before [a, b, c]) := rfl
    rw [scan_skip first, scan_skip second, scan_skip third, scan_skip fourth, scan_skip fifth,
      scan_skip last, ih, List.append_assoc, List.singleton_append]

/-! ### Words -/

theorem mem_of_isBreak {c : Char} (ends : isBreak c = true) :
    c ∈ [' ', '\t', '\n', '\r', '[', ']', '\x7b', '\x7d', ',', ':'] := by
  by_contra none
  simp only [List.mem_cons, List.not_mem_nil, or_false, not_or] at none
  simp [isBreak, isBlank, mark?, none] at ends

theorem isBreak_of_isDigit {c : Char} (digit : c.isDigit = true) : isBreak c = false := by
  rw [← Bool.not_eq_true]
  intro ends
  have none : ([' ', '\t', '\n', '\r', '[', ']', '\x7b', '\x7d', ',', ':'].all
      fun d => !d.isDigit) = true := by decide
  have other := List.all_eq_true.1 none c (mem_of_isBreak ends)
  rw [digit] at other
  cases other

theorem natural?_eq_some {ds : List Char} {n : Nat} (read : natural? ds = some n) :
    ds ≠ [] ∧ ∀ c ∈ ds, c.isDigit = true := by
  unfold natural? at read
  split at read
  · rename_i h
    exact ⟨h.1, List.all_eq_true.1 h.2.1⟩
  · cases read

/-- A word consists of characters that are no breaks and no quotes. -/
theorem word?_eq_some {w : List Char} {v : Json} (read : word? w = some v) :
    w ≠ [] ∧ ∀ c ∈ w, isBreak c = false ∧ c ≠ '"' := by
  have digits : ∀ {ds : List Char} {n : Nat}, natural? ds = some n →
      ds ≠ [] ∧ ∀ c ∈ ds, isBreak c = false ∧ c ≠ '"' := by
    intro ds n number
    obtain ⟨some_digits, digits⟩ := natural?_eq_some number
    refine ⟨some_digits, fun c mem => ⟨isBreak_of_isDigit (digits c mem), ?_⟩⟩
    rintro rfl
    cases digits _ mem
  have letters : ∀ {w : List Char}, (w.all fun c => !isBreak c && c != '"') = true →
      ∀ c ∈ w, isBreak c = false ∧ c ≠ '"' := by
    intro w all
    simpa using all
  unfold word? at read
  split_ifs at read with null yes no
  · subst null
    exact ⟨by decide, letters (by decide)⟩
  · subst yes
    exact ⟨by decide, letters (by decide)⟩
  · subst no
    exact ⟨by decide, letters (by decide)⟩
  · obtain ⟨n, number, -⟩ := Option.map_eq_some_iff.1 read
    unfold integer? at number
    split at number
    · obtain ⟨k, natural, -⟩ := Option.map_eq_some_iff.1 number
      refine ⟨by simp, List.forall_mem_cons.2 ⟨by decide, (digits natural).2⟩⟩
    · obtain ⟨k, natural, -⟩ := Option.map_eq_some_iff.1 number
      exact digits natural

theorem scan_word {w : List Char} (plain : ∀ c ∈ w, isBreak c = false) (before cs : List Char) :
    scan (.word before) (w ++ cs) = scan (.word (before ++ w)) cs := by
  induction w generalizing before with
  | nil => rw [List.nil_append, List.append_nil]
  | cons c w ih =>
    obtain ⟨first, others⟩ := List.forall_mem_cons.1 plain
    have read : (Spot.word before).next c = some ([], .word (before ++ [c])) := by
      rw [Spot.next, first]
      rfl
    rw [List.cons_append, scan_skip read, ih others, List.append_assoc, List.singleton_append]

/-- A word ends at a break, which is read as it is between lexemes, or at the end. -/
theorem scan_word_end {w cs : List Char} {v : Json} (read : word? w = some v) (ends : IsEnd cs) :
    scan (.word w) cs = (scan .between cs).map (.scalar v :: ·) := by
  cases cs with
  | nil =>
    rw [scan, scan, Spot.finish, Spot.finish, read]
    rfl
  | cons c cs =>
    have word : (Spot.word w).next c = some (.scalar v :: (begin c).1, (begin c).2) := by
      rw [Spot.next, ends c rfl, if_pos rfl, read]
      rfl
    have between : Spot.between.next c = some ((begin c).1, (begin c).2) := rfl
    rw [scan_cons word, scan_cons between, Option.map_map]
    rfl

theorem begin_of_mark? {c : Char} {l : Lexeme} (mark : mark? c = some l) :
    begin c = ([l], .between) := by
  have solid : isBlank c = false := by
    rw [← Bool.not_eq_true]
    intro blank
    simp only [isBlank, Bool.or_eq_true, beq_iff_eq] at blank
    rcases blank with ((rfl | rfl) | rfl) | rfl <;> cases mark
  rw [begin, solid, mark]
  rfl

theorem begin_of_isBreak {c : Char} (inner : isBreak c = false) (quote : c ≠ '"') :
    begin c = ([], .word [c]) := by
  rw [isBreak, Bool.or_eq_false_iff, Option.isSome_eq_false_iff, Option.isNone_iff_eq_none] at inner
  rw [begin, inner.1, inner.2]
  simp only [if_neg quote]
  rfl

/-- A text of the grammar is read as its lexemes. -/
theorem scan_of_scans {cs : List Char} {ls : List Lexeme} (scans : Scans cs ls) :
    scan .between cs = some ls := by
  induction scans with
  | nil => rfl
  | @blank c _ _ blank _ ih =>
    have read : Spot.between.next c = some ([], .between) := by
      rw [Spot.next, begin, blank, if_pos rfl]
    rw [scan_skip read, ih]
  | @mark c l _ _ mark _ ih =>
    have read : Spot.between.next c = some ([l], .between) := by
      rw [Spot.next, begin_of_mark? mark]
    rw [scan_cons read, ih]
    rfl
  | @word w cs v ls word ends _ ih =>
    obtain ⟨some_chars, plain⟩ := word?_eq_some word
    obtain ⟨c, rest, rfl⟩ := List.exists_cons_of_ne_nil some_chars
    obtain ⟨⟨inner, quote⟩, others⟩ := List.forall_mem_cons.1 plain
    have read : Spot.between.next c = some ([], .word [c]) := by
      rw [Spot.next, begin_of_isBreak inner quote]
    rw [List.cons_append, scan_skip read, scan_word (fun d mem => (others d mem).1),
      List.singleton_append, scan_word_end word ends, ih, Option.map_some]
  | @string body cs us ls spelled _ ih =>
    have opened : Spot.between.next '"' = some ([], .string []) := rfl
    have closed :
        (Spot.string us).next '"' = some ([.scalar (.string (ofUnits us))], .between) := by
      rw [Spot.next, if_pos rfl]
    rw [List.cons_append, scan_skip opened, scan_string spelled, List.nil_append,
      scan_cons closed, ih]
    rfl

/-! ## From lexemes to values -/

mutual

/-- The value as its text is read: strings are joined, and of fields with one key the last counts,
in the place of the first. -/
def read : Json → Json
  | .string s => .string (joined s)
  | .array items => .array (readItems items)
  | .object fields => .object (readFields [] fields)
  | v => v

/-- Items as they are read. -/
def readItems : List Json → List Json
  | [] => []
  | v :: vs => read v :: readItems vs

/-- Fields as they are read, behind others. -/
def readFields (before : List (List Glyph × Json)) :
    List (List Glyph × Json) → List (List Glyph × Json)
  | [] => before
  | (k, v) :: fs => readFields (putField before (joined k) (read v)) fs

end

/-- An array does not end where an item begins. -/
theorem build_items (v : Json) (frames : List Frame) (ls : List Lexeme) :
    build frames .items (lexemes v ++ ls) =
      build (.array [] :: frames) .value (lexemes v ++ ls) := by
  match v with
  | .null | .bool _ | .int _ | .double _ | .string _ | .array [] | .array (_ :: _) | .object []
  | .object (_ :: _) => rfl

mutual

/-- The lexemes of a value are read as the value is, wherever they stand. -/
theorem build_lexemes (v : Json) (frames : List Frame) (ls : List Lexeme) :
    build frames .value (lexemes v ++ ls) = build frames (.done v.read) ls := by
  match v with
  | .null | .bool _ | .int _ | .double _ | .string _ | .array [] | .object [] => rfl
  | .array (v :: vs) =>
    calc build frames .value (lexemes (.array (v :: vs)) ++ ls)
        = build frames .items (lexemes v ++ (moreItems vs ++ ls)) := by
          rw [lexemes, List.cons_append, List.append_assoc]
          rfl
      _ = build (.array [] :: frames) (.done v.read) (moreItems vs ++ ls) := by
          rw [build_items, build_lexemes v]
      _ = build frames (.done (read (.array (v :: vs)))) ls := by
          rw [build_moreItems vs]
          rfl
  | .object ((k, v) :: fs) =>
    calc build frames .value (lexemes (.object ((k, v) :: fs)) ++ ls)
        = build (.object [] (joined k) :: frames) .value
            (lexemes v ++ (moreFields fs ++ ls)) := by
          rw [lexemes, List.cons_append, List.cons_append, List.cons_append, List.append_assoc]
          rfl
      _ = build (.object [] (joined k) :: frames) (.done v.read) (moreFields fs ++ ls) :=
          build_lexemes v _ _
      _ = build frames (.done (read (.object ((k, v) :: fs)))) ls := by
          rw [build_moreFields fs]
          rfl

theorem build_moreItems (vs : List Json) (before : List Json) (w : Json) (frames : List Frame)
    (ls : List Lexeme) :
    build (.array before :: frames) (.done w) (moreItems vs ++ ls) =
      build frames (.done (.array (before ++ w :: readItems vs))) ls := by
  match vs with
  | [] => rfl
  | v :: vs =>
    calc build (.array before :: frames) (.done w) (moreItems (v :: vs) ++ ls)
        = build (.array (before ++ [w]) :: frames) .value
            (lexemes v ++ (moreItems vs ++ ls)) := by
          rw [moreItems, List.cons_append, List.append_assoc]
          rfl
      _ = build (.array (before ++ [w]) :: frames) (.done v.read) (moreItems vs ++ ls) :=
          build_lexemes v _ _
      _ = build frames (.done (.array (before ++ w :: readItems (v :: vs)))) ls := by
          rw [build_moreItems vs, readItems, List.append_assoc, List.singleton_append]

theorem build_moreFields (fs : List (List Glyph × Json)) (before : List (List Glyph × Json))
    (key : List Glyph) (w : Json) (frames : List Frame) (ls : List Lexeme) :
    build (.object before key :: frames) (.done w) (moreFields fs ++ ls) =
      build frames (.done (.object (readFields (putField before key w) fs))) ls := by
  match fs with
  | [] => rfl
  | (k, v) :: fs =>
    calc build (.object before key :: frames) (.done w) (moreFields ((k, v) :: fs) ++ ls)
        = build (.object (putField before key w) (joined k) :: frames) .value
            (lexemes v ++ (moreFields fs ++ ls)) := by
          rw [moreFields, List.cons_append, List.cons_append, List.cons_append, List.append_assoc]
          rfl
      _ = build (.object (putField before key w) (joined k) :: frames) (.done v.read)
            (moreFields fs ++ ls) := build_lexemes v _ _
      _ = build frames
            (.done (.object (readFields (putField before key w) ((k, v) :: fs)))) ls := by
          rw [build_moreFields fs, readFields]

end

/-- Every text of a value decodes to the value as it is read. -/
theorem decode_of_scans {v : Json} {text : String} (scans : Scans text.toList v.lexemes) :
    decode text = some v.read := by
  have built := build_lexemes v [] []
  rw [List.append_nil] at built
  rw [decode, scan_of_scans scans, Option.bind_some, built]
  rfl

/-! ## Strings that are read as they are -/

/-- Whether one glyph and the next are the halves of a pair. -/
def isPair : Glyph → Glyph → Bool
  | .half a, .half b => (Glyph.pair? a b).isSome
  | _, _ => false

/-- No upper half stands directly before a lower one. -/
def AreSeparate (gs : List Glyph) : Prop :=
  gs.IsChain fun g h => isPair g h = false

instance (gs : List Glyph) : Decidable (AreSeparate gs) :=
  inferInstanceAs (Decidable (gs.IsChain _))

theorem areSeparate_ofString (s : String) : AreSeparate (Glyph.ofString s) := by
  rw [Glyph.ofString, AreSeparate, List.isChain_map]
  induction s.toList with
  | nil => exact .nil
  | cons c cs ih =>
    cases cs with
    | nil => exact .singleton c
    | cons d cs => exact .cons_cons rfl ih

theorem code_char_cases (c : Char) :
    (Glyph.char c).code < 0xD800 ∨
      0xE000 ≤ (Glyph.char c).code ∧ (Glyph.char c).code < 0x110000 := by
  have valid : c.toNat < 0xD800 ∨ 0xDFFF < c.toNat ∧ c.toNat < 0x110000 := c.valid
  simp only [Glyph.code]
  omega

theorem ofUnit_code (g : Glyph) : ofUnit g.code = g := by
  cases g with
  | char c =>
    have valid : c.toNat.isValidChar := c.valid
    have same := Char.ofNat_toNat c
    rw [Char.ofNat, dif_pos valid] at same
    rw [ofUnit, Glyph.code, Glyph.ofCode?, dif_pos valid, Option.getD_some, same]
  | half u =>
    have notChar : ¬ (0xD800 + u.val).isValidChar := by
      have small := u.isLt
      unfold Nat.isValidChar
      omega
    have inside : 0xD800 + u.val - 0xD800 < 0x800 := by omega
    rw [ofUnit, Glyph.code, Glyph.ofCode?, dif_neg notChar, dif_pos inside, Option.getD_some]
    exact congrArg Glyph.half (Fin.ext (Nat.add_sub_cancel_left _ _))

/-- A unit that makes no pair with the next one is read on its own. -/
theorem ofUnits_cons {u : Nat} {us : List Nat}
    (single : ∀ v ∈ us.head?, isUnitPair u v = false) :
    ofUnits (u :: us) = ofUnit u :: ofUnits us := by
  cases us with
  | nil => rfl
  | cons v vs =>
    have apart : isUnitPair u v = false := single v rfl
    rw [ofUnits, apart]
    rfl

theorem head?_units (g : Glyph) : ∃ n, (units g).head? = some n := by
  by_cases basic : g.code < 0x10000
  · exact ⟨_, by rw [units, if_pos basic, List.head?_cons]⟩
  · exact ⟨_, by rw [units, if_neg basic, List.head?_cons]⟩

theorem isUnitPair_of_isPair {g h : Glyph} (apart : isPair g h = false) :
    ∀ v ∈ (units h).head?, isUnitPair g.code v = false := by
  intro v first
  rw [← Bool.not_eq_true]
  simp only [isUnitPair, Bool.and_eq_true, decide_eq_true_eq]
  rintro ⟨⟨⟨above, upper⟩, lower⟩, below⟩
  cases g with
  | char c =>
    have code := code_char_cases c
    omega
  | half a =>
    cases h with
    | char d =>
      have code := code_char_cases d
      by_cases basic : (Glyph.char d).code < 0x10000
      · rw [units, if_pos basic] at first
        obtain rfl := Option.some.inj first
        omega
      · rw [units, if_neg basic] at first
        obtain rfl := Option.some.inj first
        omega
    | half b =>
      have small := b.isLt
      have basic : (Glyph.half b).code < 0x10000 := by
        rw [Glyph.code]
        omega
      rw [units, if_pos basic] at first
      obtain rfl := Option.some.inj first
      simp only [Glyph.code] at upper lower
      simp only [isPair, Glyph.pair?] at apart
      rw [if_pos (by omega)] at apart
      cases apart

theorem ofUnits_units_append {g : Glyph} {us : List Nat}
    (single : ∀ v ∈ us.head?, isUnitPair g.code v = false) :
    ofUnits (units g ++ us) = g :: ofUnits us := by
  by_cases basic : g.code < 0x10000
  · rw [units, if_pos basic, List.singleton_append, ofUnits_cons single, ofUnit_code]
  · cases g with
    | half u =>
      have small := u.isLt
      rw [Glyph.code] at basic
      omega
    | char c =>
      have code := code_char_cases c
      rw [units, if_neg basic]
      simp only [Glyph.code] at code basic ⊢
      have pair : isUnitPair (0xD800 + (c.toNat - 0x10000) / 0x400)
          (0xDC00 + (c.toNat - 0x10000) % 0x400) = true := by
        simp only [isUnitPair, Bool.and_eq_true, decide_eq_true_eq]
        omega
      have joined : 0x10000 + 0x400 * (0xD800 + (c.toNat - 0x10000) / 0x400 - 0xD800) +
          (0xDC00 + (c.toNat - 0x10000) % 0x400 - 0xDC00) = c.toNat := by omega
      rw [List.cons_append, List.cons_append, List.nil_append, ofUnits, if_pos pair, joined,
        Char.ofNat_toNat]

/-- Separate glyphs are read as they are. -/
theorem joined_of_areSeparate {gs : List Glyph} (separate : AreSeparate gs) : joined gs = gs := by
  unfold joined
  induction gs with
  | nil => rfl
  | cons g gs ih =>
    rw [List.flatMap_cons, ofUnits_units_append, ih separate.tail]
    intro v first
    cases gs with
    | nil => cases first
    | cons h gs =>
      refine isUnitPair_of_isPair (List.isChain_cons_cons.1 separate).1 v ?_
      obtain ⟨n, units⟩ := head?_units h
      rw [List.flatMap_cons, List.head?_append, units, Option.some_or] at first
      rw [units]
      exact first

/-! ## Values that are read as they are -/

mutual

/-- All strings are separate, and in every object the keys are distinct. -/
def IsPlain : Json → Prop
  | .string s => AreSeparate s
  | .array items => ArePlain items
  | .object fields => (fields.map Prod.fst).Nodup ∧ HavePlain fields
  | _ => True

/-- The items are plain. -/
def ArePlain : List Json → Prop
  | [] => True
  | v :: vs => IsPlain v ∧ ArePlain vs

/-- The fields have separate keys and plain values. -/
def HavePlain : List (List Glyph × Json) → Prop
  | [] => True
  | (k, v) :: fs => AreSeparate k ∧ IsPlain v ∧ HavePlain fs

end

theorem arePlain_iff {vs : List Json} : ArePlain vs ↔ ∀ v ∈ vs, v.IsPlain := by
  induction vs with
  | nil => simp [ArePlain]
  | cons v vs ih => rw [ArePlain, ih, List.forall_mem_cons]

theorem havePlain_iff {fs : List (List Glyph × Json)} :
    HavePlain fs ↔ ∀ f ∈ fs, AreSeparate f.1 ∧ f.2.IsPlain := by
  induction fs with
  | nil => simp [HavePlain]
  | cons f fs ih => rw [HavePlain, ih, List.forall_mem_cons, and_assoc]

theorem putField_of_notMem {fields : List (List Glyph × Json)} {k : List Glyph}
    (new : k ∉ fields.map Prod.fst) (v : Json) : putField fields k v = fields ++ [(k, v)] := by
  rw [putField, if_neg]
  simpa using new

mutual

/-- A plain value is read as it is. -/
theorem read_of_isPlain (v : Json) (plain : v.IsPlain) : v.read = v := by
  match v, plain with
  | .null, _ | .bool _, _ | .int _, _ | .double _, _ => rfl
  | .string s, separate => rw [read, joined_of_areSeparate separate]
  | .array items, plain => rw [read, readItems_of_arePlain items plain]
  | .object fields, ⟨distinct, plain⟩ =>
    rw [read, readFields_of_havePlain fields plain [] distinct, List.nil_append]

theorem readItems_of_arePlain (vs : List Json) (plain : ArePlain vs) : readItems vs = vs := by
  match vs, plain with
  | [], _ => rfl
  | v :: vs, ⟨first, others⟩ =>
    rw [readItems, read_of_isPlain v first, readItems_of_arePlain vs others]

theorem readFields_of_havePlain (fs : List (List Glyph × Json)) (plain : HavePlain fs)
    (before : List (List Glyph × Json)) (distinct : ((before ++ fs).map Prod.fst).Nodup) :
    readFields before fs = before ++ fs := by
  match fs, plain with
  | [], _ => rw [readFields, List.append_nil]
  | (k, v) :: fs, ⟨key, first, others⟩ =>
    have new : k ∉ before.map Prod.fst := by
      rw [List.map_append, List.nodup_append] at distinct
      intro old
      exact distinct.2.2 k old k List.mem_cons_self rfl
    rw [List.append_cons] at distinct ⊢
    rw [readFields, joined_of_areSeparate key, read_of_isPlain v first, putField_of_notMem new v,
      readFields_of_havePlain fs others _ distinct]

end

end SourceAudit.Json
