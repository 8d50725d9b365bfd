import SourceAudit.TokenFile

/-!
# The cursor of a token file

Rules move the cursor of a token file and ask for the tokens around it, in any order. `callAll` is
the file after any such calls. A call does nothing to a file but set its cursor, and where it sets
it depends on two numbers only, the cursor and the number of tokens (`CursorCall.target`). So the
file after calls is known from the places that they lead to (`callAll_eq`), which are all at a token
or at the end, and what a call answers there is a plain look-up in the list of tokens.
-/

namespace SourceAudit

/-- A call on the cursor of a token file. -/
inductive CursorCall where
  | rewind
  | seek (index : Int)
  | next
  | current
  | peek (offset : Int)
  | valid
  | key

/-- What a call gives back. -/
inductive CursorAnswer where
  | nothing
  | token (token? : Option Token)
  | truth (b : Bool)
  | index (i : Nat)
  | failed (e : AccessError)
  deriving DecidableEq

namespace CursorCall

/-- Where a call leaves a cursor at `position` among `size` tokens. -/
def target (size position : Nat) : CursorCall → Nat
  | .rewind => 0
  | .seek index => if 0 ≤ index ∧ index < size then index.toNat else position
  | .next => min (position + 1) size
  | .current | .peek _ | .valid | .key => position

/-- Where calls leave a cursor at `position`. -/
def targetAll (size position : Nat) (calls : List CursorCall) : Nat :=
  calls.foldl (target size) position

theorem target_le {size position : Nat} (inside : position ≤ size) (c : CursorCall) :
    c.target size position ≤ size := by
  cases c with
  | rewind => exact Nat.zero_le size
  | seek index =>
    simp only [target]
    split <;> omega
  | next => exact Nat.min_le_right _ _
  | current | peek | valid | key => exact inside

theorem targetAll_le {size position : Nat} (inside : position ≤ size) (calls : List CursorCall) :
    targetAll size position calls ≤ size := by
  induction calls generalizing position with
  | nil => exact inside
  | cons c calls ih => exact ih (target_le inside c)

theorem targetAll_replicate_next (size n : Nat) :
    targetAll size size (List.replicate n .next) = size := by
  induction n with
  | zero => rfl
  | succ n ih =>
    have stays : target size size .next = size := Nat.min_eq_right (Nat.le_succ size)
    rw [List.replicate_succ, targetAll, List.foldl_cons, stays]
    exact ih

end CursorCall

namespace TokenFile

/-- The file after a call, and the answer. -/
def call (f : TokenFile) : CursorCall → TokenFile × CursorAnswer
  | .rewind => (f.rewind, .nothing)
  | .seek index =>
    match f.seek index with
    | .ok g => (g, .nothing)
    | .error e => (f, .failed e)
  | .next => (f.advance, .token f.advance.current)
  | .current => (f, .token f.current)
  | .peek offset => (f, .token (f.peek offset))
  | .valid => (f, .truth f.valid)
  | .key => (f, .index f.position)

/-- The file after calls. -/
def callAll (f : TokenFile) (calls : List CursorCall) : TokenFile :=
  calls.foldl (fun f c => (f.call c).1) f

/-- A loop that has an answer and calls for the next token until there is none: the tokens it gets,
and the file after it. -/
def readOn (f : TokenFile) : CursorAnswer → List Token × TokenFile
  | .token (some t) =>
    let rest := (f.call .next).1.readOn (f.call .next).2
    (t :: rest.1, rest.2)
  | _ => ([], f)
termination_by answer => (f.tokens.size - f.position, if answer = .token none then 0 else 1)
decreasing_by
  -- At the end the cursor stays, but then there is no token to go on with.
  by_cases inside : f.position < f.tokens.size
  · apply Prod.Lex.left
    simp only [call, advance, inside, if_true]
    omega
  · have stays : f.advance = f := if_neg inside
    have none : f.current = none := Array.getElem?_eq_none (by omega)
    simp only [call, stays, none]
    exact Prod.Lex.right _ (by simp)

/-- A loop that calls for the current token and then for the next one until there is none: the
tokens it gets, and the file after it. -/
def readOut (f : TokenFile) : List Token × TokenFile :=
  f.readOn (f.call .current).2

variable {f : TokenFile}

/-! ## Where calls lead -/

theorem advance_eq (inside : f.position ≤ f.size) :
    f.advance = { f with position := min (f.position + 1) f.size } := by
  unfold advance
  unfold size at inside ⊢
  split
  · rw [Nat.min_eq_left (by omega)]
  · have last : min (f.position + 1) f.tokens.size = f.position := by omega
    rw [last]

theorem call_seek (f : TokenFile) (index : Int) :
    f.call (.seek index) =
      if 0 ≤ index ∧ index < f.size then ({ f with position := index.toNat }, .nothing)
      else (f, .failed (.seek index f.path)) := by
  by_cases range : 0 ≤ index ∧ index < f.tokens.size <;> simp [call, seek, size, range]

/-- A call sets the cursor and changes nothing else. -/
theorem fst_call (inside : f.position ≤ f.size) (c : CursorCall) :
    (f.call c).1 = { f with position := c.target f.size f.position } := by
  cases c with
  | seek index =>
    rw [call_seek, CursorCall.target]
    split <;> rfl
  | next => exact advance_eq inside
  | rewind | current | peek | valid | key => rfl

theorem callAll_eq (inside : f.position ≤ f.size) (calls : List CursorCall) :
    f.callAll calls = { f with position := CursorCall.targetAll f.size f.position calls } := by
  induction calls generalizing f with
  | nil => rfl
  | cons c calls ih =>
    rw [callAll, List.foldl_cons, fst_call inside]
    exact ih (CursorCall.target_le inside c)

/-! ## What calls answer -/

theorem peek_eq_some_iff {offset : Int} {t : Token} :
    f.peek offset = some t ↔
      ∃ i : Nat, (i : Int) = f.position + offset ∧ f.tokens[i]? = some t := by
  unfold peek at?
  constructor
  · intro found
    split at found
    · cases found
    · exact ⟨_, Int.toNat_of_nonneg (by omega), found⟩
  · rintro ⟨i, place, found⟩
    rw [if_neg (by omega), ← place, Int.toNat_natCast]
    exact found

theorem get_natCast {i : Nat} {t : Token} (addressable : isAddressable i = true)
    (found : f.tokens[i]? = some t) : f.get i = .ok t := by
  have plain : f.at? (if (i : Int) < 0 then i + f.tokens.size else i) = some t := by
    rw [if_neg (by omega), at?, if_neg (by omega), Int.toNat_natCast, found]
  simp only [get, addressable, plain, Bool.not_true, Bool.false_eq_true, if_false]

/-- Only a call that seeks can fail. -/
theorem call_failed_iff {c : CursorCall} {e : AccessError} :
    (f.call c).2 = .failed e ↔
      ∃ index, c = .seek index ∧ ¬ (0 ≤ index ∧ index < f.size) ∧ e = .seek index f.path := by
  cases c with
  | seek index =>
    rw [call_seek]
    by_cases range : 0 ≤ index ∧ index < f.size
    · rw [if_pos range]
      constructor
      · rintro ⟨⟩
      · rintro ⟨i, same, outside, -⟩
        cases same
        exact absurd range outside
    · rw [if_neg range]
      constructor
      · rintro ⟨⟩
        exact ⟨index, rfl, range, rfl⟩
      · rintro ⟨i, same, -, rfl⟩
        cases same
        rfl
  | rewind | next | current | peek | valid | key => simp [call]

theorem readOut_eq (inside : f.position ≤ f.size) :
    f.readOut = (f.tokens.toList.drop f.position, f.drain) := by
  -- By induction on the number of tokens from the cursor on.
  induction left : f.tokens.size - f.position generalizing f with
  | zero =>
    have last : f.position = f.tokens.size := Nat.le_antisymm inside (by omega)
    have none : f.current = none := Array.getElem?_eq_none (by omega)
    have nothing : f.tokens.toList.drop f.position = [] := List.drop_of_length_le (by simp [last])
    have ended : f.readOut = ([], f) := by simp [readOut, call, none, readOn]
    rw [ended, nothing, drain, ← last]
  | succ n ih =>
    have short : f.position < f.tokens.size := by omega
    have here : f.current = some f.tokens[f.position] := Array.getElem?_eq_getElem short
    have next : f.advance = { f with position := f.position + 1 } := if_pos short
    have step : f.readOut = (f.tokens[f.position] :: f.advance.readOut.1, f.advance.readOut.2) := by
      simp [readOut, call, here, readOn]
    have rest : f.advance.readOut = (f.tokens.toList.drop (f.position + 1), f.drain) := by
      rw [next]
      apply ih
      · exact short
      · show f.tokens.size - (f.position + 1) = n
        omega
    have split := List.drop_eq_getElem_cons (l := f.tokens.toList) (i := f.position) short
    rw [step, rest, split, Array.getElem_toList]

theorem callAll_replicate_next (f : TokenFile) (n : Nat) :
    f.drain.callAll (List.replicate n .next) = f.drain := by
  rw [callAll_eq (Nat.le_refl f.size)]
  exact congrArg (fun i => { f with position := i }) (CursorCall.targetAll_replicate_next f.size n)

/-- A file with any tokens, after any calls. Path, source and tokens are what they were, and the
cursor is where the calls lead, which is at a token or at the end. It is valid exactly when there is
a current token, and that is the one at its place. The token at an offset is the one at that place,
if the place is one of the file: there is none before the first token. A call fails exactly when it
seeks a place that the file does not have, and then it changes nothing. A loop that calls for the
current token and then for the next one gets the tokens from the cursor on, each once, and leaves
the cursor at the end, where calls for the next token change nothing. -/
theorem cursor_is_safe (path source : String) (tokens : Array Token) (calls : List CursorCall) :
    let f := ({ path, source, tokens } : TokenFile).callAll calls
    (f = { path, source, tokens, position := CursorCall.targetAll tokens.size 0 calls } ∧
      f.position ≤ tokens.size) ∧
    ((f.valid = true ↔ ∃ t, f.current = some t) ∧
      ∀ t, f.current = some t → tokens[f.position]? = some t ∧
        (isAddressable f.position = true → f.get f.position = .ok t)) ∧
    (∀ offset t, f.peek offset = some t ↔
      ∃ i : Nat, (i : Int) = f.position + offset ∧ tokens[i]? = some t) ∧
    (∀ c e, (f.call c).2 = .failed e ↔
      ∃ index, c = .seek index ∧ ¬ (0 ≤ index ∧ index < tokens.size) ∧ e = .seek index path) ∧
    (∀ c e, (f.call c).2 = .failed e → (f.call c).1 = f) ∧
    f.readOut = (tokens.toList.drop f.position, { f with position := tokens.size }) ∧
    ∀ n, f.readOut.2.callAll (List.replicate n .next) = f.readOut.2 := by
  intro f
  have state : f = { path, source, tokens, position := CursorCall.targetAll tokens.size 0 calls } :=
    callAll_eq (Nat.zero_le _) calls
  have inside : CursorCall.targetAll tokens.size 0 calls ≤ tokens.size :=
    CursorCall.targetAll_le (Nat.zero_le _) calls
  rw [state]
  refine ⟨⟨rfl, inside⟩, ⟨?_, ?_⟩, fun _ _ => peek_eq_some_iff, fun _ _ => call_failed_iff, ?_,
    readOut_eq inside, ?_⟩
  · rw [← current_isSome_iff, Option.isSome_iff_exists]
  · intro t here
    exact ⟨here, fun addressable => get_natCast addressable here⟩
  · intro c e failed
    obtain ⟨index, rfl, outside, -⟩ := call_failed_iff.1 failed
    rw [call_seek, if_neg outside]
  · intro n
    rw [readOut_eq inside]
    exact callAll_replicate_next _ n

end TokenFile

end SourceAudit
