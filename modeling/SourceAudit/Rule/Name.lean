import SourceAudit.Value

/-!
# Rule names

Every rule has a qualified name: the namespace of rules, a dot, and the stem of the file that
defines it. A name that disables a rule has to look like one whose stem is an identifier of ASCII
letters, digits and underscores; a single line feed may follow it.
-/

namespace SourceAudit.RuleName

/-- The namespace of all rules. -/
def root : String := "rulecheck.rules"

/-- The qualified name of the rule with the given stem. -/
def qualify (stem : String) : String :=
  root ++ "." ++ stem

def isStemHead (c : Char) : Bool :=
  c.isAlpha || c == '_'

def isStemTail (c : Char) : Bool :=
  c.isAlphanum || c == '_'

/-- The characters before a line feed at the end. -/
def dropFinalNewline (cs : List Char) : List Char :=
  if cs.getLast? = some '\n' then cs.dropLast else cs

/-- Whether the characters are an identifier, a line feed at the end apart. -/
def isStem (cs : List Char) : Bool :=
  match cs with
  | [] => false
  | c :: rest => isStemHead c && (dropFinalNewline rest).all isStemTail

/-- What follows `lead` in `cs`, when `cs` starts with it. -/
def after? : List Char → List Char → Option (List Char)
  | [], cs => some cs
  | _ :: _, [] => none
  | a :: lead, c :: cs => if a = c then after? lead cs else none

/-- Whether a text has the form of a rule name. -/
def isWellFormed (s : String) : Bool :=
  ((after? (qualify "").toList s.toList).map isStem).getD false

/-- The name, of a value that names a rule. -/
def ofValue? : Value → Option String
  | .text s => if isWellFormed s then some s else none
  | _ => none

theorem after?_eq_some_iff (lead cs rest : List Char) :
    after? lead cs = some rest ↔ cs = lead ++ rest := by
  fun_induction after? lead cs with
  | case1 cs => simp [eq_comm]
  | case2 => simp
  | case3 lead cs a ih => simp [ih]
  | case4 a lead c cs h =>
    simp only [List.cons_append, List.cons.injEq]
    constructor
    · rintro ⟨⟩
    · rintro ⟨rfl, -⟩; exact absurd rfl h

example : isWellFormed "rulecheck.rules.line_length" = true := by decide +kernel
example : isWellFormed "rulecheck.rules.a-b" = false := by decide +kernel

end SourceAudit.RuleName
