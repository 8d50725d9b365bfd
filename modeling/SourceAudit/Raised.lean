import SourceAudit.Value

/-!
# Exceptions of custom code

Custom code raises an exception by naming a class and giving arguments. `Raised.make` is what comes
of it: most classes take any arguments and show them, system errors turn into the class of their
number, errors in source text show where they are, and errors about encodings show the character.
Some classes refuse arguments; then the exception is another one, about the arguments. Asking an
exception for its text may raise as well, whatever custom code likes; `Raised.telling` is what it
raises then.
-/

namespace SourceAudit

/-- An exception of custom code. -/
structure Raised where
  className : String
  message : String
  args : List Value
  /-- The exception that asking for its text raises, if it does. -/
  telling : Option Raised := none
  deriving Repr

namespace Raised

/-- Whether the text of the exception can be told. -/
def isTold (e : Raised) : Bool :=
  e.telling.isNone

/-- An exception with one text as its argument. -/
def ofText (className text : String) : Raised :=
  { className := className, message := text, args := [.text text] }

/-- The exception about an integer with too many digits to be shown. -/
def tooManyDigits : Raised :=
  ofText "ValueError" DigitLimit.writing.message

/-- An exception with arguments and a text that shows some values, all arguments unless others are
given. -/
def plain (className text : String) (args : List Value) (shown : List Value := args) : Raised where
  className := className
  message := text
  args := args
  telling := if shown.all Value.isShowable then none else some tooManyDigits

def typeError (text : String) : Raised :=
  ofText "TypeError" text

/-- The text of an exception that shows its arguments: nothing without any, the only one, or all of
them in parentheses. -/
def plainText : List Value → String
  | [] => ""
  | [v] => v.display
  | vs => "(" ++ Value.literalItems vs ++ ")"

/-! ## System errors -/

def systemClasses : List String :=
  ["OSError", "BlockingIOError", "BrokenPipeError", "ChildProcessError", "ConnectionAbortedError",
   "ConnectionError", "ConnectionRefusedError", "ConnectionResetError", "FileExistsError",
   "FileNotFoundError", "InterruptedError", "IsADirectoryError", "NotADirectoryError",
   "PermissionError", "ProcessLookupError", "TimeoutError"]

/-- The names that stand for the general class of system errors. -/
def systemAliases : List String :=
  ["EnvironmentError", "IOError"]

/-- The classes that belong to numbers of system errors. -/
def numberedClasses : List (Int × String) :=
  [(1, "PermissionError"), (2, "FileNotFoundError"), (3, "ProcessLookupError"),
   (4, "InterruptedError"), (10, "ChildProcessError"), (11, "BlockingIOError"),
   (13, "PermissionError"), (17, "FileExistsError"), (20, "NotADirectoryError"),
   (21, "IsADirectoryError"), (32, "BrokenPipeError"), (103, "ConnectionAbortedError"),
   (104, "ConnectionResetError"), (108, "BrokenPipeError"), (110, "TimeoutError"),
   (111, "ConnectionRefusedError"), (114, "BlockingIOError"), (115, "BlockingIOError")]

def integer? : Value → Option Int
  | .int n => some n
  | .bool b => some (if b then 1 else 0)
  | _ => none

/-- The class of a system error: the general one turns into that of the number. -/
def systemClass (className : String) (number : Value) : String :=
  if className = "OSError" then
    ((integer? number).bind fun n => numberedClasses.lookup n).getD className
  else className

/-- Whether an integer has 64 bits. -/
def isWord (n : Int) : Bool :=
  -0x8000000000000000 ≤ n && n < 0x8000000000000000

/-- The number of characters that were written before a write would have blocked. -/
def writtenCount (v : Value) : Except Raised Unit :=
  match integer? v with
  | some n =>
    if isWord n then .ok ()
    else .error (ofText "ValueError" "cannot fit 'int' into an index-sized integer")
  | none =>
    .error (typeError ("'" ++ v.typeName ++ "' object cannot be interpreted as an integer"))

/-- The text of a system error: its number, what it means and the files it is about. -/
def systemText (number meaning : Value) (files : List Value) : String :=
  "[Errno " ++ number.display ++ "] " ++ meaning.display ++
    (if files.isEmpty then ""
      else ": " ++ String.intercalate " -> " (files.map Value.literal))

def isAbsent : Value → Bool
  | .null => true
  | _ => false

def isNumber : Value → Bool
  | .int _ | .bool _ | .double _ => true
  | _ => false

/-- A system error of a number and its meaning. A first file and, behind a place that is not used, a
second one may follow; where writing would block, a number follows that is not shown. -/
def numbered (className : String) (number meaning : Value) (more : List Value) : Raised :=
  let className := systemClass className number
  let first := more.head?.filter (!isAbsent ·)
  let second := (more[2]?).filter (!isAbsent ·)
  let about (files args : List Value) : Raised :=
    plain className (systemText number meaning files) args (number :: meaning :: files)
  match first with
  | none => about [] (number :: meaning :: more)
  | some file =>
    if className = "BlockingIOError" && isNumber file then
      match writtenCount file with
      | .error e => e
      | .ok _ => about [] (number :: meaning :: more)
    else about (file :: second.toList) [number, meaning]

/-- A system error. It has a number and its meaning when two to five arguments are given. -/
def system (className : String) (args : List Value) : Raised :=
  match args with
  | number :: meaning :: more =>
    if more.length ≤ 3 then numbered className number meaning more
    else plain className (plainText args) args
  | _ => plain className (plainText args) args

/-! ## Errors in source text -/

def syntaxClasses : List String :=
  ["SyntaxError", "IndentationError", "TabError"]

def lastPart (s : String) : String :=
  String.ofList (s.toList.reverse.takeWhile (· != '/')).reverse

/-- The text of an error in source text: the file and the line are shown where they are a text and
an integer. A line number of more than 64 bits is shown as -1. -/
def syntaxText (reason file line : Value) : String :=
  let lineText? : Option String :=
    match line with
    | .int n => some ("line " ++ intText (if isWord n then n else -1))
    | _ => none
  let parts := (file.text?.map lastPart).toList ++ lineText?.toList
  reason.display ++ (if parts.isEmpty then "" else " (" ++ String.intercalate ", " parts ++ ")")

/-- The exception about too few or too many arguments. -/
def badCount (subject least : String) (count given : Nat) : Raised :=
  typeError (subject ++ " takes " ++ least ++ " " ++ natText count ++ " arguments (" ++
    natText given ++ " given)")

/-- The place of an error in source text: the file, the line, the column, the text and perhaps an
end, which is a line and a column. -/
def syntaxPlace (items : List Value) : Except Raised (Value × Value) :=
  match items with
  | file :: line :: _ :: _ :: ends =>
    if ends.length > 2 then .error (badCount "function" "at most" 6 items.length)
    else if ends.length = 1 then
      .error (typeError "end_offset must be provided when end_lineno is provided")
    else .ok (file, line)
  | _ => .error (badCount "function" "at least" 4 items.length)

/-- An error in source text. Of two arguments the second is the place. -/
def inSource (className : String) (args : List Value) : Raised :=
  let reason := args.head?.getD .null
  match args with
  | [_, place] =>
    match place.elements? with
    | none => typeError ("'" ++ place.typeName ++ "' object is not iterable")
    | some items =>
      match syntaxPlace items with
      | .error e => e
      | .ok (file, line) => plain className (syntaxText reason file line) args [reason]
  | _ => plain className (syntaxText reason .null .null) args [reason]

/-! ## Errors about encodings -/

/-- The name of a value's type where a text was expected. -/
def foundType : Value → String
  | .null => "None"
  | v => v.typeName

/-- The text at a place among the arguments, counted from one; `subject` stands in front. -/
def textAt (subject : String) (place : Nat) (v : Value) : Except Raised String :=
  match v with
  | .text s => .ok s
  | v =>
    .error (typeError (subject ++ "argument " ++ natText place ++ " must be str, not " ++
      foundType v))

/-- An index among the arguments. -/
def indexOf (v : Value) : Except Raised Int :=
  match integer? v with
  | some n =>
    if isWord n then .ok n
    else .error (ofText "OverflowError" "Python int too large to convert to C ssize_t")
  | none =>
    .error (typeError ("'" ++ v.typeName ++ "' object cannot be interpreted as an integer"))

/-- The code point of a character as an escape of two, four or eight digits. -/
def codeEscape (c : Char) : String :=
  let n := c.toNat
  String.ofList (if n ≤ 0xFF then '\\' :: 'x' :: Text.hexDigits 2 n
    else if n ≤ 0xFFFF then '\\' :: 'u' :: Text.hexDigits 4 n
    else '\\' :: 'U' :: Text.hexDigits 8 n)

/-- What an error about an encoding is about: one character of a text, or a range of positions. -/
def affected (s : String) (first last : Int) : String :=
  let one := if last = first + 1 ∧ 0 ≤ first then s.toList[first.toNat]? else none
  match one with
  | some c => "character '" ++ codeEscape c ++ "' in position " ++ intText first
  | none => "characters in position " ++ intText first ++ "-" ++ intText (last - 1)

/-- What telling the text about what is affected raises: one character before the first is looked
for in vain. -/
def lookingFor (className : String) (first last : Int) : Option Raised :=
  if first < 0 ∧ last = first + 1 then
    some (ofText "SystemError" ("<built-in method __format__ of " ++ className ++
      " object> returned a result with an exception set"))
  else none

/-- A text that cannot be encoded. -/
def encoding (className : String) (args : List Value) : Except Raised Raised :=
  match args with
  | [codec, object, first, last, reason] => do
    let codec ← textAt "" 1 codec
    let object ← textAt "" 2 object
    let first ← indexOf first
    let last ← indexOf last
    let reason ← textAt "" 5 reason
    let text :=
      "'" ++ codec ++ "' codec can't encode " ++ affected object first last ++ ": " ++ reason
    return { plain className text args with telling := lookingFor className first last }
  | _ => .error (badCount "function" "exactly" 5 args.length)

/-- Octets that cannot be decoded; no argument that custom code can give is made of octets. -/
def decoding (args : List Value) : Except Raised Raised :=
  match args with
  | [codec, object, first, last, reason] => do
    let _ ← textAt "" 1 codec
    let _ ← indexOf first
    let _ ← indexOf last
    let _ ← textAt "" 5 reason
    .error (typeError ("a bytes-like object is required, not '" ++ object.typeName ++ "'"))
  | _ => .error (badCount "function" "exactly" 5 args.length)

/-- A text that cannot be translated. -/
def translating (className : String) (args : List Value) : Except Raised Raised :=
  match args with
  | [object, first, last, reason] => do
    let object ← textAt "" 1 object
    let first ← indexOf first
    let last ← indexOf last
    let reason ← textAt "" 4 reason
    let text := "can't translate " ++ affected object first last ++ ": " ++ reason
    return { plain className text args with telling := lookingFor className first last }
  | _ => .error (badCount "function" "exactly" 4 args.length)

/-! ## Groups -/

def sequence? : Value → Option (List Value)
  | .mapping _ | .set _ => none
  | v => v.elements?

/-- A group of exceptions. No argument that custom code can give is an exception, so there is
none. -/
def group (args : List Value) : Raised :=
  let subject := "BaseExceptionGroup.__new__() "
  match args with
  | [text, members] =>
    match textAt subject 1 text with
    | .error e => e
    | .ok _ =>
      match sequence? members with
      | none => typeError "second argument (exceptions) must be a sequence"
      | some [] =>
        ofText "ValueError" "second argument (exceptions) must be a non-empty sequence"
      | some _ =>
        ofText "ValueError" "Item 0 of second argument (exceptions) is not an exception"
  | _ => badCount "BaseExceptionGroup.__new__()" "exactly" 2 args.length

/-! ## All classes -/

/-- What is raised in either case. -/
def either : Except Raised Raised → Raised
  | .ok e => e
  | .error e => e

/-- What is raised when custom code asks for an exception of a class with arguments. -/
def make (className : String) (args : List Value) : Raised :=
  if systemAliases.contains className then system "OSError" args
  else if systemClasses.contains className then system className args
  else if syntaxClasses.contains className then inSource className args
  else if className = "UnicodeEncodeError" then either (encoding className args)
  else if className = "UnicodeDecodeError" then either (decoding args)
  else if className = "UnicodeTranslateError" then either (translating className args)
  else if className = "ExceptionGroup" ∨ className = "BaseExceptionGroup" then group args
  else
    match className, args with
    | "KeyError", [v] => plain className v.literal args
    | _, _ => plain className (plainText args) args

/-- Whether the exception interrupts the program and is never recorded. -/
def interrupts (e : Raised) : Bool :=
  ["KeyboardInterrupt", "SystemExit", "GeneratorExit", "BaseException"].contains e.className

/-- The classes by which the analyzer refuses to run. Custom code may raise them too. -/
def refusalClasses : List String :=
  ["AnalyzerError", "ConfigurationError", "NotFoundError", "UnknownRuleError",
   "DuplicateRuleError", "RunPreconditionError", "NoRulesError", "NoFilesError"]

/-- Whether the exception counts as a refusal of the analyzer where it is not caught before. -/
def isRefusal (e : Raised) : Bool :=
  refusalClasses.contains e.className

/-- The exit code, of an exception that asks the program to end: the absent value without arguments,
the only one, or all of them. -/
def exitCode? (e : Raised) : Option Value :=
  if e.className = "SystemExit" then
    match e.args with
    | [] => some .null
    | [v] => some v
    | vs => some (.list vs)
  else none

end Raised

end SourceAudit
