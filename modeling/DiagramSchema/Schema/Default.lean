import DiagramSchema.Text.Blank
import DiagramSchema.Text.Digit

/-! Default values: the decorator `@default(…)` that a typed text is written as, and the text that
is read back from a line of decorators.

Writing knows five forms: the current time, a truth value, a whole number, a bracketed list, and a
string literal for everything else. A string literal escapes double quotes and nothing else.
Reading takes the first `@default(` of the line up to the parenthesis that closes it, and opens a
literal. -/
namespace DiagramSchema

/-- A value in the form in which a decorator holds it. -/
inductive DefaultForm where
  | now
  | truth (value : Text)
  | whole (digits : Text)
  | bracketed (items : Text)
  | literal (value : Text)
deriving DecidableEq, Repr

namespace DefaultForm

/-- Whether a character is the given small letter, whatever its case. Two letters have further
capital or small forms. -/
def sameLetter (letter c : Char) : Bool :=
  c.toLower == letter || (letter == 'i' && (c == 'ı' || c == 'İ')) || (letter == 's' && c == 'ſ')

/-- Whether a text is the given word of small letters, whatever its case. -/
def sameWord : Text → Text → Bool
  | [], [] => true
  | letter :: word, c :: rest => sameLetter letter c && sameWord word rest
  | _, _ => false

/-- One line feed at the end of a type name is passed over. -/
def withoutFinalBreak (s : Text) : Text :=
  if s.getLast? == some '\n' then s.dropLast else s

/-- Whether a type is one of the given names, whatever its case. -/
def isTypeAmong (names : List Text) (type : Text) : Bool :=
  names.any fun name => sameWord name (withoutFinalBreak type)

/-- Digits, after a minus sign or not. -/
def isWhole (value : Text) : Bool :=
  let digits := match value with
    | '-' :: rest => rest
    | _ => value
  !digits.isEmpty && digits.all Text.isDecimalDigit

/-- Whether a value is enclosed in brackets, on one line. -/
def isBracketed (value : Text) : Bool :=
  2 ≤ value.length && value.head? == some '[' && value.getLast? == some ']'
    && !value.contains '\n'

/-- The form of a trimmed value for a field type. A time other than the current one has none. -/
def ofTrimmed? (type value : Text) : Option DefaultForm :=
  if value = "now()" then some .now
  else if isTypeAmong ["boolean"] type && (sameWord "true" value || sameWord "false" value) then
    some (.truth (value.flatMap fun c => [c.toLower]))
  else if isTypeAmong ["int", "bigint", "float", "decimal"] type && isWhole value then
    some (.whole value)
  else if List.isSuffixOf ['[', ']'] type && isBracketed value then
    some (.bracketed value)
  else if !isTypeAmong ["datetime"] type then some (.literal value)
  else none

/-- The form of a value as typed. No text at all is no default; blank text is the empty literal. -/
def of? (type : Text) : Option Text → Option DefaultForm
  | none => none
  | some [] => none
  | some raw => ofTrimmed? type (Text.trim raw)

def escapeQuotes (value : Text) : Text :=
  value.flatMap fun c => if c == '"' then ['\\', '"'] else [c]

def inner : DefaultForm → Text
  | .now => "now()"
  | .truth value => value
  | .whole digits => digits
  | .bracketed items => items
  | .literal value => ['"'] ++ escapeQuotes value ++ ['"']

def opening : Text := "@default("

def decorator (form : DefaultForm) : Text := opening ++ form.inner ++ [')']

/-- The beginning of a text up to the parenthesis that closes it. Parentheses in literals do not
count, and a double quote behind a backslash does not end a literal. The whole text, if no
parenthesis closes it. `depth` parentheses are open, and `previous` is the character before. -/
def upToClosing (previous : Option Char) (quoted : Bool) (depth : Nat) : Text → Text
  | [] => []
  | c :: rest =>
    if c == '"' && previous != some '\\' then c :: upToClosing (some c) (!quoted) depth rest
    else if quoted then c :: upToClosing (some c) true depth rest
    else if c == '(' then c :: upToClosing (some c) false (depth + 1) rest
    else if c == ')' then
      match depth with
      | 0 => []
      | depth + 1 => c :: upToClosing (some c) false depth rest
    else c :: upToClosing (some c) false depth rest

/-- A backslash before a double quote is dropped. -/
def unescapeQuotes : Text → Text
  | '\\' :: '"' :: rest => '"' :: unescapeQuotes rest
  | c :: rest => c :: unescapeQuotes rest
  | [] => []

theorem head?_escapeQuotes (value : Text) : (escapeQuotes value).head? ≠ some '"' := by
  cases value with
  | nil => simp [escapeQuotes]
  | cons c rest => by_cases quote : c = '"' <;> simp [escapeQuotes, quote]

theorem unescapeQuotes_escapeQuotes (value : Text) : unescapeQuotes (escapeQuotes value) = value := by
  induction value with
  | nil => rfl
  | cons c rest ih =>
    by_cases quote : c = '"'
    · subst quote
      show unescapeQuotes ('\\' :: '"' :: escapeQuotes rest) = '"' :: rest
      rw [unescapeQuotes, ih]
    · have first : escapeQuotes (c :: rest) = c :: escapeQuotes rest := by
        simp [escapeQuotes, quote]
      rw [first, unescapeQuotes, ih]
      intro after _ starts
      exact head?_escapeQuotes rest (by simp [starts])

/-- The text of a literal; anything that is no literal stands for itself. -/
def opened (value : Text) : Text :=
  if 2 ≤ value.length && value.head? == some '"' && value.getLast? == some '"' then
    unescapeQuotes (value.drop 1).dropLast
  else value

def recover? (decorators : Text) : Option Text :=
  (Text.after? opening decorators).bind fun rest =>
    (Text.beforeLast? ')' rest).map fun value =>
      opened (Text.trim (upToClosing none false 0 value))

example : ((of? "Boolean" (some "TRUE ")).map decorator) = some ("@default(true)" : Text) := by
  decide
example : recover? "@default(\"a \\\"b\\\" (c)\") @unique" =
    some ("a \"b\" (c)" : Text) := by decide

end DefaultForm
end DiagramSchema
