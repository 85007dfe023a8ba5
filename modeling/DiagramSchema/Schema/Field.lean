import DiagramSchema.Schema.Line
import DiagramSchema.Text.Word

/-! Field lines, read back: a name, a type with marks for lists and absence, and decorators. -/
namespace DiagramSchema

structure Field where
  name : Text
  type : Text
  isList : Bool := false
  isOptional : Bool := false
  decorators : Text := []
deriving DecidableEq, Repr

namespace Field

/-- The marks behind a type: whether one makes it a list and whether one makes it optional, and what
follows the marks. -/
def readMarks : Text → Bool × Bool × Text
  | '[' :: ']' :: rest =>
    let (_, isOptional, after) := readMarks rest
    (true, isOptional, after)
  | '?' :: rest =>
    let (isList, _, after) := readMarks rest
    (isList, true, after)
  | rest => (false, false, rest)

/-- The decorators in what follows the marks. They stand behind a blank and on one line. -/
def readDecorators? : Text → Option Text
  | [] => some []
  | c :: rest =>
    if Text.isBlank c then
      let decorators := Text.trimStart rest
      -- one line feed may end the text
      let onLine := if decorators.getLast? == some '\n' then decorators.dropLast else decorators
      if onLine.contains '\n' then none else some (Text.trim onLine)
    else none

/-- Reads a field line: a name, blanks, a type with marks, and decorators. -/
def read? (line : Text) : Option Field :=
  let name := line.takeWhile Text.isWord
  let afterName := line.dropWhile Text.isWord
  let afterGap := afterName.dropWhile Text.isBlank
  let type := afterGap.takeWhile Text.isWord
  let (isList, isOptional, rest) := readMarks (afterGap.dropWhile Text.isWord)
  if name.isEmpty || type.isEmpty || afterGap.length == afterName.length then none
  else (readDecorators? rest).map fun decorators => ⟨name, type, isList, isOptional, decorators⟩

/-- Whether a decorator stands on its own among the decorators. -/
def isDecoratedWith (decorator : Text) (f : Field) : Bool :=
  (Text.words f.decorators).contains decorator

def isIdentity (f : Field) : Bool := f.isDecoratedWith "@id"

def defaultValue (f : Field) : Option Text := DefaultForm.recover? f.decorators

def constraint (f : Field) : Constraint where
  required := !f.isList && !f.isOptional
  unique := f.isDecoratedWith "@unique"
  list := f.isList
  updatedAt := f.isDecoratedWith "@updatedAt"
  isId := f.isDecoratedWith Line.objectKey
  defaultValue := f.defaultValue

def attribute? (f : Field) : Option Attribute :=
  (ScalarType.ofName? f.type).map fun type => ⟨f.name, type, f.constraint⟩

end Field
end DiagramSchema
