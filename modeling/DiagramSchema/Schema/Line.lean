import DiagramSchema.Diagram.Basic
import DiagramSchema.Schema.Default
import DiagramSchema.Schema.Naming

/-! The lines of a model block, as data and as text. -/
namespace DiagramSchema

/-- A field with its type, the mark behind the type and its decorators; or a remark. -/
inductive Line where
  | field (name type mark : Text) (decorators : List Text)
  | remark (text : Text)
deriving DecidableEq, Repr

namespace Line

/-- A line as it stands in a block, two spaces from the margin. -/
def text : Line → Text
  | .field name type mark decorators =>
    "  " ++ name ++ " " ++ type ++ mark ++ decorators.flatMap fun decorator => ' ' :: decorator
  | .remark text => "  // " ++ text

/-- The decorator of a field that holds the key of a stored object. -/
def objectKey : Text := "@db.ObjectId"

def identity : Line :=
  .field "id" "String" [] ["@id", "@default(auto())", "@map(\"_id\")", objectKey]

def follows (key : Text) : Text := "@relation(fields: [" ++ key ++ "])"

def many (model : Text) : Line := .field (Naming.manyField model) model "[]" []

def key (model mark : Text) : Line := .field (Naming.keyField model) "String" mark [objectKey]

/-- A field that holds the model whose key is in another field. -/
def keyed (model mark : Text) : Line :=
  .field (Naming.uncapitalized model) model mark [follows (Naming.keyField model)]

/-- A field that may hold one model, whose key is kept on the other side. -/
def opposite (model : Text) : Line := .field (Naming.uncapitalized model) model "?" []

end Line

def Constraint.mark (c : Constraint) : Text :=
  if c.list then "[]" else if c.required then [] else "?"

def flagDecorator (flag : Bool) (decorator : Text) : List Text := if flag then [decorator] else []

/-- The decorators of an attribute: its default value, if it has a written form, and its flags. -/
def Attribute.decorators (a : Attribute) : List Text :=
  -- the form of a default depends on the type as it is written for a list
  let type := if a.constraint.list then a.type.name ++ "[]" else a.type.name
  let default := (DefaultForm.of? type a.constraint.defaultValue).map DefaultForm.decorator
  default.toList
    ++ flagDecorator a.constraint.unique "@unique"
    ++ flagDecorator a.constraint.updatedAt "@updatedAt"
    ++ flagDecorator a.constraint.isId Line.objectKey

/-- The line of an attribute. One without a name is called `field`. -/
def Attribute.line (a : Attribute) : Line :=
  .field (Text.orElse a.name "field") a.type.name a.constraint.mark a.decorators

/-- What a relation of a known cardinality adds to the source and to the target. The many sides of
a relation hold lists; otherwise one side holds the key of the other. Many to one is written like
many to many. -/
def Cardinality.lines (c : Cardinality) (source target : Text) : List Line × List Line :=
  match c with
  | .oneToMany => ([.many target], [.key source [], .keyed source []])
  | .oneToOne => ([.key target "?", .keyed target "?"], [.opposite source])
  | .manyToOne | .manyToMany => ([.many target], [.many source])

example : Line.identity.text =
    ("  id String @id @default(auto()) @map(\"_id\") @db.ObjectId" : Text) := by decide
example : (Line.keyed "User" []).text =
    ("  user User @relation(fields: [userId])" : Text) := by decide

end DiagramSchema
