import DiagramSchema.Json.Value

/-! Checked values: a value, or all the problems that keep it from being one.

Checks of the parts of a value are independent: each is carried out, whatever became of the others,
and the problems come in the order of the parts. -/
namespace DiagramSchema

inductive Step where
  | key (name : Text)
  | index (place : Nat)
deriving DecidableEq, Repr

inductive Fault where
  | missing
  | notText
  | notBoolean
  | unreadableBoolean
  | notNumber
  | unreadableNumber
  | notAmong (choices : List Text)
  | notList
  | notObject
  | notRecord (record : Text)
  | nothingToExtract
  | noTag
  | unknownTag (tag : Text) (known : List Text)
deriving DecidableEq, Repr

namespace Fault

def code : Fault → Text
  | .missing => "missing"
  | .notText => "string_type"
  | .notBoolean => "bool_type"
  | .unreadableBoolean => "bool_parsing"
  | .notNumber => "float_type"
  | .unreadableNumber => "float_parsing"
  | .notAmong _ => "literal_error"
  | .notList => "list_type"
  | .notObject => "dict_type"
  | .notRecord _ => "model_type"
  | .nothingToExtract => "model_attributes_type"
  | .noTag => "union_tag_not_found"
  | .unknownTag .. => "union_tag_invalid"

/-- Choices in words: commas, and `or` before the last. -/
def alternatives : List Text → Text
  | [] => []
  | [choice] => choice
  | [choice, last] => choice ++ " or " ++ last
  | choice :: rest => choice ++ ", " ++ alternatives rest

def marked (s : Text) : Text := ['\''] ++ s ++ ['\'']

def message : Fault → Text
  | .missing => "Field required"
  | .notText => "Input should be a valid string"
  | .notBoolean => "Input should be a valid boolean"
  | .unreadableBoolean => "Input should be a valid boolean, unable to interpret input"
  | .notNumber => "Input should be a valid number"
  | .unreadableNumber => "Input should be a valid number, unable to parse string as a number"
  | .notAmong choices => "Input should be " ++ alternatives (choices.map marked)
  | .notList => "Input should be a valid list"
  | .notObject => "Input should be a valid dictionary"
  | .notRecord record => "Input should be a valid dictionary or instance of " ++ record
  | .nothingToExtract => "Input should be a valid dictionary or object to extract fields from"
  | .noTag => "Unable to extract tag using discriminator 'type'"
  | .unknownTag tag known =>
    "Input tag " ++ marked tag ++ " found using 'type' does not match any of the expected tags: "
      ++ List.intercalate ", " (known.map marked)

end Fault

/-- A fault, and the way from the whole value to the place where it is. -/
structure Problem where
  path : List Step
  fault : Fault
deriving DecidableEq, Repr

/-- A value of the type, or the problems found. -/
inductive Checked (α : Type) where
  | ok (value : α)
  | refused (problems : List Problem)
deriving DecidableEq, Repr

namespace Checked

def fault {α : Type} (f : Fault) : Checked α := .refused [⟨[], f⟩]

/-- The outcome of a check of the part one step down. -/
def under {α : Type} (step : Step) : Checked α → Checked α
  | .ok value => .ok value
  | .refused problems => .refused (problems.map fun p => ⟨step :: p.path, p.fault⟩)

/-- The outcome of both checks: the problems of both count. -/
def both {α β : Type} : Checked (α → β) → Checked α → Checked β
  | .ok f, .ok value => .ok (f value)
  | .ok _, .refused problems => .refused problems
  | .refused problems, .ok _ => .refused problems
  | .refused problems, .refused more => .refused (problems ++ more)

instance : Applicative Checked where
  pure := .ok
  seq f x := both f (x ())

variable {α β : Type}

@[simp] theorem map_ok (f : α → β) (value : α) : f <$> Checked.ok value = .ok (f value) := rfl

@[simp] theorem seq_ok (f : α → β) (value : α) :
    Checked.ok f <*> Checked.ok value = .ok (f value) := rfl

@[simp] theorem under_ok (step : Step) (value : α) : (Checked.ok value).under step = .ok value := rfl

end Checked

namespace Problem

def stepJson : Step → Json
  | .key name => .text name
  | .index place => .int place

def json (p : Problem) : Json :=
  .object [("loc", .list (p.path.map stepJson)), ("type", .text p.fault.code),
    ("msg", .text p.fault.message)]

end Problem
end DiagramSchema
