import DiagramSchema.Text.Case

/-! Names that schema text derives from the names in a diagram. -/
namespace DiagramSchema.Naming

/-- A model is named after its entity, with a capital first letter. -/
def capitalized : Text → Text
  | [] => "Model"
  | c :: rest => Text.upperChar c ++ rest

/-- A field that holds one model is named after it, with a small first letter. -/
def uncapitalized : Text → Text
  | [] => "model"
  | c :: rest => Text.lowerChar c ++ rest

/-- A field that holds many models has the plural of the name. -/
def plural (name : Text) : Text :=
  if name.isEmpty then "items"
  else if name.getLast? == some 's' then name ++ "es"
  else name ++ "s"

def manyField (model : Text) : Text := plural (Text.lower model)

def keyField (model : Text) : Text := uncapitalized model ++ "Id"

example : manyField "Class" = "classes" := by decide
example : keyField "User" = "userId" := by decide

end DiagramSchema.Naming
