import DiagramSchema.Text.Basic

/-! Comments in schema text: block comments from `/*` to the next `*/`, over line ends too, and then
line comments from `//` to the end of the line. A block comment that is never closed is none. Quotes
do not protect either mark. -/
namespace DiagramSchema.Comment

mutual
/-- The text without its block comments. -/
def withoutBlocks : Text → Text
  | [] => []
  | '/' :: '*' :: rest => match afterBlock? rest with
    | some remaining => remaining
    | none => '/' :: '*' :: rest
  | c :: rest => c :: withoutBlocks rest

/-- What remains behind the block comment that the text begins in, if it is closed. -/
def afterBlock? : Text → Option Text
  | [] => none
  | '*' :: '/' :: rest => some (withoutBlocks rest)
  | _ :: rest => afterBlock? rest
end

/-- The text without its line comments; `inside` tells whether one has begun. -/
def withoutLines (inside : Bool) : Text → Text
  | [] => []
  | '\n' :: rest => '\n' :: withoutLines false rest
  | '/' :: '/' :: rest => withoutLines true rest
  | c :: rest => if inside then withoutLines true rest else c :: withoutLines false rest

def strip (s : Text) : Text := withoutLines false (withoutBlocks s)

example : strip "a /* b\n */ c // d\ne /* f" = ("a  c \ne /* f" : Text) := by decide +kernel
example : strip "/*/ a */ b" = (" b" : Text) := by decide +kernel

end DiagramSchema.Comment
