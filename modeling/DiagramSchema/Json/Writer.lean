import DiagramSchema.Json.Value

/-! Writing JSON text, without blanks between tokens. -/
namespace DiagramSchema.Json

/-- One character of a text. Controls are written by their code. -/
def writtenChar (c : Char) : Text :=
  if c == '"' || c == '\\' then ['\\', c]
  else if c == '\n' then "\\n"
  else if c.toNat < 32 then "\\u" ++ Text.padded 16 4 c.toNat
  else [c]

def writtenText (s : Text) : Text := ['"'] ++ s.flatMap writtenChar ++ ['"']

/-- A finite number in its shortest form; what is not finite has its own words. -/
def writtenFloat : Binary64 → Text
  | .nan => "NaN"
  | .infinite negative => if negative then "-Infinity" else "Infinity"
  | value => value.text

mutual
def write : Json → Text
  | .null => "null"
  | .bool true => "true"
  | .bool false => "false"
  | .int value => Text.ofInt value
  | .float value => writtenFloat value
  | .text value => writtenText value
  | .list items => ['['] ++ List.intercalate [','] (writeItems items) ++ [']']
  | .object fields => ['\x7b'] ++ List.intercalate [','] (writeFields fields) ++ ['\x7d']

def writeItems : List Json → List Text
  | [] => []
  | item :: rest => write item :: writeItems rest

def writeFields : List (Text × Json) → List Text
  | [] => []
  | (key, value) :: rest => (writtenText key ++ [':'] ++ write value) :: writeFields rest
end

end DiagramSchema.Json
