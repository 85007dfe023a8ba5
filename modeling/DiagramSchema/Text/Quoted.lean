import DiagramSchema.Text.Printable

/-! Quoted text for messages: a text between quotation marks that shows every character.

The mark is the apostrophe, unless the text holds apostrophes and no double quote. Within the
quotes a backslash stands before the mark, before a backslash, and before the code of a character
that is not printable. -/
namespace DiagramSchema.Text

def quoteMark (s : Text) : Char :=
  if s.contains '\'' && !s.contains '"' then '"' else '\''

def escaped (mark c : Char) : Text :=
  if c == mark || c == '\\' then ['\\', c]
  else if c == '\n' then "\\n"
  else if c == '\r' then "\\r"
  else if c == '\t' then "\\t"
  else if isPrintable c then [c]
  else if c.toNat < 0x100 then "\\x" ++ padded 16 2 c.toNat
  else if c.toNat < 0x10000 then "\\u" ++ padded 16 4 c.toNat
  else "\\U" ++ padded 16 8 c.toNat

def quoted (s : Text) : Text :=
  let mark := quoteMark s
  [mark] ++ s.flatMap (escaped mark) ++ [mark]

example : quoted "it's" = "\"it's\"" := by decide
example : quoted "'\"" = "'\\'\"'" := by decide
example : quoted "a\n\x00" = "'a\\n\\x00'" := by decide

end DiagramSchema.Text
