import DiagramSchema.Text.Blank
import DiagramSchema.Text.Word

/-! The reply of a language model, cleaned: blanks around it are dropped, and so is a code fence
around the whole. -/
namespace DiagramSchema.Reply

def fence : Text := ['\x60', '\x60', '\x60']

/-- What an opening fence may name the language with. -/
def isInfoChar (c : Char) : Bool := Text.isWord c || c == '-'

/-- What stands between the fences around a trimmed text. The closing fence ends the text. -/
def unfenced? (s : Text) : Option Text :=
  (fence.isPrefixOf? s).bind fun afterFence =>
    let afterInfo := afterFence.dropWhile isInfoChar
    -- what begins on the line of the opening fence is no body
    let gap := afterInfo.takeWhile Text.isBlank
    let body := afterInfo.dropWhile Text.isBlank
    if gap.contains '\n' && fence.isSuffixOf body then
      some (body.take (body.length - fence.length))
    else none

/-- The text of a reply without blanks and without a fence around it. -/
def cleaned (reply : Text) : Text :=
  let trimmed := Text.trim reply
  match unfenced? trimmed with
  | some body => Text.trim body
  | none => trimmed

example : cleaned "\x60\x60\x60prisma\nmodel A \x7b\x7d\n\x60\x60\x60\n" =
    ("model A \x7b\x7d" : Text) := by decide

end DiagramSchema.Reply
