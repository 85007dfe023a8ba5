import DiagramSchema.Keyed
import DiagramSchema.Schema.Comment
import DiagramSchema.Schema.Field

/-! The models in schema text.

A block opens on a line `model Name {` and closes on a line that holds `}` alone; braces within
field lines have no meaning. What stands outside of blocks is passed over, and so are the lines in
a block that are no fields. A block that is never closed reaches to the end. -/
namespace DiagramSchema

/-- A block as it stands in the text. The lines of its body are trimmed. -/
structure SourceBlock where
  name : Text
  body : List Text
  closed : Bool
deriving DecidableEq, Repr

structure Model where
  name : Text
  fields : List Field
deriving DecidableEq, Repr

namespace SourceBlock

def opening : Text := "model"

/-- Reads the trimmed line that opens a block: the name of the model, and what stands behind the
brace. -/
def header? (line : Text) : Option (Text × Text) :=
  (opening.isPrefixOf? line).bind fun afterWord =>
    let afterGap := afterWord.dropWhile Text.isBlank
    let name := afterGap.takeWhile Text.isWord
    -- without a gap the word is only the start of a longer one
    if name.isEmpty || afterGap.length == afterWord.length then none
    else match (afterGap.dropWhile Text.isWord).dropWhile Text.isBlank with
      | '\x7b' :: rest => some (name, Text.trim rest)
      | _ => none

/-- The blocks in a sequence of trimmed lines, the first of them perhaps already open: its name and
its body so far are given. -/
def scan : Option (Text × List Text) → List Text → List SourceBlock
  | none, [] => []
  | some (name, body), [] => [⟨name, body, false⟩]
  | some (name, body), line :: rest =>
    if line = ['\x7d'] then ⟨name, body, true⟩ :: scan none rest
    else scan (some (name, body ++ [line])) rest
  | none, line :: rest =>
    match header? line with
    | none => scan none rest
    | some (name, inline) =>
      if inline = ['\x7d'] then ⟨name, [], true⟩ :: scan none rest
      else scan (some (name, if inline.isEmpty then [] else [inline])) rest

def all (text : Text) : List SourceBlock :=
  scan none ((Text.lines (Comment.strip text)).map Text.trim)

/-- A line that is empty, a remark, or a decorator of the whole model. -/
def isSkipped (line : Text) : Bool :=
  line.isEmpty || List.isPrefixOf "//" line || List.isPrefixOf "@@" line

/-- The lines of a block that ought to be fields. -/
def candidates (b : SourceBlock) : List Text :=
  (b.body.map Text.trim).filter fun line => !isSkipped line

def fields (b : SourceBlock) : List Field := b.candidates.filterMap Field.read?

def unreadable (b : SourceBlock) : List Text :=
  b.candidates.filter fun line => (Field.read? line).isNone

def model (b : SourceBlock) : Model := ⟨b.name, b.fields⟩

end SourceBlock

/-- The models in a text, in the order in which their names first occur. Of several blocks with one
name the last counts. -/
def Model.all (text : Text) : List Model :=
  latestByKey Model.name ((SourceBlock.all text).map SourceBlock.model)

end DiagramSchema
