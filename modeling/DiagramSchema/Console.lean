import DiagramSchema.Assistant.Generation
import DiagramSchema.Schema.Recovery

/-! The console: one line of input, one text in answer.

A line that begins with the word `file` names a file with schema text; any other line is a prompt
for the language model. Either way the answer outlines the diagram. -/
namespace DiagramSchema

/-- The names of the attributes of an entity, in one line. -/
def Entity.outline (e : Entity) : Text :=
  let names := List.intercalate ", " (e.attributes.map Attribute.name)
  "  • " ++ e.name ++ ": " ++ Text.orElse names "(no fields)"

def Relation.outline (r : Relation) : Text :=
  "  • " ++ r.source ++ " → " ++ r.target ++ " (" ++ r.type ++ ")"

namespace Diagram

/-- The models and the relations of a diagram, a line each. -/
def outline (d : Diagram) : Text :=
  let models := ("📦 Models:" : Text) :: d.entities.map Entity.outline
  let relations := if d.relations.isEmpty then []
    else [] :: ("🔗 Relations:" : Text) :: d.relations.map Relation.outline
  List.intercalate "\n" (models ++ relations)

end Diagram

inductive FileFault where
  | missing
  | notFolder
  | folder
  | nameTooLong
deriving DecidableEq, Repr

namespace FileFault

/-- The number that the system gives the fault. -/
def number : FileFault → Nat
  | .missing => 2
  | .notFolder => 20
  | .folder => 21
  | .nameTooLong => 36

def words : FileFault → Text
  | .missing => "No such file or directory"
  | .notFolder => "Not a directory"
  | .folder => "Is a directory"
  | .nameTooLong => "File name too long"

def message (fault : FileFault) (path : Text) : Text :=
  "[Errno " ++ Text.ofNat fault.number ++ "] " ++ fault.words ++ ": " ++ Text.quoted path

end FileFault

namespace Console

def banner : List Text :=
  let rule : Text := List.replicate 50 '='
  [rule, "Schema Canvas - Prisma schema assistant",
    "Describe a schema, 'file <path>' to read one, 'quit' to exit", rule, []]

def isQuit (line : Text) : Bool := Text.lower line == "quit"

def visualize (schema : Text) : Noted Text :=
  (Diagram.recover schema).map fun
    | .ok diagram => diagram.outline
    | .error cause => "❌ Could not read schema: " ++ cause.message

def unifyLineEnds : Text → Text
  | [] => []
  | '\r' :: '\n' :: rest => '\n' :: unifyLineEnds rest
  | '\r' :: rest => '\n' :: unifyLineEnds rest
  | c :: rest => c :: unifyLineEnds rest

/-- The start of a line that names a file. -/
def fileWord : Text := "file "

def path? (line : Text) : Option Text := (fileWord.isPrefixOf? line).map Text.trim

/-- The answer to a path, given what opening the file gives. -/
def answerFile (path : Text) : Except FileFault Text → Noted Text
  | .ok content => visualize (unifyLineEnds content)
  | .error fault => .quiet ("❌ Could not open " ++ path ++ ": " ++ fault.message path)

def answerPrompt (s : Settings) (client : ProviderClient) (prompt : Text) : Noted Text :=
  match s.generate client prompt with
  | .error cause => ⟨"❌ " ++ cause.message, cause.notices⟩
  | .ok schema => (visualize schema).map fun outline => schema ++ "\n\n" ++ outline

def answer (s : Settings) (client : ProviderClient) (contents : Text → Except FileFault Text)
    (line : Text) : Noted Text :=
  match path? line with
  | some path => answerFile path (contents path)
  | none => answerPrompt s client line

end Console

/-- A folder of files without subfolders: names and contents. -/
abbrev Folder := List (Text × Text)

namespace Folder

/-- Where a path leads, from the folder on. -/
inductive Place where
  | here
  | file (content : Text)
  | above (depth : Nat)

/-- A part of a path has at most 255 bytes. -/
def isLongPart (part : Text) : Bool := 255 < (String.ofList part).utf8ByteSize

/-- A path has fewer than 4096 bytes. -/
def isLongPath (path : Text) : Bool := 4096 ≤ (String.ofList path).utf8ByteSize

/-- The fault of a part that no file in a folder is named after. -/
def partFault (part : Text) : FileFault := if isLongPart part then .nameTooLong else .missing

/-- One more part of a path. Nothing is known of the folders above but that they are there. -/
def walk (folder : Folder) : Place → Text → Except FileFault Place
  | .here, part =>
    if part = "." then .ok .here
    else if part = ".." then .ok (.above 0)
    else match folder.lookup part with
      | some content => .ok (.file content)
      | none => .error (partFault part)
  | .file _, _ => .error .notFolder
  | .above depth, part =>
    if part = "." then .ok (.above depth)
    else if part = ".." then .ok (.above (depth + 1))
    else .error (partFault part)

/-- Opens the file that a relative path leads to. A slash at the end asks for a folder. -/
def contents (folder : Folder) (path : Text) : Except FileFault Text :=
  let parts := (path.splitOnP (· == '/')).filter fun part => !part.isEmpty
  let start : Place := if path.head? == some '/' then .above 0 else .here
  if path.isEmpty then .error .missing
  else if isLongPath path then .error .nameTooLong
  else match parts.foldlM (walk folder) start with
    | .error fault => .error fault
    | .ok (.file content) => if path.getLast? == some '/' then .error .notFolder else .ok content
    | .ok _ => .error .folder

end Folder
end DiagramSchema
