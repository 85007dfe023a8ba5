import DiagramSchema.Text.Digit

/-! Targets of requests, and the paths they lead to.

A target may name a host in front, and may end with a query or a fragment; none of them counts. Then
dots in the path are followed, and escaped characters put back. -/
namespace DiagramSchema.Target

def withoutHost : Text → Text
  | '/' :: '/' :: rest => rest.dropWhile (· != '/')
  | target => target

/-- One more part of a path, the last one first: a dot stays, and two dots go back one part, but
never past the start. -/
def follow (earlier : List Text) (part : Text) : List Text :=
  if part = "." then earlier
  else if part = ".." then if earlier = [[]] then earlier else earlier.tail
  else part :: earlier

def followDots (path : Text) : Text :=
  List.intercalate "/" ((path.splitOnP (· == '/')).foldl follow []).reverse

/-- The ASCII character with a code in two hexadecimal digits. -/
def escaped? (high low : Char) : Option Char :=
  match Text.hexValue? high, Text.hexValue? low with
  | some h, some l => if h < 8 then some (Char.ofNat (16 * h + l)) else none
  | _, _ => none

/-- Puts back characters that are escaped by a percent sign and their code. Codes beyond ASCII are
left as they are: they are parts of longer characters, and no route has one. -/
def unescape : Text → Text
  | '%' :: high :: low :: rest => match escaped? high low with
    | some c => c :: unescape rest
    | none => '%' :: unescape (high :: low :: rest)
  | c :: rest => c :: unescape rest
  | [] => []

/-- The path that a target leads to. It starts with one slash. Escaped characters are put back
twice: by the client that sends the request, and by the service. -/
def path (target : Text) : Text :=
  let named := withoutHost (target.takeWhile fun c => c != '?' && c != '#')
  unescape (unescape (followDots ('/' :: named.dropWhile (· == '/'))))

example : path "/schemas/../visualize%2Dschema?a=/" = "/visualize-schema" := by decide
example : path "/%252Fa%zz%C3/./#b" = "//a%zz%C3/" := by decide

end DiagramSchema.Target
