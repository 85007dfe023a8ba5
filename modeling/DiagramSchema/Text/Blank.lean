import DiagramSchema.Text.Basic

/-! Blank characters and line breaks, and the three ways of dividing a text by them: cutting blanks
off its ends, into words, and into lines. -/
namespace DiagramSchema.Text

/-- Tabs and line ends, the four information separators, and spaces of every width. The zero-width
space and the byte order mark are not blank. -/
def blankCodes : List Nat :=
  [0x09, 0x0A, 0x0B, 0x0C, 0x0D, 0x1C, 0x1D, 0x1E, 0x1F, 0x20, 0x85, 0xA0, 0x1680, 0x2000, 0x2001,
   0x2002, 0x2003, 0x2004, 0x2005, 0x2006, 0x2007, 0x2008, 0x2009, 0x200A, 0x2028, 0x2029, 0x202F,
   0x205F, 0x3000]

/-- Characters that end a line: line feed, vertical tab, form feed, carriage return, three of the
information separators, next line, line separator and paragraph separator. -/
def lineBreakCodes : List Nat :=
  [0x0A, 0x0B, 0x0C, 0x0D, 0x1C, 0x1D, 0x1E, 0x85, 0x2028, 0x2029]

def isBlank (c : Char) : Bool := blankCodes.contains c.toNat

def isLineBreak (c : Char) : Bool := lineBreakCodes.contains c.toNat

/-- A fact about every blank character can be checked code by code. -/
theorem forall_blank {p : Char → Prop} (checked : ∀ code ∈ blankCodes, p (Char.ofNat code))
    {c : Char} (blank : isBlank c = true) : p c := by
  have member : c.toNat ∈ blankCodes := List.contains_iff_mem.1 blank
  have holds := checked c.toNat member
  rwa [Char.ofNat_toNat] at holds

theorem isBlank_of_isLineBreak {c : Char} (ends : isLineBreak c = true) : isBlank c = true := by
  have member : c.toNat ∈ lineBreakCodes := List.contains_iff_mem.1 ends
  have all : ∀ code ∈ lineBreakCodes, code ∈ blankCodes := by decide
  exact List.contains_iff_mem.2 (all c.toNat member)

def trimStart (s : Text) : Text := s.dropWhile isBlank

def trimEnd (s : Text) : Text := (s.reverse.dropWhile isBlank).reverse

def trim (s : Text) : Text := trimEnd (trimStart s)

/-- The maximal runs of characters that are not blank. -/
def words (s : Text) : List Text := (s.splitOnP isBlank).filter fun word => !word.isEmpty

/-- The lines of a text, without their ends. A carriage return and a line feed end a line together.
A break at the very end opens no further line. -/
def lines : Text → List Text
  | [] => []
  | '\r' :: '\n' :: rest => [] :: lines rest
  | c :: rest =>
    if isLineBreak c then [] :: lines rest
    else match lines rest with
      | [] => [[c]]
      | line :: more => (c :: line) :: more

example : lines "a\r\nb\n\nc\n" = [['a'], ['b'], [], ['c']] := by decide
example : words " id \t String\n" = (["id", "String"] : List Text) := by decide

end DiagramSchema.Text
