import DiagramSchema.Text.Basic

/-! Character classes given as tables of closed code point ranges. -/
namespace DiagramSchema.Text

def inSpans (spans : List (Nat × Nat)) (c : Char) : Bool :=
  spans.any fun s => s.1 ≤ c.toNat && c.toNat ≤ s.2

end DiagramSchema.Text
