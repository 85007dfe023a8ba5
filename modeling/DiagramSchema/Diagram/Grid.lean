import DiagramSchema.Diagram.Basic

/-! A near-square grid of cells for boxes without a place of their own. -/
namespace DiagramSchema.Grid

def cellWidth : Nat := 320
def cellHeight : Nat := 260

/-- The number of columns for `count` boxes: the least number whose square is at least `count`. -/
def columns (count : Nat) : Nat :=
  ((List.range (count + 1)).find? fun c => count ≤ c * c).getD count

/-- The corners of the first `count` cells, row by row. -/
def corners (count : Nat) : List (Nat × Nat) :=
  (List.range count).map fun i =>
    (i % columns count * cellWidth, i / columns count * cellHeight)

def positions (count : Nat) : List Position :=
  (corners count).map fun corner => ⟨.ofNat corner.1, .ofNat corner.2⟩

theorem length_positions (count : Nat) : (positions count).length = count := by
  simp [positions, corners]

example : corners 5 = [(0, 0), (320, 0), (640, 0), (0, 260), (320, 260)] := by decide

end DiagramSchema.Grid
