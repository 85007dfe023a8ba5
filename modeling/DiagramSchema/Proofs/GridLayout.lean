import DiagramSchema.Proofs.RecoveredDiagram
import DiagramSchema.Proofs.RoundedRoot
import Mathlib.Order.Bounds.Basic

/-! Where recovered models stand: on the cells of a grid, row by row. The grid has as many columns as
the least square with room for all of them, the last row but one is full, and there is at most one row
fewer than columns. -/
namespace DiagramSchema

def Position.IsAt (p : Position) (point : Nat × Nat) : Prop :=
  p.x.toInt? = some (point.1 : Int) ∧ p.y.toInt? = some (point.2 : Int)

namespace Grid

def Apart (p q : Nat × Nat) : Prop :=
  p.1 + cellWidth ≤ q.1 ∨ q.1 + cellWidth ≤ p.1 ∨ p.2 + cellHeight ≤ q.2 ∨ q.2 + cellHeight ≤ p.2

def row (index count : Nat) : List (Nat × Nat) :=
  (List.range count).map fun k => (k * cellWidth, index * cellHeight)

def rows (width whole last : Nat) : List (Nat × Nat) :=
  ((List.range whole).flatMap fun index => row index width) ++ row whole last

structure IsNearSquare (count width : Nat) (cells : List (Nat × Nat)) : Prop where
  length : cells.length = count
  least : IsLeast {c | count ≤ c * c} width
  apart : cells.Pairwise Apart
  aligned : ∀ cell ∈ cells, ∃ k < width, cell.1 = k * cellWidth
  filled : 0 < count → ∃ whole last, cells = rows width whole last ∧ 0 < last ∧ last ≤ width ∧
    (whole + 1 = width ∨ whole + 2 = width)

def corner (width i : Nat) : Nat × Nat := (i % width * cellWidth, i / width * cellHeight)

theorem isLeast_columns (count : Nat) : IsLeast {c | count ≤ c * c} (columns count) := by
  rw [columns]
  cases found : (List.range (count + 1)).find? fun c => count ≤ c * c with
  | none =>
    have all := List.find?_range_eq_none.mp found count (Nat.lt_succ_self count)
    exact absurd (Nat.le_mul_self count) (by simpa using all)
  | some c =>
    obtain ⟨enough, -, before⟩ := List.find?_range_eq_some.mp found
    refine ⟨of_decide_eq_true enough, fun d room => ?_⟩
    by_contra less
    have full := before d (Nat.not_le.mp less)
    exact absurd room (by simpa using full)

theorem columns_eq {count : Nat} (occupied : 0 < count) :
    ∃ c, columns count = c + 1 ∧ c * c < count ∧ count ≤ (c + 1) * (c + 1) := by
  obtain ⟨enough, least⟩ := isLeast_columns count
  cases width : columns count with
  | zero =>
    rw [width] at enough
    exact absurd occupied (Nat.not_lt.mpr enough)
  | succ c =>
    rw [width] at enough least
    refine ⟨c, rfl, ?_, enough⟩
    by_contra room
    exact absurd (least (Nat.not_lt.mp room)) (Nat.not_succ_le_self c)

theorem columns_pos {count : Nat} (occupied : 0 < count) : 0 < columns count := by
  obtain ⟨c, width, -⟩ := columns_eq occupied
  omega

theorem corner_apart {width i j : Nat} (differ : i ≠ j) : Apart (corner width i) (corner width j) := by
  have placed := Nat.div_add_mod i width
  have other := Nat.div_add_mod j width
  simp only [Apart, corner, cellWidth, cellHeight]
  by_cases sameRow : i / width = j / width
  · -- In one row they differ in the column; two rows are a cell apart as they are.
    have sideways : i % width ≠ j % width := by
      intro sameColumn
      apply differ
      rw [← placed, ← other, sameRow, sameColumn]
    omega
  · omega

theorem range_rows (width whole : Nat) : List.range (whole * width) =
    (List.range whole).flatMap fun index => (List.range width).map (index * width + ·) := by
  induction whole with
  | zero => simp
  | succ whole ih => rw [Nat.succ_mul, List.range_add, ih, List.range_succ, List.flatMap_append,
      List.flatMap_singleton]

theorem row_corners {width last : Nat} (index : Nat) (fits : last ≤ width) :
    ((List.range last).map (index * width + ·)).map (corner width) = row index last := by
  rw [List.map_map, row]
  refine List.map_congr_left fun k member => ?_
  have inside : k < width := (List.mem_range.mp member).trans_le fits
  have column : (index * width + k) % width = k := by
    rw [Nat.add_comm, Nat.add_mul_mod_self_right, Nat.mod_eq_of_lt inside]
  have line : (index * width + k) / width = index := by
    rw [Nat.add_comm, Nat.add_mul_div_right _ _ (Nat.zero_lt_of_lt inside), Nat.div_eq_of_lt inside,
      Nat.zero_add]
  show (_ % width * cellWidth, _ / width * cellHeight) = _
  rw [column, line]

theorem corners_rows {width whole last : Nat} (fits : last ≤ width) :
    (List.range (whole * width + last)).map (corner width) = rows width whole last := by
  have each (index : Nat) :
      ((List.range width).map (index * width + ·)).map (corner width) = row index width :=
    row_corners index (Nat.le_refl width)
  rw [List.range_add, List.map_append, row_corners whole fits, range_rows, List.map_flatMap, rows]
  simp only [each]

/-- The last box stands in the last row, which is as far down as the last column is to the right, or
one row above. -/
theorem exists_rows {count : Nat} (occupied : 0 < count) : ∃ whole last,
    count = whole * columns count + last ∧ 0 < last ∧ last ≤ columns count ∧
      (whole + 1 = columns count ∨ whole + 2 = columns count) := by
  obtain ⟨c, width, above, upTo⟩ := columns_eq occupied
  rw [width]
  -- The last box has the number `count - 1`: its row is the last one, and its column ends the row.
  have placed := Nat.div_add_mod (count - 1) (c + 1)
  have inRow : (count - 1) % (c + 1) < c + 1 := Nat.mod_lt _ (Nat.succ_pos c)
  have lowest : (count - 1) / (c + 1) < c + 1 := Nat.div_lt_of_lt_mul (by omega)
  have highest : c ≤ (count - 1) / (c + 1) + 1 := by
    cases c with
    | zero => exact Nat.zero_le _
    | succ k =>
      have square : k * (k + 1 + 1) + 1 = (k + 1) * (k + 1) := by ring
      have room : k * (k + 1 + 1) ≤ count - 1 := by omega
      exact Nat.succ_le_succ ((Nat.le_div_iff_mul_le (Nat.succ_pos (k + 1))).mpr room)
  refine ⟨(count - 1) / (c + 1), (count - 1) % (c + 1) + 1, ?_, Nat.succ_pos _, inRow, by omega⟩
  rw [Nat.mul_comm]
  omega

theorem isNearSquare_corners (count : Nat) :
    IsNearSquare count (columns count) (corners count) where
  length := by simp [corners]
  least := isLeast_columns count
  apart := by
    refine List.pairwise_map.mpr (List.pairwise_lt_range.imp fun before => ?_)
    exact corner_apart (Nat.ne_of_lt before)
  aligned := by
    intro cell member
    obtain ⟨i, place, rfl⟩ := List.mem_map.mp member
    have occupied : 0 < count := Nat.zero_lt_of_lt (List.mem_range.mp place)
    exact ⟨i % columns count, Nat.mod_lt i (columns_pos occupied), rfl⟩
  filled := by
    intro occupied
    obtain ⟨whole, last, total, nonempty, fits, square⟩ := exists_rows occupied
    refine ⟨whole, last, ?_, nonempty, fits, square⟩
    calc corners count = (List.range count).map (corner (columns count)) := rfl
      _ = (List.range (whole * columns count + last)).map (corner (columns count)) := by rw [← total]
      _ = rows (columns count) whole last := corners_rows fits

theorem isAt_positions {count : Nat} (few : count ≤ Binary64.twoTo 88) :
    List.Forall₂ Position.IsAt (positions count) (corners count) := by
  obtain ⟨enough, least⟩ := isLeast_columns count
  have narrow : columns count ≤ Binary64.twoTo 44 := least few
  -- The sides of a cell are numbers of 9 bits, so 44 bits are left to count the cells before it.
  have within {k size : Nat} (inside : k < columns count) (bounded : size ≤ Binary64.twoTo 9) :
      k * size < Binary64.twoTo 53 := by
    calc k * size ≤ k * Binary64.twoTo 9 := Nat.mul_le_mul_left k bounded
      _ < Binary64.twoTo 44 * Binary64.twoTo 9 :=
        Nat.mul_lt_mul_of_pos_right (inside.trans_le narrow) (Binary64.twoTo_pos 9)
  refine List.forall₂_map_left_iff.mpr (List.forall₂_same.mpr fun point member => ?_)
  obtain ⟨i, place, rfl⟩ := List.mem_map.mp member
  have before : i < count := List.mem_range.mp place
  have column : i % columns count < columns count :=
    Nat.mod_lt i (columns_pos (Nat.zero_lt_of_lt before))
  have line : i / columns count < columns count := Nat.div_lt_of_lt_mul (before.trans_le enough)
  exact ⟨Binary64.toInt_ofNat (within column (by decide)),
    Binary64.toInt_ofNat (within line (by decide))⟩

theorem ceiling_root_columns {count : Nat} (few : count < Binary64.twoTo 52) :
    (Binary64.root count).ceiling? = some (columns count : Int) := by
  by_cases empty : count = 0
  · subst empty
    decide
  · obtain ⟨c, width, above, upTo⟩ := columns_eq (Nat.pos_of_ne_zero empty)
    rw [width]
    exact Binary64.ceiling_root few above upTo

theorem places_ofSchema {text : Text} {d : Diagram} (found : Diagram.ofSchema text = .ok d) :
    d.entities.map Entity.position = positions d.entities.length := by
  obtain rfl := Diagram.ofSchema_eq found
  have same := length_positions (Model.all text).length
  calc (Model.diagram (Model.all text)).entities.map Entity.position
      = List.zipWith (fun _ p => p) (Model.all text) (positions (Model.all text).length) :=
        List.map_zipWith
    _ = ((Model.all text).zip (positions (Model.all text).length)).map Prod.snd :=
        List.map_uncurry_zip_eq_zipWith.symm
    _ = positions (Model.all text).length := List.map_snd_zip same.le
    _ = positions (Model.diagram (Model.all text)).entities.length := by
        rw [Model.diagram, List.length_zipWith, same, Nat.min_self]

/-- Any number of boxes stands on a near-square grid, a cell apart from each other. Their coordinates
are whole doubles as far as these reach, and the width of the grid is what rounding the root of the
number and taking the ceiling give. The entities that are read from schema text stand there. -/
theorem near_square (count : Nat) :
    IsNearSquare count (columns count) (corners count) ∧
      (positions count).length = count ∧
      (count ≤ Binary64.twoTo 88 → List.Forall₂ Position.IsAt (positions count) (corners count)) ∧
      (count < Binary64.twoTo 52 →
        (Binary64.root count).ceiling? = some (columns count : Int)) ∧
      ∀ text d, Diagram.ofSchema text = .ok d →
        d.entities.map Entity.position = positions d.entities.length :=
  ⟨isNearSquare_corners count, length_positions count, isAt_positions, ceiling_root_columns,
    fun _ _ => places_ofSchema⟩

def trio : Text := "model A \x7b\n\x7d\nmodel B \x7b\n\x7d\nmodel C \x7b\n\x7d"

def trioDiagram : Diagram where
  entities :=
    [ { id := "A", name := "A", position := ⟨.ofNat 0, .ofNat 0⟩ },
      { id := "B", name := "B", position := ⟨.ofNat 320, .ofNat 0⟩ },
      { id := "C", name := "C", position := ⟨.ofNat 0, .ofNat 260⟩ } ]

theorem trio_near_square : IsNearSquare 3 (columns 3) (corners 3) ∧ (positions 3).length = 3 ∧
    List.Forall₂ Position.IsAt (positions 3) (corners 3) ∧
    (Binary64.root 3).ceiling? = some (columns 3 : Int) ∧
    Diagram.ofSchema trio = .ok trioDiagram ∧
    trioDiagram.entities.map Entity.position = positions 3 := by
  obtain ⟨arranged, length, exactly, rounded, placed⟩ := near_square 3
  have found : Diagram.ofSchema trio = .ok trioDiagram := by rfl
  exact ⟨arranged, length, exactly (by decide), rounded (by decide), found,
    placed trio trioDiagram found⟩

end Grid
end DiagramSchema
