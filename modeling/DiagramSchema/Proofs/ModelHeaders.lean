import DiagramSchema.Proofs.LinePieces
import DiagramSchema.Proofs.RecoveredDiagram

/-! Schema text without models. A diagram is read from a text if and only if one of its lines opens a
model, comments aside; nothing else in the text can stand in the way. -/
namespace DiagramSchema
open Text

namespace SourceBlock

/-- A line that opens a model: the word, blanks, a name, perhaps more blanks, and a brace. -/
def IsHeader (line : Text) : Prop :=
  ∃ gap name space rest, line = opening ++ (gap ++ (name ++ (space ++ '\x7b' :: rest))) ∧
    (gap ≠ [] ∧ ∀ c ∈ gap, isBlank c = true) ∧ name.IsName ∧ ∀ c ∈ space, isBlank c = true

theorem isHeader_of_header {line : Text} {found : Text × Text} (opened : header? line = some found) :
    IsHeader line := by
  obtain ⟨gap, space, rest, shape, apart, isName, spaced⟩ := parts_of_header opened
  exact ⟨gap, found.1, space, rest, shape, apart, isName, spaced⟩

theorem header_eq_none_iff {line : Text} : header? line = none ↔ ¬IsHeader line := by
  constructor
  · rintro none ⟨gap, name, space, rest, rfl, ⟨apart, blank⟩, isName, spaced⟩
    rw [header_parts apart blank isName spaced] at none
    exact absurd none (by simp)
  · intro other
    cases opened : header? line with
    | none => rfl
    | some found => exact absurd (isHeader_of_header opened) other

instance (line : Text) : Decidable (IsHeader line) :=
  decidable_of_iff (header? line ≠ none) ((not_congr header_eq_none_iff).trans Classical.not_not)

theorem scan_open_ne_nil (block : Text × List Text) (ls : List Text) : scan (some block) ls ≠ [] := by
  obtain ⟨name, body⟩ := block
  obtain ⟨more, closed, others, shape⟩ := scan_open ls
  rw [shape]
  exact List.cons_ne_nil _ _

theorem scan_eq_nil_iff {ls : List Text} : scan none ls = [] ↔ ∀ line ∈ ls, ¬IsHeader line := by
  induction ls with
  | nil => simp [scan]
  | cons line rest ih =>
    rw [List.forall_mem_cons, scan]
    cases opened : header? line with
    | none =>
      rw [← header_eq_none_iff, ← ih]
      simp [opened]
    | some found =>
      obtain ⟨name, inline⟩ := found
      have isHeader := isHeader_of_header opened
      dsimp only
      split
      · simp [isHeader]
      · simp [isHeader, scan_open_ne_nil]

end SourceBlock

/-- A line of the text opens a model, once comments and the blanks around the line are left out. -/
def HasModel (text : Text) : Prop :=
  ∃ line ∈ lines (Comment.strip text), SourceBlock.IsHeader (trim line)

theorem Model.all_eq_nil_iff {text : Text} : Model.all text = [] ↔ ¬HasModel text := by
  have blocks : SourceBlock.all text = [] ↔ ¬HasModel text := by
    rw [SourceBlock.all, SourceBlock.scan_eq_nil_iff, List.forall_mem_map]
    simp [HasModel]
  rw [← blocks, ← List.map_eq_nil_iff (f := Model.name), names_all]
  cases SourceBlock.all text with
  | nil => simp
  | cons b rest => simp [List.eraseDups_cons]

namespace Diagram

theorem ofSchema_of_hasModel {text : Text} (has : HasModel text) :
    ofSchema text = .ok (Model.diagram (Model.all text)) := by
  have some : Model.all text ≠ [] := fun none => Model.all_eq_nil_iff.mp none has
  unfold ofSchema
  split
  · rename_i none
    exact absurd none some
  · rfl

theorem ofSchema_of_not_hasModel {text : Text} (hasNot : ¬HasModel text) :
    ofSchema text = .error .noModels := by
  rw [ofSchema, Model.all_eq_nil_iff.mpr hasNot]

end Diagram
end DiagramSchema
