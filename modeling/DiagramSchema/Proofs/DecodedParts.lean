import DiagramSchema.Stored.Conversion
import Mathlib.Data.List.Forall2

/-! Decoding succeeds on a record, a list or a document if and only if it succeeds on every part. -/
namespace DiagramSchema

namespace Checked

variable {α β γ δ ε : Type}

theorem under_eq_ok {step : Step} {x : Checked α} {a : α} : x.under step = .ok a ↔ x = .ok a := by
  cases x <;> simp [under]

theorem seq_eq_ok {f : Checked (α → β)} {x : Checked α} {b : β} :
    f <*> x = .ok b ↔ ∃ g a, f = .ok g ∧ x = .ok a ∧ g a = b := by
  have joined : f <*> x = both f x := rfl
  rw [joined]
  cases f <;> cases x <;> simp [both]

theorem map_eq_ok {f : α → β} {x : Checked α} {b : β} :
    f <$> x = .ok b ↔ ∃ a, x = .ok a ∧ f a = b := by
  have lifted : f <$> x = .ok f <*> x := rfl
  rw [lifted, seq_eq_ok]
  simp

theorem record_eq_ok {f : α → β → γ → δ → ε} {w : Checked α} {x : Checked β} {y : Checked γ}
    {z : Checked δ} {e : ε} : f <$> w <*> x <*> y <*> z = .ok e ↔
      ∃ a b c d, w = .ok a ∧ x = .ok b ∧ y = .ok c ∧ z = .ok d ∧ f a b c d = e := by
  simp only [seq_eq_ok, map_eq_ok]
  constructor
  · rintro ⟨_, d, ⟨_, c, ⟨_, b, ⟨a, first, rfl⟩, second, rfl⟩, third, rfl⟩, fourth, built⟩
    exact ⟨a, b, c, d, first, second, third, fourth, built⟩
  · rintro ⟨a, b, c, d, first, second, third, fourth, built⟩
    exact ⟨_, d, ⟨_, c, ⟨_, b, ⟨a, first, rfl⟩, second, rfl⟩, third, rfl⟩, fourth, built⟩

end Checked

namespace Decoder

variable {α : Type} {fields : List (Text × Json)} {json : Json}

theorem field_of_lookup (name : FieldName) (present : fields.lookup name.camel = some json)
    (decode : Decoder α) :
    field fields name decode = (decode json).under (.key name.camel) := by
  rw [field, FieldName.find?, present]

theorem fieldOr_of_lookup (name : FieldName) (present : fields.lookup name.camel = some json)
    (default : α) (decode : Decoder α) :
    fieldOr fields name default decode = (decode json).under (.key name.camel) := by
  rw [fieldOr, FieldName.find?, present]

theorem fieldOr_of (fields : List (Text × Json)) (key : Text) (default : α)
    (decode : Decoder α) : fieldOr fields (.of key) default decode =
      match fields.lookup key with
      | some json => (decode json).under (.key key)
      | none => .ok default := by
  rw [fieldOr, FieldName.find?, FieldName.of]
  cases fields.lookup key <;> rfl

theorem isObject_of_record {name : Text} {build : List (Text × Json) → Checked α} {value : α}
    (read : record name build json = .ok value) : ∃ fields, json = .object fields := by
  cases json with
  | object fields => exact ⟨fields, rfl⟩
  | _ => exact absurd read (by simp [record, Checked.fault])

theorem itemsFrom_eq_ok {item : Decoder α} {items : List Json} {values : List α} (place : Nat) :
    itemsFrom item place items = .ok values ↔
      List.Forall₂ (fun json value => item json = .ok value) items values := by
  induction items generalizing place values with
  | nil =>
    rw [itemsFrom, List.forall₂_nil_left_iff, Checked.ok.injEq]
    exact eq_comm
  | cons json rest ih =>
    rw [itemsFrom, List.forall₂_cons_left_iff, Checked.seq_eq_ok]
    simp only [Checked.map_eq_ok, Checked.under_eq_ok, ih]
    constructor
    · rintro ⟨_, others, ⟨value, first, rfl⟩, later, rfl⟩
      exact ⟨value, others, first, later, rfl⟩
    · rintro ⟨value, others, first, later, rfl⟩
      exact ⟨_, others, ⟨value, first, rfl⟩, later, rfl⟩

theorem list_eq_ok {item : Decoder α} {items : List Json} {values : List α} :
    list item (.list items) = .ok values ↔
      List.Forall₂ (fun json value => item json = .ok value) items values :=
  itemsFrom_eq_ok 0

end Decoder

end DiagramSchema
