import DiagramSchema.Proofs.AttributeRecovery
import DiagramSchema.Proofs.WrittenDefaults

/-! The line of an attribute, read as an attribute and written again. The line stays as it is, unless
its default is blank, which is written as the empty literal and read as no text at all, or is a list in
which a parenthesis closes the decorator before its end. -/
namespace DiagramSchema
open Text

namespace DefaultForm

variable {type value : Text} {form : DefaultForm}

theorem upToClosing_prefix (previous : Option Char) (quoted : Bool) (depth : Nat) (s : Text) :
    upToClosing previous quoted depth s <+: s := by
  fun_induction upToClosing previous quoted depth s
  case case1 | case5 => exact List.nil_prefix
  case case2 ih | case3 ih | case4 ih | case6 ih | case7 ih =>
    exact List.cons_prefix_cons.mpr ⟨rfl, ih⟩

theorem decorator_injective {other : DefaultForm} (same : other.decorator = form.decorator) :
    other.inner = form.inner := by
  simp only [decorator, List.append_assoc] at same
  exact List.append_cancel_right (List.append_cancel_left same)

theorem isBracketed_first (items : isBracketed value = true) : ∃ rest, value = '[' :: rest := by
  simp only [isBracketed, Bool.and_eq_true, beq_iff_eq] at items
  exact List.head?_eq_some_iff.mp items.1.1.2

theorem inner_of_bracket (formed : Formed type value form) {rest : Text}
    (bracket : form.inner = '[' :: rest) : form.inner = value := by
  cases formed with
  | now exact => exact absurd bracket (by simp [inner])
  | truth other boolean word =>
    have first : '[' ∈ value.map Char.toLower := by
      rw [show value.map Char.toLower = '[' :: rest from bracket]
      simp
    exact absurd (truth_isWord word '[' first) (by decide)
  | whole number digits => rfl
  | bracketed suffix items => rfl
  | literal other noTruth noTime => exact absurd bracket (by simp [inner])

theorem literal_of_value_nil (formed : Formed type value form) (none : form.value = []) :
    form = .literal [] := by
  cases formed with
  | now exact => exact absurd none (by decide)
  | truth other boolean word =>
    obtain rfl : value = [] := List.map_eq_nil_iff.mp none
    exact absurd word (by decide)
  | whole number digits =>
    obtain rfl : value = [] := none
    exact absurd digits (by decide)
  | bracketed suffix items =>
    obtain rfl : value = [] := none
    exact absurd items (by decide)
  | literal other noTruth noTime => exact congrArg DefaultForm.literal none

theorem reading_bracketed {items rest : Text} (shape : items = '[' :: rest) :
    reading (.bracketed items) = trim (upToClosing none false 0 items) := by
  have first : upToClosing none false 0 ('[' :: rest) = '[' :: upToClosing (some '[') false 0 rest := by
    simp [upToClosing]
  have kept := trimEnd_append_solid (show isBlank '[' = false by decide) []
    (upToClosing (some '[') false 0 rest)
  rw [List.nil_append, List.nil_append] at kept
  rw [reading, inner, shape, first, trim, trimStart_solid (by decide), kept]
  exact opened_unquoted (by simp)

theorem unclosed_of_again {items : Text} (bracketed : isBracketed items = true)
    (again : (of? type (some (reading (.bracketed items)))).map decorator =
      some (DefaultForm.bracketed items).decorator) : IsUnclosed items := by
  obtain ⟨rest, shape⟩ := isBracketed_first bracketed
  obtain ⟨other, found, written⟩ := Option.map_eq_some_iff.mp again
  have inside : other.inner = items := decorator_injective written
  have whole := inner_of_bracket (formed_of_typed found) (inside.trans shape)
  rw [inside, reading_bracketed shape, trim_trim] at whole
  have start := upToClosing_prefix none false 0 items
  have length : items.length ≤ (upToClosing none false 0 items).length := by
    have part := (infix_of_infix_trim (List.infix_refl (trim (upToClosing none false 0 items)))).length_le
    rwa [← whole] at part
  exact start.eq_of_length (Nat.le_antisymm start.length_le length)

theorem again_of_unclosed (found : ofTrimmed? type value = some form) (trimmed : trim value = value)
    (other : form ≠ .literal []) (unclosed : ∀ items, form = .bracketed items → IsUnclosed items) :
    of? type (some form.reading) = some form := by
  have formed := formed_of_some found
  have again := Attribute.form_again found trimmed
  rw [reading_eq_value formed trimmed unclosed]
  cases letters : form.value with
  | nil => exact absurd (literal_of_value_nil formed letters) other
  | cons c rest =>
    rw [letters] at again
    exact again

/-- A default that is read is written again as it was, but for the empty literal and for a list that
is cut. -/
theorem again_iff (found : ofTrimmed? type value = some form) (trimmed : trim value = value) :
    (of? type (some form.reading)).map decorator = some form.decorator ↔
      form ≠ .literal [] ∧ ∀ items, form = .bracketed items → IsUnclosed items := by
  constructor
  · intro again
    constructor
    · rintro rfl
      have nothing : reading (.literal []) = [] := by decide
      rw [nothing] at again
      exact absurd again (by simp [of?])
    · rintro items rfl
      cases formed_of_some found with
      | bracketed suffix bracketed => exact unclosed_of_again bracketed again
  · rintro ⟨other, unclosed⟩
    rw [again_of_unclosed found trimmed other unclosed]
    rfl

end DefaultForm

namespace Attribute

variable {a : Attribute}

/-- Nothing but blanks for a default that has a written form. -/
def HasBlankDefault (a : Attribute) : Prop :=
  (∃ raw ∈ a.constraint.defaultValue, raw ≠ [] ∧ trim raw = []) ∧
    ¬ (a.type = .dateTime ∧ a.constraint.list = false)

instance (a : Attribute) : Decidable a.HasBlankDefault :=
  inferInstanceAs (Decidable ((∃ raw ∈ a.constraint.defaultValue, raw ≠ [] ∧ trim raw = []) ∧
    ¬ (a.type = .dateTime ∧ a.constraint.list = false)))

/-- No list in brackets whose decorator is closed by a parenthesis of the list. -/
def HasUnclosedItems (a : Attribute) : Prop :=
  ∀ raw ∈ a.constraint.defaultValue, a.constraint.list = true →
    DefaultForm.isBracketed (trim raw) = true → DefaultForm.IsUnclosed (trim raw)

instance (a : Attribute) : Decidable a.HasUnclosedItems :=
  inferInstanceAs (Decidable (∀ raw ∈ a.constraint.defaultValue, a.constraint.list = true →
    DefaultForm.isBracketed (trim raw) = true → DefaultForm.IsUnclosed (trim raw)))

theorem form_of_blank : DefaultForm.ofTrimmed? a.writtenType [] =
    if a.type = .dateTime ∧ a.constraint.list = false then none else some (.literal []) := by
  unfold writtenType
  cases a.constraint.list <;> cases a.type <;> decide

theorem form_of_items (list : a.constraint.list = true) {items : Text}
    (bracketed : DefaultForm.isBracketed items = true) :
    DefaultForm.ofTrimmed? a.writtenType items = some (.bracketed items) := by
  have kinds : ∀ type ∈ ScalarType.all,
      DefaultForm.isTypeAmong ["boolean"] (type.name ++ "[]") = false ∧
      DefaultForm.isTypeAmong ["int", "bigint", "float", "decimal"] (type.name ++ "[]") = false ∧
      List.isSuffixOf ['[', ']'] (type.name ++ "[]") = true := by decide
  obtain ⟨boolean, number, suffix⟩ := kinds a.type (ScalarType.mem_all a.type)
  have other : items ≠ "now()" := by
    obtain ⟨rest, rfl⟩ := DefaultForm.isBracketed_first bracketed
    simp
  rw [writtenType, list, if_pos rfl, DefaultForm.ofTrimmed?, if_neg other, boolean, number, suffix,
    bracketed]
  rfl

theorem form_blank_iff : a.form? = some (.literal []) ↔ a.HasBlankDefault := by
  constructor
  · intro found
    obtain ⟨raw, typed, text, trimmed⟩ := typed_of_form found
    have blank : trim raw = [] := by
      generalize trim raw = value at trimmed
      cases DefaultForm.formed_of_some trimmed with
      | literal => rfl
    refine ⟨⟨raw, typed, text, blank⟩, fun time => ?_⟩
    rw [blank, form_of_blank, if_pos time] at trimmed
    exact absurd trimmed (by simp)
  · rintro ⟨⟨raw, typed, text, blank⟩, written⟩
    rw [form_of_raw typed text, blank, form_of_blank, if_neg written]

theorem form_bracketed {raw : Text} (typed : a.constraint.defaultValue = some raw)
    (list : a.constraint.list = true) (items : DefaultForm.isBracketed (trim raw) = true) :
    a.form? = some (.bracketed (trim raw)) := by
  have text : raw ≠ [] := by
    rintro rfl
    exact absurd items (by decide)
  rw [form_of_raw typed text, form_of_items list items]

theorem hasUnclosedItems_iff : a.HasUnclosedItems ↔
    ∀ items, a.form? = some (.bracketed items) → DefaultForm.IsUnclosed items := by
  constructor
  · intro unclosed items found
    obtain ⟨raw, typed, formed⟩ := formed_of_form found
    cases formed with
    | bracketed suffix bracketed => exact unclosed raw typed (writtenType_list suffix) bracketed
  · intro unclosed raw typed list bracketed
    exact unclosed _ (form_bracketed typed list bracketed)

theorem reread_form_iff : a.reread.form?.map DefaultForm.decorator =
    a.form?.map DefaultForm.decorator ↔ ¬ a.HasBlankDefault ∧ a.HasUnclosedItems := by
  have reread : a.reread.form? =
      DefaultForm.of? a.writtenType (a.form?.map DefaultForm.reading) := rfl
  rw [reread, ← form_blank_iff, hasUnclosedItems_iff]
  cases found : a.form? with
  | none => simp [DefaultForm.of?]
  | some form =>
    obtain ⟨raw, _, _, trimmed⟩ := typed_of_form found
    simpa using DefaultForm.again_iff trimmed (trim_trim raw)

theorem tail_form (a : Attribute) : Line.tail a.decorators =
    Line.tail (a.form?.map DefaultForm.decorator).toList ++
      Line.tail (flags a.constraint.unique a.constraint.updatedAt a.constraint.isId) := by
  rw [decorators_split, Line.tail, List.flatMap_append]
  rfl

theorem tail_injective {x y : Option Text} (same : Line.tail x.toList = Line.tail y.toList) :
    x = y := by
  cases x with
  | none =>
    cases y with
    | none => rfl
    | some second => simp [Line.tail] at same
  | some first =>
    cases y with
    | none => simp [Line.tail] at same
    | some second => simpa [Line.tail] using same

theorem reread_line_iff : a.reread.line.text = a.line.text ↔
    a.reread.form?.map DefaultForm.decorator = a.form?.map DefaultForm.decorator := by
  have mark : a.reread.constraint.mark = a.constraint.mark := mark_unrequired rfl rfl
  constructor
  · intro same
    rw [line, line, Line.text_front, Line.text_front, mark, tail_form, tail_form] at same
    exact tail_injective (List.append_cancel_right (List.append_cancel_left same))
  · intro same
    rw [line, line, Line.text_front, Line.text_front, mark, tail_form, tail_form, same]
    rfl

theorem read_line {a : Attribute} (named : a.name.IsName)
    (unbroken : ∀ raw ∈ a.constraint.defaultValue, '\n' ∉ raw) :
    Field.read? (trim a.line.text) = some a.field := by
  obtain ⟨isMark, list, optional⟩ := mark_read a.constraint
  have isTail : Field.IsTail (Line.tail a.decorators) := by
    refine ⟨?_, tail_lacks (by decide) unbroken⟩
    rcases a.tail_start with nothing | ⟨rest, start⟩
    · simp [nothing]
    · simp [start]
  have parts := Field.read_line named (scalar_isName a.type) isMark isTail
  rw [list, optional] at parts
  rw [line_named named, Line.text_field]
  exact parts

/-- The line of an attribute is read as an attribute. Written again, it is the same line if and only
if the default is not blank and is no list that is cut. -/
theorem line_again_iff (named : isIdentifier a.name = true)
    (plain : ∀ raw ∈ a.constraint.defaultValue, '\n' ∉ raw ∧ '@' ∉ raw) :
    ∃ f b, Field.read? (trim a.line.text) = some f ∧ f.attribute? = some b ∧
      (b.line.text = a.line.text ↔ ¬ a.HasBlankDefault ∧ a.HasUnclosedItems) := by
  have reads := read_line (isName_of_identifier named) fun raw typed => (plain raw typed).1
  have shows := (reread_of_field fun raw typed => (plain raw typed).2).2
  exact ⟨a.field, a.reread, reads, shows, reread_line_iff.trans reread_form_iff⟩

def labels : Attribute where
  name := "labels"
  constraint := { list := true, unique := true, updatedAt := true, isId := true,
                  defaultValue := some " [\"a)\", (b)] " }

theorem labels_again : isIdentifier labels.name = true ∧
    (∀ raw ∈ labels.constraint.defaultValue, '\n' ∉ raw ∧ '@' ∉ raw) ∧
    ∃ f b, Field.read? (trim labels.line.text) = some f ∧ f.attribute? = some b ∧
      b.line.text = labels.line.text := by
  have named : isIdentifier labels.name = true := by decide
  have plain : ∀ raw ∈ labels.constraint.defaultValue, '\n' ∉ raw ∧ '@' ∉ raw := by decide
  have kept : ¬ labels.HasBlankDefault ∧ labels.HasUnclosedItems := by decide
  obtain ⟨f, b, reads, shows, again⟩ := line_again_iff named plain
  exact ⟨named, plain, f, b, reads, shows, again.mpr kept⟩

/-- A blank default is lost, and a list is cut at a parenthesis that it did not open. -/
theorem line_altered : List.Forall (fun altered : Attribute × Text =>
    isIdentifier altered.1.name = true ∧
    (∀ raw ∈ altered.1.constraint.defaultValue, '\n' ∉ raw ∧ '@' ∉ raw) ∧
    ((Field.read? (trim altered.1.line.text)).bind Field.attribute?).map (fun b => b.line.text) =
      some altered.2 ∧
    altered.2 ≠ altered.1.line.text)
    [({ name := "note", constraint := { defaultValue := some " " } }, "  note String?"),
     ({ name := "tags", constraint := { list := true, defaultValue := some "[)]" } },
      "  tags String[] @default(\"[\")")] := by
  decide +kernel

end Attribute
end DiagramSchema
