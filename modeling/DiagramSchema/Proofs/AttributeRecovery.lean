import DiagramSchema.Proofs.AttributeLine

/-! What comes back of an attribute from its line: everything but the spelling of its default, and a
list is not required. The line can be written again from what came back. -/
namespace DiagramSchema
open Text

namespace Attribute

/-- What remains of a default value: nothing of no text at all, nothing of a time other than the
current one, a truth value in small letters, and the trimmed text of anything else. -/
def keptDefault (a : Attribute) : Option Text :=
  match a.constraint.defaultValue with
  | none | some [] => none
  | some raw =>
    let value := trim raw
    if value ≠ "now()" ∧ a.constraint.list = false ∧ a.type = .dateTime then none
    else if value ≠ "now()" ∧ a.constraint.list = false ∧ a.type = .boolean
        ∧ DefaultForm.isTruthWord value = true then
      some (value.map Char.toLower)
    else some value

def recovered (a : Attribute) : Attribute :=
  { a with constraint := { a.constraint with
      required := a.constraint.required && !a.constraint.list
      defaultValue := a.keptDefault } }

theorem writtenType_boolean (a : Attribute) :
    DefaultForm.isTypeAmong ["boolean"] a.writtenType =
      (!a.constraint.list && a.type == .boolean) := by
  unfold writtenType
  cases a.constraint.list <;> cases a.type <;> decide

theorem writtenType_dateTime (a : Attribute) :
    DefaultForm.isTypeAmong ["datetime"] a.writtenType =
      (!a.constraint.list && a.type == .dateTime) := by
  unfold writtenType
  cases a.constraint.list <;> cases a.type <;> decide

theorem writtenType_whole {a : Attribute}
    (whole : DefaultForm.isTypeAmong ["int", "bigint", "float", "decimal"] a.writtenType = true) :
    a.type ≠ .dateTime ∧ a.type ≠ .boolean := by
  revert whole
  unfold writtenType
  cases a.constraint.list <;> cases a.type <;> decide

theorem form_value (a : Attribute) : a.form?.map DefaultForm.value = a.keptDefault := by
  unfold form? keptDefault
  cases a.constraint.defaultValue with
  | none => rfl
  | some raw =>
    cases raw with
    | nil => rfl
    | cons c rest =>
      dsimp only [DefaultForm.of?]
      generalize trim (c :: rest) = value
      have boolean := writtenType_boolean a
      have time := writtenType_dateTime a
      -- the forms in their order, against the conditions on the type of the attribute
      cases found : DefaultForm.ofTrimmed? a.writtenType value with
      | none =>
        obtain ⟨other, isTime⟩ := DefaultForm.time_of_none found
        simp only [isTime, Bool.true_eq, Bool.and_eq_true, Bool.not_eq_true', beq_iff_eq] at time
        rw [if_pos ⟨other, time⟩]
        rfl
      | some form =>
        cases DefaultForm.formed_of_some found with
        | now exact =>
          rw [if_neg (fun h => h.1 exact), if_neg (fun h => h.1 exact), exact]
          rfl
        | truth other isBoolean word =>
          simp only [isBoolean, Bool.true_eq, Bool.and_eq_true, Bool.not_eq_true', beq_iff_eq]
            at boolean
          have noTime : a.type ≠ .dateTime := by simp [boolean.2]
          rw [if_neg (fun h => noTime h.2.2), if_pos ⟨other, boolean.1, boolean.2, word⟩]
          rfl
        | whole number digits =>
          have kind := writtenType_whole number
          rw [if_neg (fun h => kind.1 h.2.2), if_neg (fun h => kind.2 h.2.2.1)]
          rfl
        | bracketed suffix items =>
          have list := writtenType_list suffix
          rw [if_neg (by simp [list]), if_neg (by simp [list])]
          rfl
        | literal other noTruth noTime =>
          rw [boolean] at noTruth
          rw [noTime] at time
          rw [if_neg, if_neg]
          · rfl
          · rintro ⟨_, list, isBoolean, word⟩
            simp [list, isBoolean, word] at noTruth
          · rintro ⟨_, list, isTime⟩
            simp [list, isTime] at time

def reread (a : Attribute) : Attribute :=
  { a with constraint := { a.constraint with
      required := a.constraint.required && !a.constraint.list
      defaultValue := a.form?.map DefaultForm.reading } }

theorem reread_of_field {a : Attribute} (unsigned : ∀ raw ∈ a.constraint.defaultValue, '@' ∉ raw) :
    a.field.isIdentity = false ∧ a.field.attribute? = some a.reread := by
  have flagged : ∀ unique updatedAt isId,
      (flags unique updatedAt isId).contains "@id".toList = false ∧
      (flags unique updatedAt isId).contains "@unique".toList = unique ∧
      (flags unique updatedAt isId).contains "@updatedAt".toList = updatedAt ∧
      (flags unique updatedAt isId).contains Line.objectKey = isId := by decide
  obtain ⟨identity, unique, updatedAt, isId⟩ :=
    flagged a.constraint.unique a.constraint.updatedAt a.constraint.isId
  have required : (!a.constraint.list && !a.constraint.optional) =
      (a.constraint.required && !a.constraint.list) := by
    unfold Constraint.optional
    cases a.constraint.list <;> cases a.constraint.required <;> rfl
  constructor
  · rw [Field.isIdentity, sign_iff_flag unsigned (by decide), identity]
  · have constraint : a.field.constraint = a.reread.constraint := by
      unfold Field.constraint
      rw [sign_iff_flag unsigned (by decide), sign_iff_flag unsigned (by decide),
        sign_iff_flag unsigned (by decide), unique, updatedAt, isId, reading_of_field]
      show Constraint.mk (!a.constraint.list && !a.constraint.optional) _ a.constraint.list _ _ _ = _
      rw [required]
      rfl
    rw [Field.attribute?, constraint]
    show (ScalarType.ofName? a.type.name).map _ = _
    rw [ScalarType.ofName?_name]
    rfl

theorem attribute_of_field {a : Attribute} (plain : a.HasPlainDefault) :
    a.field.isIdentity = false ∧ a.field.attribute? = some a.recovered := by
  have same : a.reread = a.recovered := by
    rw [reread, ← reading_of_field, default_of_field plain, form_value, recovered]
  rw [← same]
  exact reread_of_field fun raw typed => (plain raw typed).noDecorator

def HasSolidDefault (a : Attribute) : Prop := ∀ raw ∈ a.constraint.defaultValue, trim raw ≠ []

instance (a : Attribute) : Decidable a.HasSolidDefault :=
  inferInstanceAs (Decidable (∀ raw ∈ a.constraint.defaultValue, trim raw ≠ []))

theorem toLower_twice (c : Char) : c.toLower.toLower = c.toLower := by
  by_cases ascii : c.toNat < 128
  · exact forall_ascii (p := fun c => c.toLower.toLower = c.toLower) (by decide) ascii
  · have kept : c.toLower = c := by
      have large : ¬ c.val ≤ 'Z'.val := by
        have bound : c.toNat = c.val.toNat := rfl
        have last : 'Z'.val.toNat = 90 := rfl
        rw [UInt32.le_iff_toNat_le]
        omega
      unfold Char.toLower
      exact dif_neg fun h => large h.2
    rw [kept, kept]

theorem sameWord_toLower {word value : Text} (same : DefaultForm.sameWord word value = true) :
    DefaultForm.sameWord word (value.map Char.toLower) = true := by
  induction word generalizing value with
  | nil =>
    cases value with
    | nil => rfl
    | cons d rest => simp [DefaultForm.sameWord] at same
  | cons letter word ih =>
    cases value with
    | nil => simp [DefaultForm.sameWord] at same
    | cons d rest =>
      simp only [DefaultForm.sameWord, Bool.and_eq_true] at same
      have first : DefaultForm.sameLetter letter d.toLower = true := by
        have known := same.1
        simp only [DefaultForm.sameLetter, Bool.or_eq_true, Bool.and_eq_true, beq_iff_eq,
          toLower_twice] at known ⊢
        rcases known with (plain | ⟨i, dotless | dotted⟩) | ⟨s, long⟩
        · exact Or.inl (Or.inl plain)
        · exact Or.inl (Or.inr ⟨i, Or.inl (by rw [dotless]; decide)⟩)
        · exact Or.inl (Or.inr ⟨i, Or.inr (by rw [dotted]; decide)⟩)
        · exact Or.inr ⟨s, by rw [long]; decide⟩
      simp [DefaultForm.sameWord, first, ih same.2]

theorem truth_toLower {value : Text} (truth : DefaultForm.isTruthWord value = true) :
    DefaultForm.isTruthWord (value.map Char.toLower) = true := by
  rcases Bool.or_eq_true_iff.mp truth with yes | no
  · exact Bool.or_eq_true_iff.mpr (Or.inl (sameWord_toLower yes))
  · exact Bool.or_eq_true_iff.mpr (Or.inr (sameWord_toLower no))

theorem form_again {type value : Text} {form : DefaultForm}
    (found : DefaultForm.ofTrimmed? type value = some form) (trimmed : trim value = value) :
    DefaultForm.ofTrimmed? type (trim form.value) = some form := by
  cases DefaultForm.formed_of_some found with
  | now exact =>
    show DefaultForm.ofTrimmed? type (trim "now()".toList) = _
    rw [← exact, trimmed]
    exact found
  | truth other boolean word =>
    have letters := DefaultForm.truth_isWord word
    have differs : value.map Char.toLower ≠ "now()" := by
      intro same
      exact absurd (letters '(' (by rw [same]; decide)) (by decide)
    have small : (value.map Char.toLower).flatMap (fun c => [c.toLower]) =
        value.map Char.toLower := by
      rw [← List.map_eq_flatMap, List.map_map]
      exact List.map_congr_left fun c _ => toLower_twice c
    have again : (DefaultForm.sameWord "true" (value.map Char.toLower) ||
        DefaultForm.sameWord "false" (value.map Char.toLower)) = true := truth_toLower word
    rw [DefaultForm.value, trim_solid (solid_of_word letters), DefaultForm.ofTrimmed?, if_neg differs,
      if_pos (by rw [boolean, again]; rfl), small]
  | whole number digits => rw [DefaultForm.value, trimmed, found]
  | bracketed suffix items => rw [DefaultForm.value, trimmed, found]
  | literal other noTruth noTime => rw [DefaultForm.value, trimmed, found]

theorem value_solid {type value : Text} {form : DefaultForm}
    (formed : DefaultForm.Formed type value form) (solid : value ≠ []) : form.value ≠ [] := by
  cases formed with
  | now exact => exact fun empty => absurd empty (by decide)
  | truth other boolean word => simpa [DefaultForm.value] using solid
  | whole number digits => exact solid
  | bracketed suffix items => exact solid
  | literal other noTruth noTime => exact solid

theorem recovered_form {a : Attribute} (solid : a.HasSolidDefault) :
    a.recovered.form? = a.form? := by
  have kept : a.recovered.form? = DefaultForm.of? a.writtenType (a.form?.map DefaultForm.value) := by
    rw [form_value]
    rfl
  rw [kept]
  cases found : a.form? with
  | none => rfl
  | some form =>
    obtain ⟨raw, typed, -, source⟩ := typed_of_form found
    have formed := DefaultForm.formed_of_some source
    rw [Option.map_some, ← form_again source (trim_trim raw)]
    cases letters : form.value with
    | nil => exact absurd letters (value_solid formed (solid raw typed))
    | cons c rest => rfl

theorem mark_unrequired {c e : Constraint} (list : e.list = c.list)
    (required : e.required = (c.required && !c.list)) : e.mark = c.mark := by
  unfold Constraint.mark
  rw [list, required]
  cases c.list <;> cases c.required <;> rfl

theorem recovered_line {a : Attribute} (solid : a.HasSolidDefault) : a.recovered.line = a.line := by
  have mark : a.recovered.constraint.mark = a.constraint.mark := mark_unrequired rfl rfl
  rw [line, line, decorators_split, decorators_split, recovered_form solid, mark]
  rfl

theorem recovered_recovered {a : Attribute} (solid : a.HasSolidDefault) :
    a.recovered.recovered = a.recovered := by
  have default : a.recovered.keptDefault = a.keptDefault := by
    rw [← form_value, recovered_form solid, form_value]
  have required : (a.constraint.required && !a.constraint.list && !a.constraint.list) =
      (a.constraint.required && !a.constraint.list) := by
    cases a.constraint.required <;> cases a.constraint.list <;> rfl
  show Attribute.mk a.name a.type ⟨a.constraint.required && !a.constraint.list && !a.constraint.list,
    _, _, _, _, a.recovered.keptDefault⟩ = _
  rw [default, required]
  rfl

theorem plain_word {list : Bool} {s : Text} (word : ∀ c ∈ s, isWord c = true) :
    IsPlainValue list s := by
  have lacks {c : Char} (other : isWord c = false) : c ∉ s := by
    intro inside
    exact absurd (word c inside) (by simp [other])
  refine ⟨?_, lacks (by decide), ?_, ?_, fun _ => lacks (by decide)⟩
  · intro c inside
    cases ends : isLineBreak c with
    | false => rfl
    | true => exact absurd inside (lacks (isWord_of_isBlank (isBlank_of_isLineBreak ends)))
  · exact fun inside => lacks (c := '/') (by decide) (inside.subset (by simp))
  · exact fun inside => lacks (c := '/') (by decide) (inside.subset (by simp))

theorem IsPlainValue.trim {list : Bool} {raw : Text} (plain : IsPlainValue list raw) :
    IsPlainValue list (trim raw) :=
  ⟨fun c inside => plain.oneLine c (mem_of_mem_trim inside),
    fun inside => plain.noDecorator (mem_of_mem_trim inside),
    fun inside => plain.noLineMark (infix_of_infix_trim inside),
    fun inside => plain.noBlockMark (infix_of_infix_trim inside),
    fun isList inside => plain.noClosing isList (mem_of_mem_trim inside)⟩

theorem recovered_plain {a : Attribute} (plain : a.HasPlainDefault) :
    a.recovered.HasPlainDefault := by
  intro raw typed
  have kept : a.form?.map DefaultForm.value = some raw := by
    rw [form_value]
    exact typed
  obtain ⟨form, found, rfl⟩ := Option.map_eq_some_iff.mp kept
  obtain ⟨source, sourced, formed⟩ := formed_of_form found
  have trimmed := (plain source sourced).trim
  show IsPlainValue a.constraint.list form.value
  cases formed with
  | now exact =>
    rw [exact] at trimmed
    exact trimmed
  | truth other boolean word => exact plain_word (DefaultForm.truth_isWord word)
  | whole number digits => exact trimmed
  | bracketed suffix items => exact trimmed
  | literal other noTruth noTime => exact trimmed

end Attribute
end DiagramSchema
