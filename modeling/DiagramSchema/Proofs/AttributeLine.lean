import DiagramSchema.Proofs.DefaultValue
import DiagramSchema.Proofs.FieldLine
import DiagramSchema.Schema.Emission

/-! The line of an attribute reads as one field, and the decorators of the field show the flags and
the default of the attribute. -/
namespace DiagramSchema
open Text

namespace Attribute

def writtenType (a : Attribute) : Text :=
  if a.constraint.list then a.type.name ++ "[]" else a.type.name

def form? (a : Attribute) : Option DefaultForm :=
  DefaultForm.of? a.writtenType a.constraint.defaultValue

def flags (unique updatedAt isId : Bool) : List Text :=
  flagDecorator unique "@unique" ++ flagDecorator updatedAt "@updatedAt"
    ++ flagDecorator isId Line.objectKey

/-- A default value that holds none of the signs that schema text gives a meaning to. -/
structure IsPlainValue (list : Bool) (raw : Text) : Prop where
  oneLine : IsOneLine raw
  noDecorator : '@' ∉ raw
  noLineMark : ¬ ['/', '/'] <:+: raw
  noBlockMark : ¬ ['/', '*'] <:+: raw
  noClosing : list = true → ')' ∉ raw

instance (list : Bool) (raw : Text) : Decidable (IsPlainValue list raw) :=
  decidable_of_iff
    (IsOneLine raw ∧ '@' ∉ raw ∧ ¬ occursIn ['/', '/'] raw = true ∧
      ¬ occursIn ['/', '*'] raw = true ∧ (list = true → ')' ∉ raw))
    (by
      rw [occursIn_iff, occursIn_iff]
      exact ⟨fun ⟨oneLine, decorator, lineMark, blockMark, closing⟩ =>
          ⟨oneLine, decorator, lineMark, blockMark, closing⟩,
        fun plain => ⟨plain.oneLine, plain.noDecorator, plain.noLineMark, plain.noBlockMark,
          plain.noClosing⟩⟩)

def HasPlainDefault (a : Attribute) : Prop :=
  ∀ raw ∈ a.constraint.defaultValue, IsPlainValue a.constraint.list raw

instance (a : Attribute) : Decidable a.HasPlainDefault :=
  inferInstanceAs (Decidable (∀ raw ∈ a.constraint.defaultValue, IsPlainValue a.constraint.list raw))

theorem decorators_split (a : Attribute) : a.decorators = (a.form?.map DefaultForm.decorator).toList
    ++ flags a.constraint.unique a.constraint.updatedAt a.constraint.isId := by
  simp [decorators, flags, form?, writtenType]

theorem form_of_raw {a : Attribute} {raw : Text} (typed : a.constraint.defaultValue = some raw)
    (text : raw ≠ []) : a.form? = DefaultForm.ofTrimmed? a.writtenType (trim raw) := by
  rw [form?, typed]
  cases raw with
  | nil => exact absurd rfl text
  | cons c rest => rfl

theorem typed_of_form {a : Attribute} {form : DefaultForm} (found : a.form? = some form) :
    ∃ raw, a.constraint.defaultValue = some raw ∧ raw ≠ [] ∧
      DefaultForm.ofTrimmed? a.writtenType (trim raw) = some form := by
  cases typed : a.constraint.defaultValue with
  | none => simp [form?, typed, DefaultForm.of?] at found
  | some raw =>
    have text : raw ≠ [] := by
      rintro rfl
      simp [form?, typed, DefaultForm.of?] at found
    exact ⟨raw, rfl, text, form_of_raw typed text ▸ found⟩

theorem formed_of_form {a : Attribute} {form : DefaultForm} (found : a.form? = some form) :
    ∃ raw, a.constraint.defaultValue = some raw ∧
      DefaultForm.Formed a.writtenType (trim raw) form := by
  obtain ⟨raw, typed, -, trimmed⟩ := typed_of_form found
  exact ⟨raw, typed, DefaultForm.formed_of_some trimmed⟩

theorem decorator_start {a : Attribute} {decorator : Text} (member : decorator ∈ a.decorators) :
    ∃ rest, decorator = '@' :: rest := by
  have checked : ∀ unique updatedAt isId, ∀ decorator ∈ flags unique updatedAt isId,
      decorator.head? = some '@' := by decide
  rw [decorators_split] at member
  rcases List.mem_append.mp member with default | flag
  · obtain ⟨form, _, rfl⟩ := Option.map_eq_some_iff.mp (Option.mem_toList.mp default)
    exact ⟨_, rfl⟩
  · exact List.head?_eq_some_iff.mp (checked _ _ _ decorator flag)

theorem tail_start (a : Attribute) : Line.tail a.decorators = [] ∨
    ∃ rest, Line.tail a.decorators = ' ' :: '@' :: rest := by
  cases shape : a.decorators with
  | nil => exact Or.inl rfl
  | cons decorator more =>
    obtain ⟨rest, rfl⟩ := decorator_start (show decorator ∈ a.decorators by simp [shape])
    exact Or.inr ⟨rest ++ Line.tail more, rfl⟩

theorem tidy_flags (unique updatedAt isId : Bool) :
    Line.IsTidy (Line.tail (flags unique updatedAt isId)) := by
  have checked : ∀ unique updatedAt isId,
      (∀ c ∈ Line.tail (flags unique updatedAt isId), isLineBreak c = false) ∧
      '/' ∉ Line.tail (flags unique updatedAt isId) ∧
      Line.tail (flags unique updatedAt isId) =
        if (trim (Line.tail (flags unique updatedAt isId))).isEmpty then []
        else ' ' :: trim (Line.tail (flags unique updatedAt isId)) := by decide
  obtain ⟨oneLine, clean, spaced⟩ := checked unique updatedAt isId
  refine ⟨oneLine, ?_, ?_, spaced⟩
  · exact fun inside => clean (inside.subset (by simp))
  · exact fun inside => clean (inside.subset (by simp))

theorem trimEnd_flags (unique updatedAt isId : Bool) :
    trimEnd (Line.tail (flags unique updatedAt isId)) = Line.tail (flags unique updatedAt isId) := by
  revert unique updatedAt isId
  decide

theorem trim_decorated (form : DefaultForm) {back : Text} (kept : trimEnd back = back) :
    trim (' ' :: (form.decorator ++ back)) = form.decorator ++ back := by
  obtain ⟨rest, shape⟩ : ∃ rest, form.decorator ++ back = '@' :: (rest ++ ')' :: back) :=
    ⟨"default(".toList ++ form.inner, by rw [DefaultForm.decorator, List.append_assoc]; rfl⟩
  rw [trim_blank (by decide), shape, trim, trimStart_solid (by decide), ← List.cons_append,
    trimEnd_append_solid (by decide), kept]

theorem mark_in_value {type value : Text} {form : DefaultForm}
    (formed : DefaultForm.Formed type value form) {mark : Text}
    (known : mark ∈ [['/', '/'], ['/', '*'], ['*', '/']]) (unique updatedAt isId : Bool)
    (inside : mark <:+: ' ' :: (form.decorator ++ Line.tail (flags unique updatedAt isId))) :
    mark <:+: value := by
  have clean : ∀ unique updatedAt isId, '/' ∉ Line.tail (flags unique updatedAt isId) := by decide
  have shape : ' ' :: (form.decorator ++ Line.tail (flags unique updatedAt isId)) =
      (' ' :: DefaultForm.opening) ++
        (form.inner ++ ')' :: Line.tail (flags unique updatedAt isId)) := by
    simp [DefaultForm.decorator]
  have start : ∀ c ∈ ['/', '*'], c ∉ ' ' :: DefaultForm.opening := by decide
  have signs : ∀ mark ∈ [['/', '/'], ['/', '*'], ['*', '/']], ∃ a b, mark = [a, b] ∧
      a ∈ ['/', '*'] ∧ b ∈ ['/', '*'] ∧ '/' ∈ mark := by
    simp
  have plain : ∀ c ∈ ['/', '*'], isWord c = false ∧ c ≠ '"' ∧ c ≠ '\\' ∧ c ≠ ')' := by decide
  obtain ⟨a, b, rfl, first, second, slash⟩ := signs mark known
  rw [shape] at inside
  have rest := infix_of_append (start a first) inside
  have apart : ')' ∉ [a, b] := by
    simp [(plain a first).2.2.2.symm, (plain b second).2.2.2.symm]
  rcases infix_append_cons (by simp) apart rest with inner | flagged
  · exact DefaultForm.infix_of_infix_inner formed (plain a first).1
      ⟨(plain a first).2.1, (plain a first).2.2.1⟩ ⟨(plain b second).2.1, (plain b second).2.2.1⟩ inner
  · exact absurd (flagged.subset slash) (clean unique updatedAt isId)

theorem tail_none {a : Attribute} (none : a.form? = none) : Line.tail a.decorators =
    Line.tail (flags a.constraint.unique a.constraint.updatedAt a.constraint.isId) := by
  rw [decorators_split, none]
  rfl

theorem tail_some {a : Attribute} {form : DefaultForm} (found : a.form? = some form) :
    Line.tail a.decorators = ' ' :: (form.decorator ++
      Line.tail (flags a.constraint.unique a.constraint.updatedAt a.constraint.isId)) := by
  rw [decorators_split, found]
  rfl

theorem tail_lacks {a : Attribute} {c : Char} (ends : isLineBreak c = true)
    (absent : ∀ raw ∈ a.constraint.defaultValue, c ∉ raw) : c ∉ Line.tail a.decorators := by
  have flagged : ∀ unique updatedAt isId, c ∉ Line.tail (flags unique updatedAt isId) := by
    intro unique updatedAt isId inside
    exact absurd ((tidy_flags unique updatedAt isId).oneLine c inside) (by simp [ends])
  cases found : a.form? with
  | none =>
    rw [tail_none found]
    exact flagged _ _ _
  | some form =>
    obtain ⟨raw, typed, formed⟩ := formed_of_form found
    have trimmed : c ∉ trim raw := fun inside => absent raw typed (mem_of_mem_trim inside)
    have space : c ≠ ' ' := by
      rintro rfl
      exact absurd ends (by decide)
    rw [tail_some found]
    simp [DefaultForm.decorator_lacks formed trimmed ends, flagged, space]

theorem tail_oneLine {a : Attribute} (one : ∀ raw ∈ a.constraint.defaultValue, IsOneLine raw) :
    IsOneLine (Line.tail a.decorators) := by
  intro c inside
  cases ends : isLineBreak c with
  | false => rfl
  | true =>
    have absent : ∀ raw ∈ a.constraint.defaultValue, c ∉ raw := fun raw typed member =>
      absurd (one raw typed c member) (by simp [ends])
    exact absurd inside (tail_lacks ends absent)

theorem tail_unmarked {a : Attribute} {mark : Text}
    (known : mark ∈ [['/', '/'], ['/', '*'], ['*', '/']])
    (absent : ∀ raw ∈ a.constraint.defaultValue, ¬ mark <:+: raw) :
    ¬ mark <:+: Line.tail a.decorators := by
  intro inside
  cases found : a.form? with
  | none =>
    have clean : ∀ unique updatedAt isId, '/' ∉ Line.tail (flags unique updatedAt isId) := by decide
    have slash : ∀ mark ∈ [['/', '/'], ['/', '*'], ['*', '/']], '/' ∈ mark := by decide
    rw [tail_none found] at inside
    exact clean _ _ _ (inside.subset (slash mark known))
  | some form =>
    obtain ⟨raw, typed, formed⟩ := formed_of_form found
    rw [tail_some found] at inside
    exact absent raw typed (infix_of_infix_trim (mark_in_value formed known _ _ _ inside))

theorem tidy_tail {a : Attribute} (plain : a.HasPlainDefault) :
    Line.IsTidy (Line.tail a.decorators) := by
  refine ⟨tail_oneLine fun raw typed => (plain raw typed).oneLine,
    tail_unmarked (by simp) fun raw typed => (plain raw typed).noLineMark,
    tail_unmarked (by simp) fun raw typed => (plain raw typed).noBlockMark, ?_⟩
  cases found : a.form? with
  | none =>
    rw [tail_none found]
    exact (tidy_flags _ _ _).spaced
  | some form =>
    rw [tail_some found, trim_decorated form (trimEnd_flags _ _ _)]
    rfl

def field (a : Attribute) : Field :=
  ⟨a.name, a.type.name, a.constraint.list, a.constraint.optional, trim (Line.tail a.decorators)⟩

theorem scalar_isName (type : ScalarType) : type.name.IsName := by
  cases type <;> exact ⟨by decide, by decide⟩

theorem line_named {a : Attribute} (named : a.name.IsName) :
    a.line = .field a.name a.type.name a.constraint.mark a.decorators := by
  rw [line, Text.orElse]
  simp [named.1]

theorem line_ne {a b : Attribute} (first : a.name.IsName) (second : b.name.IsName)
    (differ : a.name ≠ b.name) : a.line.text ≠ b.line.text := by
  intro same
  rw [line_named first, line_named second] at same
  exact differ (Line.name_of_text first second same)

theorem name_of_identity {name rest : Text} {type : ScalarType}
    (shape : Line.identity.text = ' ' :: ' ' :: (name ++ ' ' :: (type.name ++ rest))) :
    name = "id" := by
  have places : ∀ k < Line.identity.text.length, ∀ type ∈ ScalarType.all,
      (' ' :: type.name).isPrefixOf (Line.identity.text.drop (k + 2)) = true →
        (Line.identity.text.drop 2).take k = "id" := by decide
  have before : name.length < Line.identity.text.length := by
    have length := congrArg List.length shape
    simp only [List.length_cons, List.length_append] at length
    omega
  have behind : Line.identity.text.drop (name.length + 2) = ' ' :: (type.name ++ rest) := by
    simp [shape]
  have found := places name.length before type (ScalarType.mem_all type)
  rw [behind, shape] at found
  simpa using found

theorem identity_ne {a : Attribute} (noIdentity : a.isIdentity = false) :
    Line.identity.text ≠ a.line.text := by
  intro same
  have shown : orElse a.name "field" = "id" :=
    name_of_identity (same.trans (Line.text_field _ _ _ _))
  have differs : a.name ≠ "id" := by simpa [isIdentity] using noIdentity
  cases letters : a.name with
  | nil =>
    rw [letters] at shown
    exact absurd shown (by decide)
  | cons c rest =>
    rw [letters] at shown differs
    exact differs shown

theorem mark_read (c : Constraint) : Field.IsMark c.mark ∧ (c.mark == ['[', ']']) = c.list ∧
    (c.mark == ['?']) = c.optional := by
  unfold Constraint.mark Constraint.optional Field.IsMark
  cases c.list <;> cases c.required <;> decide

theorem line_reads {a : Attribute} (named : a.name.IsName) (plain : a.HasPlainDefault) :
    Line.Reads a.line a.field := by
  obtain ⟨isMark, list, optional⟩ := mark_read a.constraint
  have parts := Line.reads_of_parts named (scalar_isName a.type) isMark (tidy_tail plain)
  rw [list, optional] at parts
  rw [line_named named]
  exact parts

/-- The decorators that stand for a flag, and the one that stands for the identity. -/
def signs : List Text := ["@id", "@unique", "@updatedAt", Line.objectKey]

theorem sign_not_in_decorator {form : DefaultForm} (absent : '@' ∉ form.inner) {sign : Text}
    (known : sign ∈ signs) : sign ∉ words form.decorator := by
  intro member
  have rest : form.decorator = '@' :: ("default(".toList ++ form.inner ++ [')']) := rfl
  have within := infix_of_mem_words member
  rw [rest, List.infix_cons_iff] at within
  have at_ : ∀ sign ∈ signs, '@' ∈ sign := by decide
  rcases within with start | later
  · obtain ⟨more, split⟩ := start
    have third := congrArg (List.take 3) split
    simp only [signs, List.mem_cons, List.not_mem_nil, or_false] at known
    rcases known with rfl | rfl | rfl | rfl
    · exact absurd (show (['@', 'i', 'd'] : Text) = ['@', 'd', 'e'] from third) (by decide)
    · exact absurd (show (['@', 'u', 'n'] : Text) = ['@', 'd', 'e'] from third) (by decide)
    · exact absurd (show (['@', 'u', 'p'] : Text) = ['@', 'd', 'e'] from third) (by decide)
    · exact absurd (show (['@', 'd', 'b'] : Text) = ['@', 'd', 'e'] from third) (by decide)
  · have inside := later.subset (at_ sign known)
    simp only [List.mem_append] at inside
    rcases inside with (start | within) | close
    · exact absurd start (by decide)
    · exact absent within
    · exact absurd close (by decide)

theorem words_append_tail (front : Text) (decorators : List Text) :
    words (front ++ Line.tail decorators) = words front ++ words (Line.tail decorators) := by
  have space : isBlank ' ' = true := by decide
  cases decorators with
  | nil => simp [Line.tail, words, List.splitOnP_nil]
  | cons decorator rest =>
    have shape : Line.tail (decorator :: rest) = ' ' :: (decorator ++ Line.tail rest) := rfl
    rw [shape, words_append_blank space, words_blank space]

theorem words_flags (unique updatedAt isId : Bool) :
    words (Line.tail (flags unique updatedAt isId)) = flags unique updatedAt isId := by
  revert unique updatedAt isId
  decide

theorem sign_iff_flag {a : Attribute} (unsigned : ∀ raw ∈ a.constraint.defaultValue, '@' ∉ raw)
    {sign : Text} (known : sign ∈ signs) : a.field.isDecoratedWith sign =
      (flags a.constraint.unique a.constraint.updatedAt a.constraint.isId).contains sign := by
  unfold Field.isDecoratedWith field
  rw [words_trim]
  cases found : a.form? with
  | none => rw [tail_none found, words_flags]
  | some form =>
    obtain ⟨raw, typed, formed⟩ := formed_of_form found
    have absent : '@' ∉ form.inner := by
      refine DefaultForm.inner_lacks formed ?_ (by decide) (by decide)
      exact fun inside => unsigned raw typed (mem_of_mem_trim inside)
    rw [tail_some found, words_blank (by decide), words_append_tail, words_flags,
      Bool.eq_iff_iff, List.contains_iff_mem, List.contains_iff_mem, List.mem_append]
    exact or_iff_right (sign_not_in_decorator absent known)

theorem reading_of_field (a : Attribute) :
    a.field.defaultValue = a.form?.map DefaultForm.reading := by
  unfold Field.defaultValue field
  cases found : a.form? with
  | none =>
    have checked : ∀ unique updatedAt isId,
        DefaultForm.recover? (trim (Line.tail (flags unique updatedAt isId))) = none := by decide
    rw [tail_none found]
    exact checked _ _ _
  | some form =>
    have closed : ∀ unique updatedAt isId, ')' ∉ Line.tail (flags unique updatedAt isId) := by decide
    rw [tail_some found, trim_decorated form (trimEnd_flags _ _ _)]
    exact DefaultForm.recover_reading form (closed _ _ _)

theorem writtenType_list {a : Attribute}
    (list : List.isSuffixOf ['[', ']'] a.writtenType = true) : a.constraint.list = true := by
  cases plain : a.constraint.list with
  | true => rfl
  | false =>
    rw [writtenType, plain] at list
    revert list
    cases a.type <;> decide

theorem default_of_field {a : Attribute} (plain : a.HasPlainDefault) :
    a.field.defaultValue = a.form?.map DefaultForm.value := by
  rw [reading_of_field]
  refine Option.map_congr fun form found => ?_
  obtain ⟨raw, typed, formed⟩ := formed_of_form found
  refine DefaultForm.reading_eq_value formed (trim_trim raw) ?_
  rintro items rfl
  cases formed with
  | bracketed list =>
    have open_ := (plain raw typed).noClosing (writtenType_list list)
    exact DefaultForm.isUnclosed_of_lacks fun inside => open_ (mem_of_mem_trim inside)

end Attribute
end DiagramSchema
