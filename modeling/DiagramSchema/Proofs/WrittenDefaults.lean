import DiagramSchema.Proofs.AttributeLine

/-! Defaults as they are typed, written as decorators and read back from a line of decorators. Whatever
the text holds, it comes back without the blanks around it; a truth value comes back in small letters.
Lists in brackets are left out, since a parenthesis ends them early. -/
namespace DiagramSchema.DefaultForm
open Text

/-- What is read back of a text that was written in a form. -/
def readBack (raw : Text) : DefaultForm → Text
  | .truth _ => lower (trim raw)
  | _ => trim raw

theorem value_of_formed {type raw : Text} {form : DefaultForm}
    (formed : Formed type (trim raw) form) : form.value = form.readBack raw := by
  cases formed with
  | now exact => exact exact.symm
  | truth _ _ word => exact (lower_truth word).symm
  | whole => rfl
  | bracketed => rfl
  | literal => rfl

theorem formed_of_typed {type raw : Text} {form : DefaultForm}
    (found : of? type (some raw) = some form) : Formed type (trim raw) form := by
  cases raw with
  | nil => exact absurd found (by simp [of?])
  | cons c rest => exact formed_of_some found

theorem flags_lack {following : List Text}
    (flags : following ⊆ ["@unique", "@updatedAt", Line.objectKey]) :
    '\n' ∉ Line.tail following ∧ ')' ∉ Line.tail following := by
  have checked : ∀ decorator ∈ (["@unique", "@updatedAt", Line.objectKey] : List Text),
      ∀ c ∈ ' ' :: decorator, c ≠ '\n' ∧ c ≠ ')' := by decide
  have each : ∀ c ∈ Line.tail following, c ≠ '\n' ∧ c ≠ ')' := by
    intro c inside
    obtain ⟨decorator, member, within⟩ := List.mem_flatMap.mp inside
    exact checked decorator (flags member) c within
  exact ⟨fun inside => (each _ inside).1 rfl, fun inside => (each _ inside).2 rfl⟩

/-- The default is read back from its decorator and the flags behind it, which stand on one line. -/
theorem default_text_recovered {type raw : Text} {form : DefaultForm} {following : List Text}
    (oneLine : '\n' ∉ raw) (found : of? type (some raw) = some form)
    (noList : ∀ items, form ≠ .bracketed items)
    (flags : following ⊆ ["@unique", "@updatedAt", Line.objectKey]) :
    '\n' ∉ form.decorator ++ Line.tail following ∧
      recover? (form.decorator ++ Line.tail following) = some (form.readBack raw) := by
  have formed := formed_of_typed found
  obtain ⟨unbroken, unclosed⟩ := flags_lack flags
  constructor
  · have absent : '\n' ∉ trim raw := fun inside => oneLine (mem_of_mem_trim inside)
    have written := decorator_lacks formed absent (by decide)
    simp [written, unbroken]
  · rw [← value_of_formed formed]
    exact recover_decorator formed (trim_trim raw) (fun items list => absurd list (noList items))
      unclosed

def thorny : Text := " \")\\\" @id // ((\\ "

theorem thorny_recovered :
    '\n' ∉ thorny ∧ of? "String" (some thorny) = some (.literal (trim thorny)) ∧
    recover? ((DefaultForm.literal (trim thorny)).decorator ++
      Line.tail [Line.objectKey, "@unique", "@unique"]) = some ("\")\\\" @id // ((\\" : Text) := by
  have oneLine : '\n' ∉ thorny := by decide
  have found : of? "String" (some thorny) = some (.literal (trim thorny)) := by decide
  have flags : ([Line.objectKey, "@unique", "@unique"] : List Text) ⊆
      ["@unique", "@updatedAt", Line.objectKey] := by decide
  exact ⟨oneLine, found, (default_text_recovered oneLine found (by simp) flags).2⟩

end DiagramSchema.DefaultForm
