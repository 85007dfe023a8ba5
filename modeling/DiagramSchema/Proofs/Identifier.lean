import DiagramSchema.Schema.Naming
import DiagramSchema.Text.Word

/-! ASCII identifiers, and the names that schema text derives from them. Deriving keeps them
identifiers, and two models with the same derived key field are one. -/
namespace DiagramSchema

namespace Text

def isIdentifier : Text → Bool
  | [] => false
  | c :: rest => c.isAlpha && rest.all fun d => d.isAlphanum || d == '_'

def IsName (s : Text) : Prop := s ≠ [] ∧ ∀ c ∈ s, isWord c = true

instance (s : Text) : Decidable s.IsName :=
  inferInstanceAs (Decidable (s ≠ [] ∧ ∀ c ∈ s, isWord c = true))

theorem solid_of_word {s : Text} (word : ∀ c ∈ s, isWord c = true) :
    ∀ c ∈ s, isBlank c = false := by
  intro c inside
  cases blank : isBlank c with
  | false => rfl
  | true => exact absurd (word c inside) (by simp [isWord_of_isBlank blank])

theorem IsName.solid {s : Text} (name : s.IsName) : ∀ c ∈ s, isBlank c = false :=
  solid_of_word name.2

theorem IsName.lacks {s : Text} (name : s.IsName) {c : Char} (other : isWord c = false) : c ∉ s := by
  intro inside
  have word := name.2 c inside
  simp [other] at word

theorem IsName.append {s t : Text} (first : s.IsName) (second : ∀ c ∈ t, isWord c = true) :
    (s ++ t).IsName := by
  refine ⟨by simp [first.1], ?_⟩
  intro c inside
  rcases List.mem_append.mp inside with front | back
  · exact first.2 c front
  · exact second c back

theorem forall_ascii {p : Char → Prop} (checked : ∀ code < 128, p (Char.ofNat code))
    {c : Char} (ascii : c.toNat < 128) : p c := by
  have holds := checked c.toNat ascii
  rwa [Char.ofNat_toNat] at holds

theorem alphanum_ascii {c : Char} (h : c.isAlphanum = true) : c.toNat < 128 := by
  delta Char.isAlphanum Char.isAlpha Char.isUpper Char.isLower Char.isDigit at h
  simp only [Bool.or_eq_true, Bool.and_eq_true, decide_eq_true_eq, UInt32.le_iff_toNat_le] at h
  have bounds : c.toNat = c.val.toNat := rfl
  simp at h
  omega

theorem alpha_ascii {c : Char} (h : c.isAlpha = true) : c.toNat < 128 :=
  alphanum_ascii (by simp [Char.isAlphanum, h])

theorem word_of_identifier_char {c : Char} (h : (c.isAlphanum || c == '_') = true) :
    isWord c = true := by
  simp [isWord, h]

theorem isName_of_identifier {s : Text} (h : isIdentifier s = true) : s.IsName := by
  cases s with
  | nil => simp [isIdentifier] at h
  | cons c rest =>
    simp only [isIdentifier, Bool.and_eq_true, List.all_eq_true] at h
    refine ⟨by simp, ?_⟩
    intro d inside
    rcases List.mem_cons.mp inside with same | later
    · subst same
      exact word_of_identifier_char (by simp [Char.isAlphanum, h.1])
    · exact word_of_identifier_char (h.2 d later)

theorem identifier_ascii {s : Text} (h : isIdentifier s = true) : ∀ c ∈ s, c.toNat < 128 := by
  cases s with
  | nil => simp
  | cons c rest =>
    simp only [isIdentifier, Bool.and_eq_true, List.all_eq_true] at h
    intro d inside
    rcases List.mem_cons.mp inside with same | later
    · exact same ▸ alpha_ascii h.1
    · rcases Bool.or_eq_true_iff.mp (h.2 d later) with letter | underscore
      · exact alphanum_ascii letter
      · rw [beq_iff_eq.mp underscore]
        decide

theorem lowerAfter_each {s : Text} (each : ∀ c ∈ s, c ≠ 'Σ' ∧ lowerChar c = [c.toLower])
    (before : Text) : lowerAfter before s = s.map Char.toLower := by
  induction s generalizing before with
  | nil => rfl
  | cons c rest ih =>
    obtain ⟨⟨other, small⟩, later⟩ := List.forall_mem_cons.mp each
    rw [lowerAfter, ih later]
    simp [other, small]

theorem lowerAfter_ascii {s : Text} (ascii : ∀ c ∈ s, c.toNat < 128) (before : Text) :
    lowerAfter before s = s.map Char.toLower := by
  refine lowerAfter_each (fun c inside => ⟨?_, by rw [lowerChar, if_pos (ascii c inside)]⟩) before
  rintro rfl
  exact absurd (ascii 'Σ' inside) (by decide)

end Text

namespace Naming
open Text

theorem capitalized_letter {c : Char} (letter : c.isAlpha = true) (rest : Text) :
    capitalized (c :: rest) = c.toUpper :: rest := by
  simp [capitalized, upperChar, alpha_ascii letter]

theorem uncapitalized_letter {c : Char} (letter : c.isAlpha = true) (rest : Text) :
    uncapitalized (c :: rest) = c.toLower :: rest := by
  simp [uncapitalized, lowerChar, alpha_ascii letter]

theorem letter_case {c : Char} (letter : c.isAlpha = true) :
    c.toUpper.isAlpha = true ∧ c.toLower.isAlpha = true ∧ c.toUpper.toUpper = c.toUpper ∧
      c.toLower.toUpper = c.toUpper := by
  refine forall_ascii (p := fun c => c.isAlpha = true → c.toUpper.isAlpha = true ∧
    c.toLower.isAlpha = true ∧ c.toUpper.toUpper = c.toUpper ∧ c.toLower.toUpper = c.toUpper)
    ?_ (alpha_ascii letter) letter
  decide

theorem capitalized_identifier {s : Text} (h : isIdentifier s = true) :
    isIdentifier (capitalized s) = true := by
  cases s with
  | nil => simp [isIdentifier] at h
  | cons c rest =>
    simp only [isIdentifier, Bool.and_eq_true] at h
    rw [capitalized_letter h.1]
    simp [isIdentifier, (letter_case h.1).1, h.2]

theorem uncapitalized_identifier {s : Text} (h : isIdentifier s = true) :
    isIdentifier (uncapitalized s) = true := by
  cases s with
  | nil => simp [isIdentifier] at h
  | cons c rest =>
    simp only [isIdentifier, Bool.and_eq_true] at h
    rw [uncapitalized_letter h.1]
    simp [isIdentifier, (letter_case h.1).2.1, h.2]

theorem capitalized_capitalized {s : Text} (h : isIdentifier s = true) :
    capitalized (capitalized s) = capitalized s := by
  cases s with
  | nil => simp [isIdentifier] at h
  | cons c rest =>
    simp only [isIdentifier, Bool.and_eq_true] at h
    rw [capitalized_letter h.1, capitalized_letter (letter_case h.1).1, (letter_case h.1).2.2.1]

theorem capitalized_uncapitalized {s : Text} (h : isIdentifier s = true) :
    capitalized (uncapitalized s) = capitalized s := by
  cases s with
  | nil => simp [isIdentifier] at h
  | cons c rest =>
    simp only [isIdentifier, Bool.and_eq_true] at h
    rw [uncapitalized_letter h.1, capitalized_letter (letter_case h.1).2.1,
      capitalized_letter h.1, (letter_case h.1).2.2.2]

theorem keyField_identifier {s : Text} (h : isIdentifier s = true) :
    isIdentifier (keyField s) = true := by
  have small := uncapitalized_identifier h
  unfold keyField
  cases letters : uncapitalized s with
  | nil => simp [letters, isIdentifier] at small
  | cons c rest =>
    simp only [letters, isIdentifier, Bool.and_eq_true] at small
    simp [isIdentifier, small]

theorem keyField_injective {s t : Text} (hs : isIdentifier s = true) (ht : isIdentifier t = true)
    (same : keyField s = keyField t) : capitalized s = capitalized t := by
  have small : uncapitalized s = uncapitalized t := List.append_cancel_right same
  rw [← capitalized_uncapitalized hs, small, capitalized_uncapitalized ht]

theorem keyField_ne_id {s : Text} (h : isIdentifier s = true) : keyField s ≠ "id" := by
  intro same
  have nonempty := (isName_of_identifier (uncapitalized_identifier h)).1
  have length := congrArg List.length same
  simp [keyField] at length
  exact nonempty length

theorem manyField_isName {s : Text} (h : isIdentifier s = true) : (manyField s).IsName := by
  have lower : (Text.lower s).IsName := by
    rw [Text.lower, lowerAfter_ascii (identifier_ascii h)]
    refine ⟨by simpa using (isName_of_identifier h).1, ?_⟩
    intro c inside
    obtain ⟨d, member, rfl⟩ := List.mem_map.mp inside
    have word := (isName_of_identifier h).2 d member
    exact forall_ascii (p := fun c => isWord c = true → isWord c.toLower = true)
      (by decide +kernel) (identifier_ascii h d member) word
  unfold manyField plural
  split
  · simp [IsName]; decide
  · split
    · exact lower.append (by decide)
    · exact lower.append (by decide)

end Naming
end DiagramSchema
