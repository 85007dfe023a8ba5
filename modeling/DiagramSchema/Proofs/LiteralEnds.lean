import DiagramSchema.Proofs.WrittenDefaults
import Mathlib.Algebra.Ring.Parity

/-! String literals as they are usually read, where a backslash takes the next character with it. The
literal of a default escapes quotes and nothing else, so it is read in this way up to its own end if
and only if no backslash of the default comes to stand alone before a quote. -/
namespace DiagramSchema.DefaultForm
open Text

/-- What follows the first quote that no backslash takes with it. -/
def afterLiteral? : Text → Option Text
  | '\\' :: _ :: rest => afterLiteral? rest
  | c :: rest => if c == '"' then some rest else afterLiteral? rest
  | [] => none

/-- The decorator holds a literal, which ends right before the last parenthesis. -/
def IsClosedLiteral (decorator : Text) : Prop :=
  ∃ rest, decorator = opening ++ '"' :: rest ∧ afterLiteral? rest = some [')']

def backslashesAtEnd (s : Text) : Nat := (s.reverse.takeWhile (· == '\\')).length

/-- The backslashes before a quote, and those at the end, are even in number. -/
def HasPairedBackslashes (value : Text) : Prop :=
  ∀ front back, value = front ++ back → (∀ c ∈ back.head?, c = '"') → Even (backslashesAtEnd front)

def arePaired (before : Nat) : Text → Bool
  | [] => decide (Even before)
  | c :: rest =>
    if c == '\\' then arePaired (before + 1) rest
    else (c != '"' || decide (Even before)) && arePaired 0 rest

theorem backslashesAtEnd_backslash (s : Text) :
    backslashesAtEnd (s ++ ['\\']) = backslashesAtEnd s + 1 := by
  simp [backslashesAtEnd]

theorem backslashesAtEnd_other {c : Char} (other : c ≠ '\\') (s : Text) :
    backslashesAtEnd (s ++ [c]) = 0 := by
  simp [backslashesAtEnd, other]

theorem forall_splits {P : Text → Text → Prop} (c : Char) (rest : Text) :
    (∀ front back, c :: rest = front ++ back → P front back) ↔
      P [] (c :: rest) ∧ ∀ front back, rest = front ++ back → P (c :: front) back := by
  constructor
  · intro every
    refine ⟨every [] _ rfl, fun front back split => every (c :: front) back ?_⟩
    rw [split, List.cons_append]
  · rintro ⟨first, later⟩ front back split
    rcases List.cons_eq_append_iff.mp split with ⟨rfl, rfl⟩ | ⟨front, rfl, tail⟩
    · exact first
    · exact later front back tail

theorem arePaired_iff (before value : Text) :
    arePaired (backslashesAtEnd before) value = true ↔ ∀ front back, value = front ++ back →
      (∀ c ∈ back.head?, c = '"') → Even (backslashesAtEnd (before ++ front)) := by
  induction value generalizing before with
  | nil => simp [arePaired]
  | cons c rest ih =>
    have later := ih (before ++ [c])
    simp only [List.append_assoc, List.singleton_append] at later
    rw [forall_splits, arePaired, ← later]
    by_cases backslash : c = '\\'
    · subst backslash
      simp [backslashesAtEnd_backslash]
    · simp [backslash, backslashesAtEnd_other backslash, imp_iff_not_or]

theorem hasPairedBackslashes_iff {value : Text} :
    HasPairedBackslashes value ↔ arePaired 0 value = true :=
  (arePaired_iff [] value).symm

instance (value : Text) : Decidable (HasPairedBackslashes value) :=
  decidable_of_iff _ hasPairedBackslashes_iff.symm

theorem afterLiteral_backslashes (n : Nat) (rest : Text) :
    afterLiteral? (List.replicate n '\\' ++ rest) = afterLiteral? (rest.drop (n % 2)) := by
  induction n using Nat.twoStepInduction with
  | zero => rfl
  | one =>
    cases rest with
    | nil => rfl
    | cons c rest => rfl
  | more n ih _ =>
    rw [Nat.add_mod_right, ← ih]
    rfl

theorem afterLiteral_other {c : Char} (backslash : c ≠ '\\') (quote : c ≠ '"') (rest : Text) :
    afterLiteral? (c :: rest) = afterLiteral? rest := by
  rw [afterLiteral?]
  · simp [quote]
  · rintro _ _ rfl
    exact absurd rfl backslash

/-- The closing quote is found behind an escaped text if no backslash takes it, or frees another. -/
theorem closes_iff (before : Nat) (value : Text) :
    afterLiteral? (List.replicate before '\\' ++ (escapeQuotes value ++ ['"', ')'])) = some [')'] ↔
      arePaired before value = true := by
  -- `before` counts the backslashes that are read already, so that a run is judged at its end
  induction value generalizing before with
  | nil =>
    rw [afterLiteral_backslashes, arePaired, decide_eq_true_iff, Nat.even_iff]
    rcases Nat.mod_two_eq_zero_or_one before with even | odd
    · rw [even]
      simp [escapeQuotes, afterLiteral?]
    · rw [odd]
      simp [escapeQuotes, afterLiteral?]
  | cons c rest ih =>
    have longer (text : Text) : List.replicate before '\\' ++ '\\' :: text =
        List.replicate (before + 1) '\\' ++ text := by
      rw [List.replicate_succ', List.append_assoc]
      rfl
    have alone := ih 0
    rw [List.replicate_zero, List.nil_append] at alone
    by_cases backslash : c = '\\'
    · subst backslash
      rw [escapeQuotes_cons (by decide), List.cons_append, longer, ih, arePaired]
      rfl
    · by_cases quote : c = '"'
      · subst quote
        rw [escapeQuotes_cons_quote, List.cons_append, List.cons_append, longer,
          afterLiteral_backslashes, arePaired]
        rcases Nat.even_or_odd before with even | odd
        · have taken : (before + 1) % 2 = 1 := Nat.odd_iff.mp even.add_one
          simp [taken, even, alone]
        · have free : (before + 1) % 2 = 0 := Nat.even_iff.mp odd.add_one
          have more : escapeQuotes rest ++ ['"', ')'] ≠ [')'] := by
            intro same
            simpa using congrArg List.length same
          simp [free, Nat.not_even_iff_odd.mpr odd, afterLiteral?, more]
      · have passed : afterLiteral? ((c :: (escapeQuotes rest ++ ['"', ')'])).drop (before % 2)) =
            afterLiteral? (escapeQuotes rest ++ ['"', ')']) := by
          rcases Nat.mod_two_eq_zero_or_one before with even | odd
          · rw [even, List.drop_zero, afterLiteral_other backslash quote]
          · rw [odd]
            rfl
        rw [escapeQuotes_cons quote, List.cons_append, afterLiteral_backslashes, passed, alone,
          arePaired]
        simp [backslash, quote]

theorem isClosedLiteral_iff (value : Text) :
    IsClosedLiteral (DefaultForm.literal value).decorator ↔ HasPairedBackslashes value := by
  have shape : (DefaultForm.literal value).decorator =
      opening ++ '"' :: (escapeQuotes value ++ ['"', ')']) := by
    simp [decorator, inner]
  have closes := closes_iff 0 value
  rw [List.replicate_zero, List.nil_append] at closes
  rw [hasPairedBackslashes_iff, ← closes, IsClosedLiteral, shape]
  constructor
  · rintro ⟨rest, same, ends⟩
    obtain ⟨-, rfl⟩ := List.cons.inj (List.append_cancel_left same)
    exact ends
  · intro ends
    exact ⟨_, rfl, ends⟩

/-- A default that is written as a literal is closed at its end if and only if the backslashes before
each of its quotes and those at its end are even in number. -/
theorem literal_closed_iff {type raw value : Text}
    (found : of? type (some raw) = some (.literal value)) :
    IsClosedLiteral (DefaultForm.literal value).decorator ↔ HasPairedBackslashes (trim raw) := by
  have written : value = trim raw := by
    cases formed_of_typed found with
    | literal => rfl
  rw [written, isClosedLiteral_iff]

def paired : Text := " C:\\temp \\\\\" \\\\ "

theorem paired_closed : of? "String" (some paired) = some (.literal (trim paired)) ∧
    HasPairedBackslashes (trim paired) ∧ IsClosedLiteral (DefaultForm.literal (trim paired)).decorator := by
  have found : of? "String" (some paired) = some (.literal (trim paired)) := by decide
  have even : HasPairedBackslashes (trim paired) := by decide
  exact ⟨found, even, (literal_closed_iff found).mpr even⟩

/-- A backslash at the end takes the closing quote with it, and one before a quote makes that quote the
closing one. -/
theorem lone_unclosed : List.Forall (fun raw : Text =>
    of? "String" (some raw) = some (.literal raw) ∧
      ¬ IsClosedLiteral (DefaultForm.literal raw).decorator) ["C:\\", "say \\\"hi\\\""] := by
  simp only [isClosedLiteral_iff]
  decide

end DiagramSchema.DefaultForm
