import DiagramSchema.Proofs.Identifier
import DiagramSchema.Proofs.Layout
import DiagramSchema.Schema.Field

/-! Default values, written and read back. What is read back from a line of decorators is the
trimmed default as typed; a truth value comes back in small letters, and a time other than the
current one not at all. -/
namespace DiagramSchema
open Text

namespace DefaultForm

def value : DefaultForm → Text
  | .now => "now()"
  | .truth value => value
  | .whole digits => digits
  | .bracketed items => items
  | .literal value => value

def isTruthWord (value : Text) : Bool := sameWord "true" value || sameWord "false" value

/-- The form that a trimmed value has, and why. -/
inductive Formed (type value : Text) : DefaultForm → Prop where
  | now (exact : value = "now()") : Formed type value .now
  | truth (other : value ≠ "now()") (boolean : isTypeAmong ["boolean"] type = true)
      (word : isTruthWord value = true) : Formed type value (.truth (value.map Char.toLower))
  | whole (number : isTypeAmong ["int", "bigint", "float", "decimal"] type = true)
      (digits : isWhole value = true) : Formed type value (.whole value)
  | bracketed (list : List.isSuffixOf ['[', ']'] type = true) (items : isBracketed value = true) :
      Formed type value (.bracketed value)
  | literal (other : value ≠ "now()")
      (noTruth : isTypeAmong ["boolean"] type = true → isTruthWord value = false)
      (noTime : isTypeAmong ["datetime"] type = false) : Formed type value (.literal value)

theorem formed_of_some {type value : Text} {form : DefaultForm}
    (found : ofTrimmed? type value = some form) : Formed type value form := by
  unfold ofTrimmed? at found
  split at found
  · rename_i now
    obtain rfl := Option.some.inj found
    exact .now now
  · rename_i now
    split at found
    · rename_i truth
      rw [Bool.and_eq_true] at truth
      obtain rfl := Option.some.inj found
      rw [← List.map_eq_flatMap]
      exact .truth now truth.1 truth.2
    · rename_i noTruth
      split at found
      · rename_i whole
        rw [Bool.and_eq_true] at whole
        obtain rfl := Option.some.inj found
        exact .whole whole.1 whole.2
      · split at found
        · rename_i bracketed
          rw [Bool.and_eq_true] at bracketed
          obtain rfl := Option.some.inj found
          exact .bracketed bracketed.1 bracketed.2
        · split at found
          · rename_i noTime
            obtain rfl := Option.some.inj found
            refine .literal now ?_ (by simpa using noTime)
            intro boolean
            exact Bool.eq_false_iff.mpr fun word =>
              noTruth (Bool.and_eq_true_iff.mpr ⟨boolean, word⟩)
          · simp at found

theorem time_of_none {type value : Text} (absent : ofTrimmed? type value = none) :
    value ≠ "now()" ∧ isTypeAmong ["datetime"] type = true := by
  unfold ofTrimmed? at absent
  split at absent
  · simp at absent
  · rename_i now
    refine ⟨now, ?_⟩
    split at absent
    · simp at absent
    · split at absent
      · simp at absent
      · split at absent
        · simp at absent
        · split at absent
          · simp at absent
          · rename_i time
            simpa using time

theorem sameWord_char {word value : Text} (same : sameWord word value = true) {c : Char}
    (inside : c ∈ value) : ∃ letter ∈ word, sameLetter letter c = true := by
  induction word generalizing value with
  | nil =>
    cases value with
    | nil => simp at inside
    | cons d rest => simp [sameWord] at same
  | cons letter word ih =>
    cases value with
    | nil => simp at inside
    | cons d rest =>
      simp only [sameWord, Bool.and_eq_true] at same
      rcases List.mem_cons.mp inside with rfl | later
      · exact ⟨letter, by simp, same.1⟩
      · obtain ⟨other, member, found⟩ := ih same.2 later
        exact ⟨other, by simp [member], found⟩

theorem isWord_of_sameLetter {letter c : Char} (word : isWord letter = true)
    (same : sameLetter letter c = true) : isWord c.toLower = true := by
  simp only [sameLetter, Bool.or_eq_true, Bool.and_eq_true, beq_iff_eq] at same
  rcases same with (plain | ⟨_, dotless | dotted⟩) | ⟨_, long⟩
  · rw [plain, word]
  · subst dotless; decide +kernel
  · subst dotted; decide +kernel
  · subst long; decide +kernel

theorem truth_isWord {value : Text} (truth : isTruthWord value = true) :
    ∀ c ∈ value.map Char.toLower, isWord c = true := by
  intro c inside
  obtain ⟨d, member, rfl⟩ := List.mem_map.mp inside
  rcases Bool.or_eq_true_iff.mp truth with yes | no
  · obtain ⟨letter, known, same⟩ := sameWord_char yes member
    have letters : ∀ letter ∈ ("true" : Text), isWord letter = true := by decide
    exact isWord_of_sameLetter (letters letter known) same
  · obtain ⟨letter, known, same⟩ := sameWord_char no member
    have letters : ∀ letter ∈ ("false" : Text), isWord letter = true := by decide
    exact isWord_of_sameLetter (letters letter known) same

theorem ascii_of_toLower {c : Char} (ascii : c.toLower.toNat < 128) : c.toNat < 128 := by
  unfold Char.toLower at ascii
  split at ascii
  · rename_i capital
    have bound : c.val.toNat ≤ 90 := capital.2
    show c.val.toNat < 128
    omega
  · exact ascii

theorem lower_truth {value : Text} (truth : isTruthWord value = true) :
    lower value = value.map Char.toLower := by
  refine lowerAfter_each (fun c inside => ?_) []
  obtain ⟨letter, known, same⟩ : ∃ letter ∈ ("truefalse" : Text), sameLetter letter c = true := by
    rcases Bool.or_eq_true_iff.mp truth with yes | no
    · obtain ⟨letter, known, same⟩ := sameWord_char yes inside
      exact ⟨letter, List.mem_append_left "false".toList known, same⟩
    · obtain ⟨letter, known, same⟩ := sameWord_char no inside
      exact ⟨letter, List.mem_append_right "true".toList known, same⟩
  have letters : ∀ letter ∈ ("truefalse" : Text), letter ≠ 'i' ∧ letter.toNat < 128 := by decide
  obtain ⟨notI, ascii⟩ := letters letter known
  simp only [sameLetter, Bool.or_eq_true, Bool.and_eq_true, beq_iff_eq, notI, false_and,
    or_false] at same
  rcases same with plain | ⟨_, rfl⟩
  · have small : c.toNat < 128 := ascii_of_toLower (plain ▸ ascii)
    refine ⟨?_, by rw [lowerChar, if_pos small]⟩
    rintro rfl
    exact absurd small (by decide)
  · exact ⟨by decide, by decide +kernel⟩

theorem escapeQuotes_cons_quote (rest : Text) :
    escapeQuotes ('"' :: rest) = '\\' :: '"' :: escapeQuotes rest := rfl

theorem escapeQuotes_cons {c : Char} (plain : c ≠ '"') (rest : Text) :
    escapeQuotes (c :: rest) = c :: escapeQuotes rest := by
  simp [escapeQuotes, plain]

theorem mem_escapeQuotes {value : Text} {c : Char} (inside : c ∈ escapeQuotes value) :
    c ∈ value ∨ c = '\\' := by
  simp only [escapeQuotes, List.mem_flatMap] at inside
  obtain ⟨d, member, shown⟩ := inside
  split at shown
  · rename_i quote
    rw [beq_iff_eq] at quote
    subst quote
    rcases List.mem_cons.mp shown with back | same
    · exact Or.inr back
    · exact Or.inl (List.mem_singleton.mp same ▸ member)
  · exact Or.inl (List.mem_singleton.mp shown ▸ member)

/-- Escaping brings no two characters together that were apart, unless one of them is new. -/
theorem infix_of_infix_escapeQuotes {a b : Char} {value : Text} (first : a ≠ '\\' ∧ a ≠ '"')
    (second : b ≠ '\\' ∧ b ≠ '"') (inside : [a, b] <:+: escapeQuotes value) :
    [a, b] <:+: value := by
  induction value with
  | nil => exact inside
  | cons c rest ih =>
    by_cases quote : c = '"'
    · subst quote
      rw [escapeQuotes_cons_quote, List.infix_cons_iff, List.infix_cons_iff] at inside
      rcases inside with here | here | later
      · exact absurd (List.cons_prefix_cons.mp here).1 first.1
      · exact absurd (List.cons_prefix_cons.mp here).1 first.2
      · exact (ih later).trans (List.suffix_cons _ rest).isInfix
    · rw [escapeQuotes_cons quote, List.infix_cons_iff] at inside
      rcases inside with here | later
      · obtain ⟨rfl, tail⟩ := List.cons_prefix_cons.mp here
        cases rest with
        | nil => exact absurd (List.prefix_nil.mp tail) (by simp)
        | cons d rest =>
          by_cases next : d = '"'
          · subst next
            rw [escapeQuotes_cons_quote] at tail
            exact absurd (List.cons_prefix_cons.mp tail).1 second.1
          · rw [escapeQuotes_cons next] at tail
            obtain ⟨rfl, _⟩ := List.cons_prefix_cons.mp tail
            exact ⟨[], rest, rfl⟩
      · exact (ih later).trans (List.suffix_cons c rest).isInfix

theorem inner_lacks {type value : Text} {form : DefaultForm} (formed : Formed type value form)
    {c : Char} (absent : c ∉ value) (other : isWord c = false) (sign : c ≠ '"' ∧ c ≠ '\\') :
    c ∉ form.inner := by
  cases formed with
  | now exact =>
    rw [exact] at absent
    exact absent
  | truth _ _ word =>
    intro inside
    have letter := truth_isWord word c inside
    simp [other] at letter
  | whole => exact absent
  | bracketed => exact absent
  | literal other noTruth noTime =>
    intro inside
    simp only [inner, List.mem_append, List.mem_singleton] at inside
    rcases inside with (quote | within) | quote
    · exact sign.1 quote
    · rcases mem_escapeQuotes within with typed | back
      · exact absent typed
      · exact sign.2 back
    · exact sign.1 quote

theorem decorator_lacks {type value : Text} {form : DefaultForm} (formed : Formed type value form)
    {c : Char} (absent : c ∉ value) (ends : isLineBreak c = true) : c ∉ form.decorator := by
  have other : isWord c = false := isWord_of_isBlank (isBlank_of_isLineBreak ends)
  have sign : c ≠ '"' ∧ c ≠ '\\' :=
    ⟨by rintro rfl; exact absurd ends (by decide), by rintro rfl; exact absurd ends (by decide)⟩
  have inner := inner_lacks formed absent other sign
  have fixed : ∀ d ∈ opening ++ [')'], isLineBreak d = false := by decide
  have around : c ∉ opening ++ [')'] := fun inside => absurd (fixed c inside) (by simp [ends])
  rw [List.mem_append, not_or] at around
  simp only [decorator, List.mem_append, not_or]
  exact ⟨⟨around.1, inner⟩, around.2⟩

theorem infix_of_infix_inner {type value : Text} {form : DefaultForm}
    (formed : Formed type value form) {a b : Char} (other : isWord a = false)
    (first : a ≠ '"' ∧ a ≠ '\\') (second : b ≠ '"' ∧ b ≠ '\\')
    (inside : [a, b] <:+: form.inner) : [a, b] <:+: value := by
  cases formed with
  | now exact => exact exact ▸ inside
  | truth _ _ word =>
    have letter := truth_isWord word a (inside.subset (by simp))
    exact absurd letter (by simp [other])
  | whole => exact inside
  | bracketed => exact inside
  | literal _ noTruth noTime =>
    have quotes : '"' ∉ [a, b] := by simp [first.1.symm, second.1.symm]
    have body : [a, b] <:+: escapeQuotes value := by
      have opened : [a, b] <:+: [] ++ '"' :: (escapeQuotes value ++ '"' :: []) := by
        simpa [inner] using inside
      rcases infix_append_cons (by simp) quotes opened with none | rest
      · exact absurd (List.infix_nil.mp none) (by simp)
      · rcases infix_append_cons (by simp) quotes rest with body | none
        · exact body
        · exact absurd (List.infix_nil.mp none) (by simp)
    exact infix_of_infix_escapeQuotes first.symm second.symm body

theorem upToClosing_open {s : Text} (open_ : ')' ∉ s) (previous : Option Char) (quoted : Bool)
    (depth : Nat) : upToClosing previous quoted depth s = s := by
  induction s generalizing previous quoted depth with
  | nil => rfl
  | cons c rest ih =>
    have tail := ih fun inside => open_ (by simp [inside])
    have other : c ≠ ')' := by
      rintro rfl
      exact open_ (by simp)
    simp [upToClosing, tail, other]

/-- No parenthesis in a text closes the decorator that the text stands in. -/
def IsUnclosed (s : Text) : Prop := upToClosing none false 0 s = s

instance (s : Text) : Decidable (IsUnclosed s) :=
  inferInstanceAs (Decidable (upToClosing none false 0 s = s))

theorem isUnclosed_of_lacks {s : Text} (open_ : ')' ∉ s) : IsUnclosed s :=
  upToClosing_open open_ none false 0

theorem upToClosing_escaped (value : Text) (previous : Option Char) (depth : Nat) :
    upToClosing previous true depth (escapeQuotes value ++ ['"']) = escapeQuotes value ++ ['"'] := by
  induction value generalizing previous with
  | nil => simp [escapeQuotes, upToClosing]
  | cons c rest ih =>
    by_cases quote : c = '"'
    · subst quote
      rw [escapeQuotes_cons_quote, List.cons_append, List.cons_append]
      simp [upToClosing, ih]
    · rw [escapeQuotes_cons quote, List.cons_append]
      simp [upToClosing, ih, quote]

theorem isUnclosed_inner {type value : Text} {form : DefaultForm}
    (formed : Formed type value form) (list : ∀ items, form = .bracketed items → IsUnclosed items) :
    IsUnclosed form.inner := by
  cases formed with
  | now exact => decide
  | truth other boolean word =>
    apply isUnclosed_of_lacks
    intro inside
    exact absurd (truth_isWord word ')' inside) (by decide)
  | whole number digits =>
    apply isUnclosed_of_lacks
    intro inside
    have digit : ∀ c ∈ value, c = '-' ∨ isDecimalDigit c = true := by
      intro c member
      simp only [isWhole, Bool.and_eq_true] at digits
      split at digits
      · rcases List.mem_cons.mp member with sign | rest
        · exact Or.inl sign
        · exact Or.inr (List.all_eq_true.mp digits.2 c rest)
      · exact Or.inr (List.all_eq_true.mp digits.2 c member)
    rcases digit ')' inside with sign | known
    · exact absurd sign (by decide)
    · exact absurd known (by decide +kernel)
  | bracketed => exact list value rfl
  | literal other noTruth noTime =>
    show upToClosing none false 0 ('"' :: (escapeQuotes value ++ ['"'])) = _
    simp [upToClosing, upToClosing_escaped, inner]

theorem opened_quoted (body : Text) : opened ('"' :: (body ++ ['"'])) = unescapeQuotes body := by
  have quoted : ('"' :: (body ++ ['"'])).getLast? = some '"' := by
    rw [← List.cons_append, List.getLast?_append]
    rfl
  simp only [opened, quoted]
  simp

theorem opened_other {s : Text} (other : ∀ body, s ≠ '"' :: (body ++ ['"'])) : opened s = s := by
  refine if_neg fun quoted => ?_
  simp only [Bool.and_eq_true, decide_eq_true_eq, beq_iff_eq] at quoted
  obtain ⟨⟨long, starts⟩, ends⟩ := quoted
  obtain ⟨rest, rfl⟩ := List.head?_eq_some_iff.mp starts
  obtain ⟨body, split⟩ := List.getLast?_eq_some_iff.mp ends
  cases body with
  | nil =>
    rw [split] at long
    exact absurd long (by simp)
  | cons c body =>
    obtain ⟨rfl, _⟩ := List.cons.inj split
    exact other body split

theorem opened_literal (value : Text) : opened (['"'] ++ escapeQuotes value ++ ['"']) = value := by
  have read := opened_quoted (escapeQuotes value)
  rwa [unescapeQuotes_escapeQuotes] at read

theorem opened_unquoted {s : Text} (unquoted : s.head? ≠ some '"') : opened s = s := by
  refine opened_other ?_
  rintro body rfl
  exact unquoted rfl

theorem isWhole_unquoted {value : Text} (digits : isWhole value = true) :
    value.head? ≠ some '"' := by
  cases value with
  | nil => simp
  | cons c rest =>
    rintro quote
    obtain rfl := Option.some.inj quote
    have digit : isDecimalDigit '"' = false := by decide +kernel
    simp [isWhole, digit] at digits

theorem opened_inner {type value : Text} {form : DefaultForm} (formed : Formed type value form)
    (trimmed : trim value = value) : opened (trim form.inner) = form.value := by
  cases formed with
  | now exact => decide
  | truth other boolean word =>
    have letters := truth_isWord word
    have unquoted : (value.map Char.toLower).head? ≠ some '"' := by
      intro quote
      exact absurd (letters _ (List.mem_of_head? quote)) (by decide)
    rw [inner, trim_solid (solid_of_word letters), opened_unquoted unquoted]
    rfl
  | whole number digits =>
    rw [inner, trimmed, opened_unquoted (isWhole_unquoted digits)]
    rfl
  | bracketed suffix items =>
    simp only [isBracketed, Bool.and_eq_true, beq_iff_eq] at items
    rw [inner, trimmed, opened_unquoted (by simp [items.1.1.2])]
    rfl
  | literal other noTruth noTime =>
    have ends : trim (DefaultForm.literal value).inner = (DefaultForm.literal value).inner :=
      trim_ends (by decide) (by decide) (escapeQuotes value)
    rw [ends, inner, opened_literal]
    rfl

theorem after_opening (rest : Text) : Text.after? opening (opening ++ rest) = some rest := rfl

theorem beforeLast_mark {back : Text} {mark : Char} (absent : mark ∉ back) (front : Text) :
    Text.beforeLast? mark (front ++ mark :: back) = some front := by
  have skip : ∀ c ∈ back.reverse, (c != mark) = true := by
    intro c inside
    simp only [bne_iff_ne]
    rintro rfl
    exact absent (List.mem_reverse.mp inside)
  have cut : (front ++ mark :: back).reverse.dropWhile (· != mark) = mark :: front.reverse := by
    rw [List.reverse_append, List.reverse_cons, List.append_assoc,
      List.dropWhile_append_of_pos skip]
    simp
  rw [Text.beforeLast?, cut]
  simp

def reading (form : DefaultForm) : Text := opened (trim (upToClosing none false 0 form.inner))

theorem recover_reading (form : DefaultForm) {flags : Text} (closed : ')' ∉ flags) :
    recover? (form.decorator ++ flags) = some form.reading := by
  have shape : form.decorator ++ flags = opening ++ (form.inner ++ ')' :: flags) := by
    simp [decorator]
  rw [shape, recover?, after_opening, Option.bind_some, beforeLast_mark closed, Option.map_some,
    reading]

theorem reading_eq_value {type value : Text} {form : DefaultForm} (formed : Formed type value form)
    (trimmed : trim value = value) (list : ∀ items, form = .bracketed items → IsUnclosed items) :
    form.reading = form.value := by
  rw [reading, isUnclosed_inner formed list, opened_inner formed trimmed]

/-- A default is read back from its decorator, whatever flags stand behind it. -/
theorem recover_decorator {type value : Text} {form : DefaultForm}
    (formed : Formed type value form) (trimmed : trim value = value)
    (list : ∀ items, form = .bracketed items → IsUnclosed items) {flags : Text}
    (closed : ')' ∉ flags) : recover? (form.decorator ++ flags) = some form.value := by
  rw [recover_reading form closed, reading_eq_value formed trimmed list]

end DefaultForm
end DiagramSchema
