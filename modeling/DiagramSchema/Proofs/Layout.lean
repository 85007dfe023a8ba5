import DiagramSchema.Schema.Comment
import DiagramSchema.Text.Word
import Mathlib.Data.List.DropRight
import Mathlib.Data.List.Infix

/-! Text laid out line by line: each line is followed by a line feed. Dividing such a text gives the
lines back, and line comments are removed from each line by itself. -/
namespace DiagramSchema.Text

section
variable {p : Char → Bool} {front rest : Text}

theorem takeWhile_run (all : ∀ c ∈ front, p c = true) (stop : ∀ c ∈ rest.head?, p c = false) :
    (front ++ rest).takeWhile p = front := by
  rw [List.takeWhile_append_of_pos all]
  cases rest with
  | nil => simp
  | cons c rest => simp [stop c rfl]

theorem dropWhile_run (all : ∀ c ∈ front, p c = true) (stop : ∀ c ∈ rest.head?, p c = false) :
    (front ++ rest).dropWhile p = rest := by
  rw [List.dropWhile_append_of_pos all]
  cases rest with
  | nil => rfl
  | cons c rest => simp [stop c rfl]

theorem head_dropWhile {c : Char} (first : (rest.dropWhile p).head? = some c) : p c = false := by
  have ends := List.head?_dropWhile_not p rest
  rwa [first] at ends

end

theorem trimStart_blank {c : Char} (blank : isBlank c = true) (s : Text) :
    trimStart (c :: s) = trimStart s := by
  simp [trimStart, blank]

theorem trimStart_solid {c : Char} (solid : isBlank c = false) (s : Text) :
    trimStart (c :: s) = c :: s := by
  simp [trimStart, solid]

theorem trimEnd_append_solid {c : Char} (solid : isBlank c = false) (front back : Text) :
    trimEnd (front ++ c :: back) = front ++ c :: trimEnd back := by
  unfold trimEnd
  rw [List.reverse_append, List.reverse_cons, List.append_assoc, List.dropWhile_append]
  split
  · rename_i all
    simp only [List.isEmpty_iff] at all
    simp [all, solid]
  · simp

theorem trimEnd_solid {c : Char} (solid : isBlank c = false) (front : Text) :
    trimEnd (front ++ [c]) = front ++ [c] := by
  simpa [trimEnd] using trimEnd_append_solid solid front []

theorem trim_blank {c : Char} (blank : isBlank c = true) (s : Text) : trim (c :: s) = trim s := by
  simp [trim, trimStart_blank blank]

theorem trim_ends {c d : Char} (first : isBlank c = false) (last : isBlank d = false)
    (middle : Text) : trim (c :: (middle ++ [d])) = c :: (middle ++ [d]) := by
  rw [trim, trimStart_solid first, ← List.cons_append, trimEnd_solid last]

theorem trim_solid {s : Text} (solid : ∀ c ∈ s, isBlank c = false) : trim s = s := by
  cases s with
  | nil => rfl
  | cons c rest =>
    obtain rfl | ⟨init, d, rfl⟩ := List.eq_nil_or_concat rest
    · simpa [trim, trimStart_solid (solid c (by simp))] using
        trimEnd_solid (solid c (by simp)) []
    · rw [List.concat_eq_append]
      exact trim_ends (solid c (by simp)) (solid d (by simp)) init

theorem trimEnd_append {front : Text} (nonempty : front ≠ []) (solid : ∀ c ∈ front, isBlank c = false)
    (before back : Text) : trimEnd (before ++ (front ++ back)) = before ++ (front ++ trimEnd back) := by
  obtain none | ⟨init, c, split⟩ := List.eq_nil_or_concat front
  · exact absurd none nonempty
  · subst split
    simp only [List.concat_eq_append, List.append_assoc, List.singleton_append] at solid ⊢
    have step := trimEnd_append_solid (solid c (by simp)) (before ++ init) back
    simpa using step

theorem trim_solid_append {front : Text} (nonempty : front ≠ [])
    (solid : ∀ c ∈ front, isBlank c = false) (back : Text) :
    trim (front ++ back) = front ++ trimEnd back := by
  have start : trimStart (front ++ back) = front ++ back := by
    cases letters : front with
    | nil => exact absurd letters nonempty
    | cons c rest => exact trimStart_solid (solid c (by simp [letters])) _
  have cut := trimEnd_append nonempty solid [] back
  rw [trim, start]
  exact cut

theorem trim_blanks_append {front : Text} (blank : ∀ c ∈ front, isBlank c = true) (s : Text) :
    trim (front ++ s) = trim s := by
  rw [trim, trim, trimStart, trimStart, List.dropWhile_append_of_pos blank]

theorem trimEnd_append_blanks {back : Text} (blank : ∀ c ∈ back, isBlank c = true) (s : Text) :
    trimEnd (s ++ back) = trimEnd s := by
  rw [trimEnd, trimEnd, List.reverse_append, List.dropWhile_append_of_pos]
  exact fun c inside => blank c (List.mem_reverse.mp inside)

theorem trim_append_blanks {back : Text} (blank : ∀ c ∈ back, isBlank c = true) (s : Text) :
    trim (s ++ back) = trim s := by
  unfold trim
  rw [trimStart, List.dropWhile_append]
  split
  · rename_i none
    rw [List.isEmpty_iff] at none
    have gone : back.dropWhile isBlank = [] := List.dropWhile_eq_nil_iff.mpr blank
    rw [gone, trimStart, none]
  · exact trimEnd_append_blanks blank _

theorem trim_between (s : Text) : ∃ front back, s = front ++ trim s ++ back ∧
    (∀ c ∈ front, isBlank c = true) ∧ ∀ c ∈ back, isBlank c = true := by
  refine ⟨s.takeWhile isBlank, ((trimStart s).reverse.takeWhile isBlank).reverse, ?_, ?_, ?_⟩
  · have tail : trim s ++ ((trimStart s).reverse.takeWhile isBlank).reverse = trimStart s := by
      rw [trim, trimEnd, ← List.reverse_append, List.takeWhile_append_dropWhile,
        List.reverse_reverse]
    rw [List.append_assoc, tail, trimStart, List.takeWhile_append_dropWhile]
  · intro c inside
    exact List.mem_takeWhile_imp inside
  · intro c inside
    exact List.mem_takeWhile_imp (List.mem_reverse.mp inside)

theorem trim_eq_nil_iff {s : Text} : trim s = [] ↔ ∀ c ∈ s, isBlank c = true := by
  constructor
  · intro none
    obtain ⟨front, back, split, before, after⟩ := trim_between s
    rw [none, List.append_nil] at split
    rw [split]
    exact List.forall_mem_append.mpr ⟨before, after⟩
  · exact fun blank => trim_append_blanks blank []

theorem trim_trim (s : Text) : trim (trim s) = trim s := by
  obtain ⟨front, back, split, before, after⟩ := trim_between s
  conv => rhs; rw [split]
  rw [trim_append_blanks after, trim_blanks_append before]

theorem trim_trimEnd (s : Text) : trim (trimEnd s) = trim s := by
  have split : s = trimEnd s ++ (s.reverse.takeWhile isBlank).reverse := by
    rw [trimEnd, ← List.reverse_append, List.takeWhile_append_dropWhile, List.reverse_reverse]
  conv => rhs; rw [split]
  rw [trim_append_blanks]
  exact fun c inside => List.mem_takeWhile_imp (List.mem_reverse.mp inside)

theorem trim_trimStart (s : Text) : trim (trimStart s) = trim s := by
  simp [trim, trimStart, List.dropWhile_idempotent]

theorem solid_first {s : Text} {c : Char} (first : (trim s).head? = some c) : isBlank c = false := by
  obtain ⟨more, whole⟩ : trim s <+: trimStart s := List.rdropWhile_prefix isBlank (trimStart s)
  have start : (s.dropWhile isBlank).head? = some c := by
    rw [← trimStart, ← whole, List.head?_append, first]
    rfl
  exact head_dropWhile start

theorem mem_of_mem_trim {s : Text} {c : Char} (inside : c ∈ trim s) : c ∈ s := by
  obtain ⟨front, back, split, _, _⟩ := trim_between s
  rw [split]
  simp [inside]

theorem infix_of_infix_trim {pattern s : Text} (inside : pattern <:+: trim s) : pattern <:+: s := by
  obtain ⟨front, back, split, _, _⟩ := trim_between s
  exact inside.trans ⟨front, back, split.symm⟩

theorem words_append_blank {c : Char} (blank : isBlank c = true) (a b : Text) :
    words (a ++ c :: b) = words a ++ words b := by
  rw [words, List.splitOnP_append_cons a b blank, List.filter_append]
  rfl

theorem words_blank {c : Char} (blank : isBlank c = true) (s : Text) : words (c :: s) = words s := by
  simpa [words, List.splitOnP_nil] using words_append_blank blank [] s

theorem words_blanks_append {front : Text} (blank : ∀ c ∈ front, isBlank c = true) (s : Text) :
    words (front ++ s) = words s := by
  induction front with
  | nil => rfl
  | cons c front ih =>
    rw [List.cons_append, words_blank (blank c (by simp))]
    exact ih fun d inside => blank d (by simp [inside])

theorem words_append_blanks {back : Text} (blank : ∀ c ∈ back, isBlank c = true) (s : Text) :
    words (s ++ back) = words s := by
  cases back with
  | nil => simp
  | cons c back =>
    have none : words back = [] := by
      have step : words (back ++ []) = words [] :=
        words_blanks_append (fun d inside => blank d (by simp [inside])) []
      simpa [words, List.splitOnP_nil] using step
    rw [words_append_blank (blank c (by simp)), none, List.append_nil]

theorem words_trim (s : Text) : words (trim s) = words s := by
  obtain ⟨front, back, split, before, after⟩ := trim_between s
  conv => rhs; rw [split]
  rw [words_append_blanks after, words_blanks_append before]

theorem piece_within {p : Char → Bool} (s : Text) :
    (∀ piece ∈ s.splitOnP p, piece <:+: s) ∧ ∀ piece ∈ (s.splitOnP p).head?, piece <+: s := by
  induction s with
  | nil => simp [List.splitOnP_nil]
  | cons c rest ih =>
    obtain ⟨all, first⟩ := ih
    rw [List.splitOnP_cons_eq_if_modifyHead]
    split
    · constructor
      · intro piece member
        rcases List.mem_cons.mp member with rfl | later
        · exact List.nil_infix
        · exact (all piece later).trans (List.suffix_cons c rest).isInfix
      · simp
    · cases pieces : rest.splitOnP p with
      | nil => exact absurd pieces (List.splitOnP_ne_nil p rest)
      | cons head tail =>
        rw [pieces] at all first
        have start : c :: head <+: c :: rest := List.cons_prefix_cons.mpr ⟨rfl, first head rfl⟩
        constructor
        · intro piece member
          rcases List.mem_cons.mp member with rfl | later
          · exact start.isInfix
          · exact (all piece (by simp [later])).trans (List.suffix_cons c rest).isInfix
        · simpa using start

theorem infix_of_mem_words {s word : Text} (member : word ∈ words s) : word <:+: s :=
  (piece_within s).1 word (List.mem_filter.mp member).1

def unlines (ls : List Text) : Text := ls.flatMap fun line => line ++ ['\n']

theorem unlines_append (ls more : List Text) : unlines (ls ++ more) = unlines ls ++ unlines more := by
  simp [unlines]

theorem unlines_cons (line : Text) (ls : List Text) :
    unlines (line :: ls) = line ++ '\n' :: unlines ls := by
  simp [unlines]

theorem unlines_feed {ls : List Text} (some : ls ≠ []) : ∃ front, unlines ls = front ++ ['\n'] := by
  obtain none | ⟨init, last, rfl⟩ := List.eq_nil_or_concat ls
  · exact absurd none some
  · rw [List.concat_eq_append, unlines_append]
    exact ⟨unlines init ++ last, by simp [unlines]⟩

def around (front line back : Text) : Text := front ++ '\n' :: (line ++ '\n' :: back)

def IsOneLine (s : Text) : Prop := ∀ c ∈ s, isLineBreak c = false

instance (s : Text) : Decidable (IsOneLine s) :=
  inferInstanceAs (Decidable (∀ c ∈ s, isLineBreak c = false))

theorem IsOneLine.no_feed {s : Text} (one : IsOneLine s) : '\n' ∉ s := by
  intro inside
  have := one _ inside
  simp [isLineBreak, lineBreakCodes] at this

theorem length_lines_le (s : Text) : (lines s).length ≤ s.length := by
  fun_induction lines s
  case case1 | case4 => simp
  case case2 ih | case3 ih =>
    simp only [List.length_cons]
    omega
  case case5 split ih =>
    rw [split] at ih
    simp only [List.length_cons] at ih ⊢
    omega

theorem lines_cons_feed {line : Text} (one : IsOneLine line) (rest : Text) :
    lines (line ++ '\n' :: rest) = line :: lines rest := by
  induction line with
  | nil => simp [lines, isLineBreak, lineBreakCodes]
  | cons c line ih =>
    have solid : isLineBreak c = false := one c (by simp)
    have plain : c ≠ '\r' := by
      rintro rfl
      simp [isLineBreak, lineBreakCodes] at solid
    have tail := ih fun d inside => one d (by simp [inside])
    rw [List.cons_append, lines]
    · simp [solid, tail]
    · intro _ same
      exact absurd same plain

theorem lines_unlines {ls : List Text} (one : ∀ line ∈ ls, IsOneLine line) (rest : Text) :
    lines (unlines ls ++ rest) = ls ++ lines rest := by
  induction ls with
  | nil => rfl
  | cons line ls ih =>
    rw [unlines_cons, List.append_assoc, List.cons_append, lines_cons_feed (one line (by simp)),
      ih fun other inside => one other (by simp [inside])]
    rfl

def occursIn (pattern s : Text) : Bool := s.tails.any fun tail => pattern.isPrefixOf tail

theorem occursIn_iff {pattern s : Text} : occursIn pattern s = true ↔ pattern <:+: s := by
  rw [List.infix_iff_prefix_suffix]
  simp [occursIn, and_comm, List.mem_tails]

theorem infix_append_cons {pattern front back : Text} {c : Char} (nonempty : pattern ≠ [])
    (lacks : c ∉ pattern) (inside : pattern <:+: front ++ c :: back) :
    pattern <:+: front ∨ pattern <:+: back := by
  obtain ⟨before, after, same⟩ := inside
  rw [List.append_assoc, List.append_eq_append_iff] at same
  rcases same with ⟨gap, cut, rest⟩ | ⟨gap, cut, rest⟩
  · rw [List.append_eq_append_iff] at rest
    rcases rest with ⟨more, inFront, _⟩ | ⟨more, inPattern, tail⟩
    · exact Or.inl ⟨before, more, by rw [cut, inFront, List.append_assoc]⟩
    · cases more with
      | nil => exact Or.inl ⟨before, [], by simp [cut, inPattern]⟩
      | cons d more =>
        obtain ⟨rfl, _⟩ := List.cons.inj tail
        exact absurd (by simp [inPattern]) lacks
  · cases gap with
    | nil =>
      cases pattern with
      | nil => exact absurd rfl nonempty
      | cons d pattern =>
        obtain ⟨rfl, _⟩ := List.cons.inj rest
        exact absurd (by simp) lacks
    | cons d gap =>
      obtain ⟨_, tail⟩ := List.cons.inj rest
      exact Or.inr ⟨gap, after, by rw [tail, List.append_assoc]; rfl⟩

theorem infix_of_append {a : Char} {pattern front : Text} (lacks : a ∉ front) {rest : Text}
    (inside : a :: pattern <:+: front ++ rest) : a :: pattern <:+: rest := by
  induction front with
  | nil => exact inside
  | cons c front ih =>
    rw [List.cons_append, List.infix_cons_iff] at inside
    rcases inside with here | later
    · exact absurd (by simp [(List.cons_prefix_cons.mp here).1]) lacks
    · exact ih (fun member => lacks (by simp [member])) later

theorem mark_apart {a b c d : Char} {front : Text} (other : d ≠ b)
    (apart : ∀ more, c = a → front = b :: more → False) (rest : Text) :
    ∀ more, c :: (front ++ d :: rest) ≠ a :: b :: more := by
  intro more same
  obtain ⟨first, second⟩ := List.cons.inj same
  cases front with
  | nil => exact other (List.cons.inj second).1
  | cons e front => exact apart front first (by rw [(List.cons.inj second).1])

theorem cons_ne_mark {a b c : Char} {rest : Text} (apart : ∀ more, c = a → rest = b :: more → False) :
    ∀ more, c :: rest ≠ a :: b :: more := by
  rintro more same
  obtain ⟨first, second⟩ := List.cons.inj same
  exact apart more first second

/-- Induction on a text in front of another, where a mark of two characters begins at no place of the
text: neither within it nor with its last character. -/
theorem unmarked_induction {a b : Char} (rest : Text) {P : Text → Prop} (nil : P [])
    (cons : ∀ c front, (∀ more, c :: (front ++ rest) ≠ a :: b :: more) → P front → P (c :: front))
    {front : Text} (unmarked : ¬ [a, b] <:+: front)
    (apart : front.getLast? = some a → rest.head? ≠ some b) : P front := by
  induction front with
  | nil => exact nil
  | cons c front ih =>
    have tail := ih (fun inside => unmarked (inside.trans (List.suffix_cons c front).isInfix))
      (by cases front with
        | nil => simp
        | cons d front => simpa [List.getLast?_cons_cons] using apart)
    refine cons c front ?_ tail
    intro more same
    obtain ⟨rfl, second⟩ := List.cons.inj same
    cases front with
    | nil => exact apart rfl (by rw [← List.nil_append rest, second, List.head?_cons])
    | cons d front => exact unmarked ⟨[], front, by rw [(List.cons.inj second).1]; rfl⟩

end DiagramSchema.Text

namespace DiagramSchema.Comment
open Text

theorem withoutBlocks_cons {c : Char} {rest : Text}
    (plain : ∀ tail, c :: rest ≠ '/' :: '*' :: tail) :
    withoutBlocks (c :: rest) = c :: withoutBlocks rest := by
  rw [withoutBlocks]
  rintro tail rfl rfl
  exact plain tail rfl

theorem afterBlock_cons {c : Char} {rest : Text} (apart : ∀ tail, c :: rest ≠ '*' :: '/' :: tail) :
    afterBlock? (c :: rest) = afterBlock? rest := by
  rw [afterBlock?]
  rintro tail rfl rfl
  exact apart tail rfl

theorem withoutBlocks_append {front rest : Text} (unmarked : ¬ ['/', '*'] <:+: front)
    (apart : front.getLast? = some '/' → rest.head? ≠ some '*') :
    withoutBlocks (front ++ rest) = front ++ withoutBlocks rest := by
  refine unmarked_induction rest
    (P := fun front => withoutBlocks (front ++ rest) = front ++ withoutBlocks rest) rfl ?_ unmarked apart
  intro c front outside ih
  rw [List.cons_append, withoutBlocks_cons outside, ih, List.cons_append]

theorem withoutBlocks_unmarked {s : Text} (unmarked : ¬ ['/', '*'] <:+: s) : withoutBlocks s = s := by
  have whole : withoutBlocks (s ++ []) = s ++ withoutBlocks [] := withoutBlocks_append unmarked (by simp)
  rwa [withoutBlocks, List.append_nil] at whole

theorem withoutBlocks_line {line : Text} (unmarked : ¬ ['/', '*'] <:+: line) (rest : Text) :
    withoutBlocks (line ++ '\n' :: rest) = line ++ '\n' :: withoutBlocks rest := by
  rw [withoutBlocks_append unmarked (by simp), withoutBlocks_cons (by simp)]

theorem withoutBlocks_unlines {ls : List Text} (unmarked : ∀ line ∈ ls, ¬ ['/', '*'] <:+: line)
    (rest : Text) : withoutBlocks (unlines ls ++ rest) = unlines ls ++ withoutBlocks rest := by
  induction ls with
  | nil => rfl
  | cons line ls ih =>
    rw [unlines_cons, List.append_assoc, List.cons_append,
      withoutBlocks_line (unmarked line (by simp)),
      ih fun other inside => unmarked other (by simp [inside])]
    simp

theorem withoutLines_cons {c : Char} {rest : Text} (inside : Bool) (feed : c ≠ '\n')
    (plain : ∀ tail, c :: rest ≠ '/' :: '/' :: tail) :
    withoutLines inside (c :: rest) =
      if inside then withoutLines true rest else c :: withoutLines false rest := by
  rw [withoutLines]
  · exact feed
  · rintro tail rfl rfl
    exact plain tail rfl

theorem withoutLines_feed (inside : Bool) (front rest : Text) :
    withoutLines inside (front ++ '\n' :: rest) =
      withoutLines inside front ++ '\n' :: withoutLines false rest := by
  fun_induction withoutLines inside front with
  | case1 => rfl
  | case2 inside front ih => simpa [withoutLines] using ih
  | case3 inside front ih => simpa [withoutLines] using ih
  | case4 c front feed mark ih =>
    rw [List.cons_append, withoutLines_cons true feed (mark_apart (by decide) mark rest)]
    exact ih
  | case5 inside c front feed mark outside ih =>
    rw [List.cons_append, withoutLines_cons inside feed (mark_apart (by decide) mark rest),
      if_neg outside, ih]
    rfl

theorem withoutLines_unlines (ls : List Text) (rest : Text) :
    withoutLines false (unlines ls ++ rest) =
      unlines (ls.map (withoutLines false)) ++ withoutLines false rest := by
  induction ls with
  | nil => rfl
  | cons line ls ih =>
    rw [unlines_cons, List.append_assoc, List.cons_append, withoutLines_feed, ih, List.map_cons,
      unlines_cons]
    simp

theorem withoutLines_apart {front rest : Text} (unmarked : ¬ ['/', '/'] <:+: front)
    (apart : front.getLast? = some '/' → rest.head? ≠ some '/') :
    withoutLines false (front ++ rest) = front ++ withoutLines false rest := by
  refine unmarked_induction rest
    (P := fun front => withoutLines false (front ++ rest) = front ++ withoutLines false rest)
    rfl ?_ unmarked apart
  intro c front outside ih
  by_cases feed : c = '\n'
  · subst feed
    rw [List.cons_append, withoutLines, ih]
    rfl
  · rw [List.cons_append, withoutLines_cons false feed outside, ih]
    rfl

theorem withoutLines_unmarked {s : Text} (unmarked : ¬ ['/', '/'] <:+: s) :
    withoutLines false s = s := by
  have whole : withoutLines false (s ++ []) = s ++ withoutLines false [] :=
    withoutLines_apart unmarked (by simp)
  rwa [withoutLines, List.append_nil] at whole

theorem withoutLines_append {front : Text} (clean : '/' ∉ front) (rest : Text) :
    withoutLines false (front ++ rest) = front ++ withoutLines false rest :=
  withoutLines_apart (fun inside => clean (inside.subset (by simp)))
    fun last => absurd (List.mem_of_getLast? last) clean

theorem withoutLines_inside {s : Text} (oneLine : '\n' ∉ s) : withoutLines true s = [] := by
  generalize inside : true = begun
  fun_induction withoutLines begun s with
  | case1 => rfl
  | case2 => simp at oneLine
  | case3 _ rest ih => exact ih (fun member => oneLine (by simp [member])) rfl
  | case4 c rest _ _ ih => exact ih (fun member => oneLine (by simp [member])) rfl
  | case5 _ _ _ _ _ outside => exact absurd inside.symm outside

theorem withoutLines_sublist (inside : Bool) (s : Text) : (withoutLines inside s).Sublist s := by
  fun_induction withoutLines inside s with
  | case1 => exact List.nil_sublist _
  | case2 inside rest ih => exact ih.cons_cons _
  | case3 inside rest ih => exact (ih.cons _).cons _
  | case4 c rest feed mark ih => exact ih.cons c
  | case5 inside c rest feed mark outside ih => exact ih.cons_cons c

theorem withoutLines_subset (inside : Bool) (s : Text) : withoutLines inside s ⊆ s :=
  (withoutLines_sublist inside s).subset

theorem strip_unlines {ls : List Text} (unmarked : ∀ line ∈ ls, ¬ ['/', '*'] <:+: line)
    (rest : Text) :
    strip (unlines ls ++ rest) = unlines (ls.map (withoutLines false)) ++ strip rest := by
  rw [strip, withoutBlocks_unlines unmarked, withoutLines_unlines, strip]

end DiagramSchema.Comment
