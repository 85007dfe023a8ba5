import DiagramSchema.Assistant.Reply
import DiagramSchema.Proofs.Layout

/-! Code fences around the reply of a language model. What stands between the outermost fences comes
back as it was, whatever fences it holds itself; and a reply that is not fenced is only trimmed. -/
namespace DiagramSchema.Reply
open Text

/-- The text is a body between fences. Behind the opening fence stand an info word and blanks with a line
feed among them, all blanks up to the body. -/
def IsFenced (s body : Text) : Prop :=
  ∃ info gap, s = fence ++ (info ++ (gap ++ (body ++ fence))) ∧ (∀ c ∈ info, isInfoChar c = true) ∧
    ('\n' ∈ gap ∧ ∀ c ∈ gap, isBlank c = true) ∧ ∀ c ∈ body.head?, isBlank c = false

theorem isInfoChar_of_isBlank {c : Char} (blank : isBlank c = true) : isInfoChar c = false := by
  have hyphen : isBlank '-' = false := by decide
  have other : c ≠ '-' := by
    rintro rfl
    exact absurd (hyphen.symm.trans blank) (by decide)
  simp [isInfoChar, isWord_of_isBlank blank, other]

theorem solid_behind_gap {body : Text} (solid : ∀ c ∈ body.head?, isBlank c = false) :
    ∀ c ∈ (body ++ fence).head?, isBlank c = false := by
  cases body with
  | nil =>
    intro c first
    obtain rfl := Option.some.inj first
    decide
  | cons d rest => exact solid

theorem isFenced_of_unfenced {s body : Text} (found : unfenced? s = some body) : IsFenced s body := by
  obtain ⟨afterFence, start, parts⟩ := Option.bind_eq_some_iff.mp found
  have opened : fence ++ afterFence = s := List.isPrefixOf?_eq_some_iff_append_eq.mp start
  dsimp only at parts
  split at parts
  · rename_i closes
    rw [Bool.and_eq_true, List.contains_iff_mem, List.isSuffixOf_iff_suffix] at closes
    obtain ⟨feed, inner, closed⟩ := closes
    have kept : inner = body := by
      rw [← closed, List.length_append, Nat.add_sub_cancel, List.take_left] at parts
      exact Option.some.inj parts
    subst kept
    refine ⟨afterFence.takeWhile isInfoChar, (afterFence.dropWhile isInfoChar).takeWhile isBlank, ?_,
      fun c inside => List.mem_takeWhile_imp inside,
      ⟨feed, fun c inside => List.mem_takeWhile_imp inside⟩, fun c first => ?_⟩
    · rw [closed, List.takeWhile_append_dropWhile, List.takeWhile_append_dropWhile, opened]
    · have behind : ((afterFence.dropWhile isInfoChar).dropWhile isBlank).head? = some c := by
        rw [← closed, List.head?_append, first]
        rfl
      exact head_dropWhile behind
  · exact absurd parts (by simp)

theorem unfenced_of_isFenced {s body : Text} (fenced : IsFenced s body) : unfenced? s = some body := by
  obtain ⟨info, gap, rfl, isInfo, ⟨feed, blank⟩, solid⟩ := fenced
  have stop : ∀ c ∈ (gap ++ (body ++ fence)).head?, isInfoChar c = false := by
    cases gap with
    | nil => exact absurd feed (by simp)
    | cons d rest =>
      intro c first
      obtain rfl := Option.some.inj first
      exact isInfoChar_of_isBlank (blank d (by simp))
  have behind := solid_behind_gap solid
  have start : fence.isPrefixOf? (fence ++ (info ++ (gap ++ (body ++ fence)))) =
      some (info ++ (gap ++ (body ++ fence))) := List.isPrefixOf?_eq_some_iff_append_eq.mpr rfl
  have closes : fence.isSuffixOf (body ++ fence) = true :=
    List.isSuffixOf_iff_suffix.mpr (List.suffix_append body fence)
  rw [unfenced?, start, Option.bind_some]
  simp only [dropWhile_run isInfo stop, takeWhile_run blank behind, dropWhile_run blank behind, closes]
  simp [feed]

theorem cleaned_of_isFenced {reply body : Text} (fenced : IsFenced (trim reply) body) :
    cleaned reply = trim body := by
  rw [cleaned, unfenced_of_isFenced fenced]

theorem cleaned_of_not_isFenced {reply : Text} (bare : ∀ body, ¬IsFenced (trim reply) body) :
    cleaned reply = trim reply := by
  rw [cleaned]
  cases found : unfenced? (trim reply) with
  | none => rfl
  | some body => exact absurd (isFenced_of_unfenced found) (bare body)

structure Fencing where
  info : Text
  before : Text
  behind : Text
  onOwnLine : Bool
  isInfo : ∀ c ∈ info, isInfoChar c = true
  blank_before : ∀ c ∈ before, isBlank c = true
  blank_behind : ∀ c ∈ behind, isBlank c = true

theorem trim_fences (middle : Text) : trim (fence ++ middle ++ fence) = fence ++ middle ++ fence := by
  have mark : isBlank '\x60' = false := by decide
  have ends := trim_ends mark mark (['\x60', '\x60'] ++ middle ++ ['\x60', '\x60'])
  simpa [fence] using ends

namespace Fencing

def ending (f : Fencing) : Text := if f.onOwnLine then ['\n'] else []

def around (f : Fencing) (s : Text) : Text :=
  f.before ++ (fence ++ (f.info ++ '\n' :: (s ++ (f.ending ++ (fence ++ f.behind)))))

theorem blank_ending (f : Fencing) : ∀ c ∈ f.ending, isBlank c = true := by
  unfold ending
  split
  · decide
  · simp

theorem trim_around (f : Fencing) (s : Text) :
    trim (f.around s) = fence ++ (f.info ++ '\n' :: (s ++ (f.ending ++ fence))) := by
  have shape : f.around s =
      f.before ++ ((fence ++ (f.info ++ '\n' :: (s ++ f.ending)) ++ fence) ++ f.behind) := by
    simp [around]
  rw [shape, trim_blanks_append f.blank_before, trim_append_blanks f.blank_behind, trim_fences]
  simp

theorem isFenced_around (f : Fencing) {s : Text} (trimmed : trim s = s) :
    ∃ body, IsFenced (trim (f.around s)) body ∧ trim body = s := by
  rw [trim_around]
  cases s with
  | nil =>
    refine ⟨[], ⟨f.info, '\n' :: f.ending, rfl, f.isInfo, ⟨List.mem_cons_self, ?_⟩, by simp⟩, rfl⟩
    exact List.forall_mem_cons.mpr ⟨by decide, f.blank_ending⟩
  | cons c rest =>
    have first : isBlank c = false := solid_first (s := c :: rest) (by rw [trimmed]; rfl)
    refine ⟨c :: rest ++ f.ending, ⟨f.info, ['\n'], ?_, f.isInfo, by decide, ?_⟩, ?_⟩
    · simp
    · intro d same
      obtain rfl := Option.some.inj same
      exact first
    · rw [trim_append_blanks f.blank_ending, trimmed]

end Fencing

/-- A fence around a trimmed text is undone, and only that one; without a fence at both ends a reply is
only trimmed. -/
theorem fencing_undone :
    (∀ (f : Fencing) (s : Text), trim s = s → cleaned (f.around s) = s) ∧
      ∀ reply, ¬fence <+: trim reply ∨ ¬fence <:+ trim reply → cleaned reply = trim reply := by
  refine ⟨fun f s trimmed => ?_, fun reply bare => cleaned_of_not_isFenced fun body fenced => ?_⟩
  · obtain ⟨body, fenced, whole⟩ := f.isFenced_around trimmed
    rw [cleaned_of_isFenced fenced, whole]
  · obtain ⟨info, gap, split, -⟩ := fenced
    rcases bare with opens | closes
    · exact opens ⟨_, split.symm⟩
    · refine closes ⟨fence ++ (info ++ (gap ++ body)), ?_⟩
      rw [split]
      simp only [List.append_assoc]

def quotedSchema : Text := "\x60\x60\x60prisma\nmodel A \x7b\x7d\n\x60\x60\x60"

def quoting : Fencing where
  info := "md-2"
  before := "\n "
  behind := "\t"
  onOwnLine := false
  isInfo := by decide
  blank_before := by decide
  blank_behind := by decide

def introduced : Text := "\nHere:\n\x60\x60\x60\nmodel A \x7b\x7d\n\x60\x60\x60 "

theorem quoting_undone : trim quotedSchema = quotedSchema ∧
    cleaned (quoting.around quotedSchema) = quotedSchema ∧ ¬fence <+: trim introduced ∧
    cleaned introduced = trim introduced := by
  have trimmed : trim quotedSchema = quotedSchema := by decide
  have bare : ¬fence <+: trim introduced := by decide
  exact ⟨trimmed, fencing_undone.1 quoting quotedSchema trimmed, bare,
    fencing_undone.2 introduced (Or.inl bare)⟩

end DiagramSchema.Reply
