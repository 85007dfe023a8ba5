import DiagramSchema.Proofs.SolidLines

/-! Another layout of the same schema text. Spaces, tabs, carriage returns and empty lines may be put
at each line feed, and at both ends of the text: wherever this falls, within comments too, the same
models are read. -/
namespace DiagramSchema
open Text

namespace Text

def isSpace (c : Char) : Bool := c == ' ' || c == '\t' || c == '\r' || c == '\n'

/-- What may be put at a line feed, or at an end of a text. -/
def IsGap (s : Text) : Prop := ∀ c ∈ s, isSpace c = true

instance (s : Text) : Decidable (IsGap s) :=
  inferInstanceAs (Decidable (∀ c ∈ s, isSpace c = true))

theorem isBlank_of_isSpace {c : Char} (space : isSpace c = true) : isBlank c = true := by
  simp only [isSpace, Bool.or_eq_true, beq_iff_eq] at space
  rcases space with ((rfl | rfl) | rfl) | rfl <;> decide

theorem IsGap.blank {gap : Text} (space : IsGap gap) : ∀ c ∈ gap, isBlank c = true := fun c inside =>
  isBlank_of_isSpace (space c inside)

theorem IsGap.lacks {gap : Text} (space : IsGap gap) {c : Char} (solid : isSpace c = false) : c ∉ gap := by
  intro inside
  rw [space c inside] at solid
  exact absurd solid (by decide)

/-- A text and the same text with other gaps: in place of each line feed stands a gap that holds at
least one, and another gap stands at the end. -/
inductive Respaced : Text → Text → Prop
  | stop {gap : Text} (space : IsGap gap) : Respaced [] gap
  | keep {c : Char} {s t : Text} (solid : c ≠ '\n') (rest : Respaced s t) : Respaced (c :: s) (c :: t)
  | feed {gap s t : Text} (space : IsGap gap) (ends : '\n' ∈ gap) (rest : Respaced s t) :
      Respaced ('\n' :: s) (gap ++ t)

def withReturns (s : Text) : Text := s.flatMap fun c => if c = '\n' then ['\r', '\n'] else [c]

theorem respaced_withReturns (s : Text) : Respaced s (withReturns s) := by
  induction s with
  | nil => exact .stop (by decide)
  | cons c s ih =>
    rw [withReturns, List.flatMap_cons]
    by_cases feed : c = '\n'
    · rw [if_pos feed, feed]
      exact .feed (by decide) (by decide) ih
    · rw [if_neg feed]
      exact .keep feed ih

theorem respaced_append {gap : Text} (space : IsGap gap) (s : Text) : Respaced s (s ++ gap) := by
  induction s with
  | nil => exact .stop space
  | cons c s ih =>
    by_cases feed : c = '\n'
    · subst feed
      have ends : IsGap ['\n'] := by decide
      have broken : Respaced ('\n' :: s) (['\n'] ++ (s ++ gap)) := .feed ends (by decide) ih
      exact broken
    · exact .keep feed ih

namespace Respaced

variable {s t : Text}

theorem line {l : Text} (oneLine : '\n' ∉ l) (rest : Respaced s t) : Respaced (l ++ s) (l ++ t) := by
  induction l with
  | nil => exact rest
  | cons c l ih =>
    refine .keep (fun same => oneLine (by simp [same])) (ih fun inside => oneLine (by simp [inside]))

theorem kept {c : Char} {u : Text} (respaced : Respaced (c :: s) u) (feed : c ≠ '\n') :
    ∃ t, u = c :: t ∧ Respaced s t := by
  cases respaced with
  | keep _ rest => exact ⟨_, rfl, rest⟩
  | feed => exact absurd rfl feed

theorem of_lines {ls : List (Text × Text)} {last gap : Text} (oneLine : ∀ l ∈ ls, '\n' ∉ l.1)
    (gaps : ∀ l ∈ ls, IsGap l.2 ∧ '\n' ∈ l.2) (lastLine : '\n' ∉ last) (space : IsGap gap) :
    Respaced (ls.flatMap (fun l => l.1 ++ ['\n']) ++ last)
      (ls.flatMap (fun l => l.1 ++ l.2) ++ (last ++ gap)) := by
  induction ls with
  | nil =>
    have only : Respaced (last ++ []) (last ++ gap) := line lastLine (.stop space)
    rwa [List.append_nil] at only
  | cons l ls ih =>
    obtain ⟨isGap, ends⟩ := gaps l (by simp)
    have rest := ih (fun m member => oneLine m (by simp [member])) fun m member => gaps m (by simp [member])
    have whole := line (oneLine l (by simp)) (.feed isGap ends rest)
    rw [List.flatMap_cons, List.flatMap_cons, List.append_assoc, List.append_assoc, List.append_assoc,
      List.append_assoc]
    exact whole

theorem solid_cons {d : Char} {more : Text} (respaced : Respaced s (d :: more))
    (solid : isSpace d = false) : ∃ rest, s = d :: rest ∧ Respaced rest more := by
  generalize shape : d :: more = t at respaced
  cases respaced with
  | stop space => exact absurd (by simp [← shape]) (space.lacks solid)
  | keep _ rest =>
    obtain ⟨rfl, rfl⟩ := List.cons.inj shape
    exact ⟨_, rfl, rest⟩
  | @feed gap _ _ space ends rest =>
    cases gap with
    | nil => exact absurd ends (by simp)
    | cons e gap =>
      obtain ⟨rfl, -⟩ := List.cons.inj shape
      exact absurd (by simp) (space.lacks solid)

theorem apart {a b c : Char} (solid : isSpace b = false) (respaced : Respaced s t)
    (mark : ∀ more, c = a → s = b :: more → False) : ∀ more, c :: t ≠ a :: b :: more := by
  intro more same
  obtain ⟨first, rfl⟩ := List.cons.inj same
  obtain ⟨rest, begins, -⟩ := respaced.solid_cons solid
  exact mark rest first begins

end Respaced
end Text

namespace Comment

theorem withoutBlocks_gap {gap : Text} (space : IsGap gap) (t : Text) :
    withoutBlocks (gap ++ t) = gap ++ withoutBlocks t := by
  have clean : '/' ∉ gap := space.lacks (by decide)
  refine withoutBlocks_append (fun inside => clean (inside.subset (by simp))) fun last => ?_
  exact absurd (List.mem_of_getLast? last) clean

theorem afterBlock_gap {gap : Text} (space : IsGap gap) (t : Text) :
    afterBlock? (gap ++ t) = afterBlock? t := by
  induction gap with
  | nil => rfl
  | cons c gap ih =>
    obtain ⟨first, later⟩ := List.forall_mem_cons.mp space
    rw [List.cons_append, afterBlock_cons, ih later]
    intro tail same
    rw [(List.cons.inj same).1] at first
    exact absurd first (by decide)

/-- Block comments are the same in another layout, up to the gaps within them. -/
theorem blocks_respaced :
    (∀ s t, Respaced s t → Respaced (withoutBlocks s) (withoutBlocks t)) ∧
      ∀ s t, Respaced s t → Option.Rel Respaced (afterBlock? s) (afterBlock? t) := by
  -- in the cases of the two functions on the text as it was, four outside a block comment and three within
  refine withoutBlocks.mutual_induct
    (fun s => ∀ t, Respaced s t → Respaced (withoutBlocks s) (withoutBlocks t))
    (fun s => ∀ t, Respaced s t → Option.Rel Respaced (afterBlock? s) (afterBlock? t))
    ?_ ?_ ?_ ?_ ?_ ?_ ?_
  · intro t respaced
    cases respaced with
    | stop space =>
      have whole := withoutBlocks_gap space []
      rw [withoutBlocks, List.append_nil] at whole
      rw [withoutBlocks, whole]
      exact .stop space
  · intro rest remaining found after u respaced
    obtain ⟨_, rfl, star⟩ := respaced.kept (by decide)
    obtain ⟨t, rfl, inside⟩ := star.kept (by decide)
    have read := after t inside
    rw [found] at read
    rw [withoutBlocks, withoutBlocks, found]
    cases later : afterBlock? t with
    | none => rw [later] at read; cases read
    | some other =>
      rw [later] at read
      cases read with
      | some kept => exact kept
  · intro rest none after u respaced
    obtain ⟨_, rfl, star⟩ := respaced.kept (by decide)
    obtain ⟨t, rfl, inside⟩ := star.kept (by decide)
    have read := after t inside
    rw [none] at read
    rw [withoutBlocks, withoutBlocks, none]
    cases later : afterBlock? t with
    | none => exact .keep (by decide) (.keep (by decide) inside)
    | some other => rw [later] at read; cases read
  · intro c rest apart ih t respaced
    have step : withoutBlocks (c :: rest) = c :: withoutBlocks rest := by
      rw [withoutBlocks]
      exact apart
    rw [step]
    cases respaced with
    | keep feed kept =>
      rw [withoutBlocks_cons (kept.apart (by decide) apart)]
      exact .keep feed (ih _ kept)
    | feed space ends kept =>
      rw [withoutBlocks_gap space]
      exact .feed space ends (ih _ kept)
  · intro t respaced
    cases respaced with
    | stop space =>
      have whole := afterBlock_gap space []
      rw [afterBlock?, List.append_nil] at whole
      rw [afterBlock?, whole]
      exact .none
  · intro rest ih u respaced
    obtain ⟨_, rfl, slash⟩ := respaced.kept (by decide)
    obtain ⟨t, rfl, behind⟩ := slash.kept (by decide)
    rw [afterBlock?, afterBlock?]
    exact .some (ih t behind)
  · intro c rest apart ih t respaced
    have step : afterBlock? (c :: rest) = afterBlock? rest := by
      rw [afterBlock?]
      exact apart
    rw [step]
    cases respaced with
    | keep feed kept =>
      rw [afterBlock_cons (kept.apart (by decide) apart)]
      exact ih _ kept
    | feed space ends kept =>
      rw [afterBlock_gap space]
      exact ih _ kept

theorem withoutLines_respaced {inside : Bool} {s t : Text} (respaced : Respaced s t) :
    Respaced (withoutLines inside s) (withoutLines inside t) := by
  fun_induction withoutLines inside s generalizing t with
  | case1 =>
    cases respaced with
    | stop space => exact .stop fun c member => space c (withoutLines_subset _ _ member)
  | case2 inside rest ih =>
    cases respaced with
    | keep feed => exact absurd rfl feed
    | @feed gap _ t space ends kept =>
      -- a line comment takes along what stands before the first line feed of the gap
      obtain ⟨front, back, rfl⟩ := List.append_of_mem ends
      obtain ⟨before, behind⟩ := List.forall_mem_append.mp space
      have clean : '/' ∉ back := IsGap.lacks (fun c member => behind c (by simp [member])) (by decide)
      have gap : IsGap (withoutLines inside front ++ '\n' :: back) :=
        List.forall_mem_append.mpr
          ⟨fun c member => before c (withoutLines_subset _ _ member), behind⟩
      have shape : withoutLines inside (front ++ '\n' :: back ++ t) =
          (withoutLines inside front ++ '\n' :: back) ++ withoutLines false t := by
        rw [List.append_assoc, List.cons_append, withoutLines_feed, withoutLines_append clean]
        simp
      rw [shape]
      exact .feed gap (by simp) (ih kept)
  | case3 inside rest ih =>
    obtain ⟨_, rfl, slash⟩ := respaced.kept (by decide)
    obtain ⟨t, rfl, behind⟩ := slash.kept (by decide)
    rw [withoutLines]
    exact ih behind
  | case4 c rest feed apart ih =>
    obtain ⟨t, rfl, kept⟩ := respaced.kept feed
    rw [withoutLines_cons true feed (kept.apart (by decide) apart), if_pos rfl]
    exact ih kept
  | case5 inside c rest feed apart outside ih =>
    obtain ⟨t, rfl, kept⟩ := respaced.kept feed
    rw [withoutLines_cons inside feed (kept.apart (by decide) apart), if_neg outside]
    exact .keep feed (ih kept)

end Comment

namespace Text

theorem solidLines_respaced {s t : Text} (respaced : Respaced s t) (front : Text) :
    solidLines (front ++ t) = solidLines (front ++ s) := by
  induction respaced generalizing front with
  | stop space => rw [solidLines_append_blanks space.blank, List.append_nil]
  | @keep c s t _ _ ih =>
    rw [List.append_cons, List.append_cons front c s]
    exact ih (front ++ [c])
  | @feed gap s t space ends _ ih =>
    have isBreak : isLineBreak '\n' = true := by decide
    obtain ⟨before, behind, rfl⟩ := List.append_of_mem ends
    obtain ⟨blank, later⟩ := List.forall_mem_append.mp space.blank
    have rest : solidLines t = solidLines s := ih []
    rw [List.append_assoc, List.cons_append, ← List.append_assoc, solidLines_append_break isBreak,
      solidLines_append_break isBreak, solidLines_append_blanks blank,
      solidLines_blanks_append fun c inside => later c (by simp [inside]), rest]

end Text

namespace Diagram

theorem models_respaced {s t gap : Text} (space : IsGap gap) (respaced : Respaced s t) :
    Model.all (gap ++ t) = Model.all s := by
  have lines : Respaced (Comment.strip s) (Comment.strip t) :=
    Comment.withoutLines_respaced (Comment.blocks_respaced.1 s t respaced)
  have clean : '/' ∉ gap := space.lacks (by decide)
  refine Model.all_of_solidLines ?_
  rw [Comment.strip, Comment.withoutBlocks_gap space, Comment.withoutLines_append clean,
    solidLines_blanks_append space.blank, Comment.strip]
  exact solidLines_respaced lines []

/-- Carriage returns before the line feeds make no difference to what is read from a text, and neither
do gaps of spaces, tabs, carriage returns and empty lines at line feeds and at both ends. -/
theorem space_immaterial (s : Text) :
    ofSchema (withReturns s) = ofSchema s ∧
      ∀ gap t, IsGap gap → Respaced s t → ofSchema (gap ++ t) = ofSchema s := by
  have whole : ∀ gap t, IsGap gap → Respaced s t → ofSchema (gap ++ t) = ofSchema s :=
    fun gap t space respaced => ofSchema_of_models (models_respaced space respaced)
  exact ⟨whole [] _ (by decide) (respaced_withReturns s), whole⟩

def journalLines : List (Text × Text) :=
  [ ("// notes", "\t\r\n"), ("model Day \x7b", "\n\t\n"), ("  mood /* how", " \r\n"),
    ("it was */ String", "  \n  "), ("\x7d", "\r\n\r\n"), ("model Month \x7b", "\n") ]

def journal : Text := journalLines.flatMap (fun l => l.1 ++ ['\n']) ++ "  days Day[]"

def journalRespaced : Text := journalLines.flatMap (fun l => l.1 ++ l.2) ++ ("  days Day[]" ++ ['\t'])

theorem journal_respaced : IsGap ['\n', ' '] ∧ Respaced journal journalRespaced ∧
    ofSchema (['\n', ' '] ++ journalRespaced) = ofSchema journal ∧
    (Model.all journal).map Model.name = ["Day", "Month"] := by
  have space : IsGap ['\n', ' '] := by decide
  have respaced : Respaced journal journalRespaced :=
    .of_lines (by decide) (by decide) (by decide) (by decide)
  exact ⟨space, respaced, (space_immaterial journal).2 _ _ space respaced, by decide +kernel⟩

end Diagram
end DiagramSchema
