import DiagramSchema.Proofs.BlockComments
import DiagramSchema.Proofs.BlockLayout
import DiagramSchema.Proofs.OneApart

/-! Schema texts that differ in one line, a field line in both. Whatever stands before and after,
the models that are read differ in that one field at most. -/
namespace DiagramSchema
open Text

theorem Text.lines_feed (front : Text) : ∃ first more, ∀ rest,
    lines (front ++ '\n' :: rest) = first :: (more ++ lines rest) := by
  -- a carriage return takes the line feed behind it along, even the one before the rest
  induction size : front.length using Nat.strongRecOn generalizing front with
  | ind n ih =>
    cases front with
    | nil => exact ⟨[], [], fun rest => rfl⟩
    | cons c front =>
      have shorter : front.length < n := by rw [← size]; exact Nat.lt_succ_self _
      obtain ⟨first, more, found⟩ := ih _ shorter front rfl
      by_cases pair : c = '\r' ∧ ∀ d ∈ front.head?, d = '\n'
      · obtain ⟨rfl, feed⟩ := pair
        cases front with
        | nil => exact ⟨[], [], fun rest => rfl⟩
        | cons d front =>
          obtain rfl : d = '\n' := feed d rfl
          have less : front.length < n := by rw [← size, List.length_cons, List.length_cons]; omega
          obtain ⟨first, more, found⟩ := ih _ less front rfl
          exact ⟨[], first :: more, fun rest => by
            rw [List.cons_append, List.cons_append, lines, found]; rfl⟩
      · have step (rest : Text) : lines (c :: (front ++ '\n' :: rest)) =
            if isLineBreak c then [] :: lines (front ++ '\n' :: rest)
            else (c :: first) :: (more ++ lines rest) := by
          rw [lines, found]
          rintro after rfl same
          refine pair ⟨rfl, ?_⟩
          cases front with
          | nil => simp
          | cons d front => simpa using (List.cons.inj same).1
        by_cases ends : isLineBreak c = true
        · exact ⟨[], first :: more, fun rest => by
            rw [List.cons_append, step, if_pos ends, found]; rfl⟩
        · exact ⟨c :: first, more, fun rest => by rw [List.cons_append, step, if_neg ends]⟩

namespace SourceBlock

/-- A line, without its block comments, that is a field wherever it stands. -/
structure IsField (line : Text) (f : Field) : Prop where
  oneLine : IsOneLine line
  opensNot : header? (bare line) = none
  closesNot : bare line ≠ ['\x7d']
  reads : Field.ofLine? line = some f

theorem lines_around (front back : Text) :
    (∃ before after, ∀ line, Comment.KeepsTo front line back →
      IsOneLine (Comment.withoutBlocks line) →
      (lines (Comment.strip (around front line back))).map trim =
        before ++ bare (Comment.withoutBlocks line) :: after) ∨
    ∃ whole, ∀ line, Comment.KeepsTo front line back →
      (lines (Comment.strip (around front line back))).map trim = whole := by
  rcases Comment.blocks_around front back with ⟨before, after, outside⟩ | ⟨whole, within⟩
  · obtain ⟨first, more, divided⟩ := lines_feed (Comment.withoutLines false before)
    refine Or.inl ⟨(first :: more).map trim,
      (lines (Comment.withoutLines false after)).map trim, fun line keeps one => ?_⟩
    have oneLine : IsOneLine (Comment.withoutLines false (Comment.withoutBlocks line)) := fun c inside =>
      one c (Comment.withoutLines_subset false _ inside)
    rw [Comment.strip, outside line keeps, around, Comment.withoutLines_feed, Comment.withoutLines_feed,
      divided, lines_cons_feed oneLine]
    simp [bare]
  · refine Or.inr ⟨(lines (Comment.withoutLines false whole)).map trim, fun line keeps => ?_⟩
    rw [Comment.strip, within line keeps]

def OneLineApart (first second : Text) (b c : SourceBlock) : Prop :=
  b.name = c.name ∧ OneApart (fun l m => l = bare first ∧ m = bare second) b.body c.body

theorem scan_apart {first second : Text} {f g : Field} (isFirst : IsField first f)
    (isSecond : IsField second g) (before after : List Text) (state : Option (Text × List Text)) :
    OneApart (OneLineApart first second) (scan state (before ++ bare first :: after))
      (scan state (before ++ bare second :: after)) := by
  -- up to the line the two runs are one; then either both pass it over or both take it into a block
  induction before generalizing state with
  | nil =>
    cases state with
    | none =>
      rw [List.nil_append, List.nil_append, scan, scan, isFirst.opensNot, isSecond.opensNot]
      exact OneApart.refl _
    | some block =>
      obtain ⟨name, body⟩ := block
      obtain ⟨more, closed, others, shape⟩ := scan_open after
      rw [List.nil_append, List.nil_append, scan, scan, if_neg isFirst.closesNot,
        if_neg isSecond.closesNot, shape, shape]
      refine OneApart.at_place ⟨rfl, ?_⟩ [] others
      simp only [List.append_assoc]
      exact OneApart.at_place ⟨rfl, rfl⟩ body more
  | cons line before ih =>
    cases state with
    | none =>
      rw [List.cons_append, List.cons_append, scan, scan]
      cases header? line with
      | none => exact ih none
      | some opened =>
        obtain ⟨name, inline⟩ := opened
        dsimp only
        split
        · exact (ih none).append_left [_]
        · exact ih _
    | some block =>
      obtain ⟨name, body⟩ := block
      rw [List.cons_append, List.cons_append, scan, scan]
      split
      · exact (ih none).append_left [_]
      · exact ih _

end SourceBlock

def Model.OneFieldApart (f g : Field) (m n : Model) : Prop :=
  m.name = n.name ∧ OneApart (fun a b => a = f ∧ b = g) m.fields n.fields

/-- The models of two texts that differ in one field line differ in that field at most, if block
comments keep to the line in both. -/
theorem Model.all_apart {front first second back : Text} {f g : Field}
    (isFirst : SourceBlock.IsField (Comment.withoutBlocks first) f)
    (isSecond : SourceBlock.IsField (Comment.withoutBlocks second) g)
    (keepsFirst : Comment.KeepsTo front first back) (keepsSecond : Comment.KeepsTo front second back) :
    OneApart (OneFieldApart f g) (Model.all (around front first back))
      (Model.all (around front second back)) := by
  have blocks : OneApart
      (SourceBlock.OneLineApart (Comment.withoutBlocks first) (Comment.withoutBlocks second))
      (SourceBlock.all (around front first back)) (SourceBlock.all (around front second back)) := by
    rw [SourceBlock.all, SourceBlock.all]
    rcases SourceBlock.lines_around front back with ⟨before, after, outside⟩ | ⟨whole, within⟩
    · rw [outside first keepsFirst isFirst.oneLine, outside second keepsSecond isSecond.oneLine]
      exact SourceBlock.scan_apart isFirst isSecond before after none
    · rw [within first keepsFirst, within second keepsSecond]
      exact OneApart.refl _
  have fields : ∀ b c,
      SourceBlock.OneLineApart (Comment.withoutBlocks first) (Comment.withoutBlocks second) b c →
      OneFieldApart f g b.model c.model := by
    rintro ⟨name, body, closed⟩ ⟨other, rest, ended⟩ ⟨rfl, apart⟩
    refine ⟨rfl, ?_⟩
    show OneApart _ (SourceBlock.fields _) (SourceBlock.fields _)
    rw [SourceBlock.fields_body, SourceBlock.fields_body]
    refine apart.filterMap ?_
    rintro l m ⟨rfl, rfl⟩
    refine Or.inr ⟨f, g, ?_, ?_, rfl, rfl⟩
    · rw [SourceBlock.bare, trim_trim]
      exact isFirst.reads
    · rw [SourceBlock.bare, trim_trim]
      exact isSecond.reads
  exact (blocks.map fields).latestByKey fun m n apart => apart.1

end DiagramSchema
