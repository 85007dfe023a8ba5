import DiagramSchema.Proofs.Layout

/-! Block comments and the places at which a text is divided. The text behind a line feed is read as
if it stood alone, unless a block comment goes over that place: one that the text before leaves open
and the text behind closes. A comment that nothing closes is none. -/
namespace DiagramSchema.Comment
open Text

/-- Every block comment that begins in the text ends in it. -/
inductive IsClosed : Text → Prop
  | nil : IsClosed []
  | plain {c : Char} {rest : Text} (apart : ∀ tail, c :: rest ≠ '/' :: '*' :: tail)
      (closed : IsClosed rest) : IsClosed (c :: rest)
  | block {b rest : Text} (inside : ¬ ['*', '/'] <:+: b) (closed : IsClosed rest) :
      IsClosed ('/' :: '*' :: (b ++ '*' :: '/' :: rest))

mutual
/-- A block comment that begins in the text does not end in it. -/
def leavesOpen : Text → Bool
  | [] => false
  | '/' :: '*' :: rest => keepsOpen rest
  | _ :: rest => leavesOpen rest

/-- The same behind the opening mark of a comment. -/
def keepsOpen : Text → Bool
  | [] => true
  | '*' :: '/' :: rest => leavesOpen rest
  | _ :: rest => keepsOpen rest
end

theorem leavesOpen_cons {c : Char} {rest : Text} (plain : ∀ tail, c :: rest ≠ '/' :: '*' :: tail) :
    leavesOpen (c :: rest) = leavesOpen rest := by
  rw [leavesOpen]
  rintro tail rfl rfl
  exact plain tail rfl

theorem keepsOpen_cons {c : Char} {rest : Text} (plain : ∀ tail, c :: rest ≠ '*' :: '/' :: tail) :
    keepsOpen (c :: rest) = keepsOpen rest := by
  rw [keepsOpen]
  rintro tail rfl rfl
  exact plain tail rfl

theorem keepsOpen_body {b : Text} (inside : ¬ ['*', '/'] <:+: b) (rest : Text) :
    keepsOpen (b ++ '*' :: '/' :: rest) = leavesOpen rest := by
  refine unmarked_induction ('*' :: '/' :: rest)
    (P := fun b => keepsOpen (b ++ '*' :: '/' :: rest) = leavesOpen rest)
    (by rw [List.nil_append, keepsOpen]) ?_ inside (by simp)
  intro c b outside ih
  rw [List.cons_append, keepsOpen_cons outside, ih]

theorem isClosed_iff {s : Text} : IsClosed s ↔ leavesOpen s = false := by
  constructor
  · intro closed
    induction closed with
    | nil => rfl
    | plain apart _ ih => rw [leavesOpen_cons apart, ih]
    | block inside _ ih => rw [leavesOpen, keepsOpen_body inside, ih]
  · -- behind an opening mark the text is the body of a comment, its closing mark and closed text
    refine leavesOpen.induct (fun s => leavesOpen s = false → IsClosed s)
      (fun s => keepsOpen s = false →
        ∃ b rest, s = b ++ '*' :: '/' :: rest ∧ (¬ ['*', '/'] <:+: b) ∧ IsClosed rest)
      ?_ ?_ ?_ ?_ ?_ ?_ s
    · exact fun _ => .nil
    · intro tail ih closes
      obtain ⟨b, rest, rfl, inside, closed⟩ := ih closes
      exact .block inside closed
    · intro c rest apart ih closes
      have plain := cons_ne_mark apart
      rw [leavesOpen_cons plain] at closes
      exact .plain plain (ih closes)
    · exact fun opens => absurd opens (by decide)
    · intro rest ih closes
      exact ⟨[], rest, rfl, by decide, ih closes⟩
    · intro c tail apart ih closes
      have plain := cons_ne_mark apart
      rw [keepsOpen_cons plain] at closes
      obtain ⟨b, rest, rfl, inside, closed⟩ := ih closes
      refine ⟨c :: b, rest, rfl, ?_, closed⟩
      intro within
      rcases List.infix_cons_iff.mp within with ⟨more, here⟩ | later
      · exact plain (more ++ '*' :: '/' :: rest) (by rw [← List.cons_append, ← here]; rfl)
      · exact inside later

instance (s : Text) : Decidable (IsClosed s) := decidable_of_iff _ isClosed_iff.symm

theorem isClosed_of_unmarked {s : Text} (unmarked : ¬ ['/', '*'] <:+: s) : IsClosed s := by
  induction s with
  | nil => exact .nil
  | cons c rest ih =>
    refine .plain ?_ (ih fun inside => unmarked (inside.trans (List.suffix_cons c rest).isInfix))
    intro tail same
    exact unmarked (same ▸ ⟨[], tail, rfl⟩)

theorem withoutBlocks_sublist (s : Text) : (withoutBlocks s).Sublist s := by
  -- what remains behind a comment is part of the text as well
  refine withoutBlocks.induct (fun s => (withoutBlocks s).Sublist s)
    (fun s => ∀ rest ∈ afterBlock? s, rest.Sublist s) ?_ ?_ ?_ ?_ ?_ ?_ ?_ s
  · rw [withoutBlocks]
  · intro rest remaining found ih
    rw [withoutBlocks, found]
    exact ((ih remaining found).cons _).cons _
  · intro rest none _
    rw [withoutBlocks, none]
  · intro c rest apart ih
    rw [withoutBlocks]
    · exact ih.cons_cons c
    · exact apart
  · simp [afterBlock?]
  · intro rest ih remaining found
    rw [afterBlock?] at found
    obtain rfl := Option.some.inj found
    exact (ih.cons _).cons _
  · intro c rest apart ih remaining found
    rw [afterBlock?] at found
    · exact (ih remaining found).cons _
    · exact apart

theorem afterBlock_body {b : Text} (inside : ¬ ['*', '/'] <:+: b) (rest : Text) :
    afterBlock? (b ++ '*' :: '/' :: rest) = some (withoutBlocks rest) := by
  refine unmarked_induction ('*' :: '/' :: rest)
    (P := fun b => afterBlock? (b ++ '*' :: '/' :: rest) = some (withoutBlocks rest))
    (by rw [List.nil_append, afterBlock?]) ?_ inside (by simp)
  intro c b outside ih
  rw [List.cons_append, afterBlock_cons outside, ih]

theorem afterBlock_line {line : Text} (unmarked : ¬ ['*', '/'] <:+: line) (rest : Text) :
    afterBlock? (line ++ '\n' :: rest) = afterBlock? rest := by
  refine unmarked_induction ('\n' :: rest)
    (P := fun line => afterBlock? (line ++ '\n' :: rest) = afterBlock? rest)
    (afterBlock_cons (by simp)) ?_ unmarked (by simp)
  intro c line outside ih
  rw [List.cons_append, afterBlock_cons outside, ih]

theorem afterBlock_closes {s : Text} (closes : ['*', '/'] <:+: s) : ∃ rest, afterBlock? s = some rest := by
  induction s with
  | nil => exact absurd closes (by simp)
  | cons c s ih =>
    rcases List.infix_cons_iff.mp closes with ⟨more, here⟩ | later
    · exact ⟨withoutBlocks more, by rw [← here]; exact afterBlock?.eq_2 more⟩
    · by_cases mark : ∃ tail, c :: s = '*' :: '/' :: tail
      · obtain ⟨tail, same⟩ := mark
        exact ⟨withoutBlocks tail, by rw [same, afterBlock?]⟩
      · rw [afterBlock_cons fun tail same => mark ⟨tail, same⟩]
        exact ih later

theorem blocks_unclosed {s : Text} (unclosed : ¬ ['*', '/'] <:+: s) :
    afterBlock? s = none ∧ withoutBlocks s = s := by
  induction s with
  | nil => exact ⟨rfl, rfl⟩
  | cons c rest ih =>
    obtain ⟨noEnd, whole⟩ := ih fun inside => unclosed (inside.trans (List.suffix_cons c rest).isInfix)
    constructor
    · rw [afterBlock_cons, noEnd]
      intro tail same
      exact unclosed (same ▸ ⟨[], tail, rfl⟩)
    · by_cases opens : ∃ tail, c :: rest = '/' :: '*' :: tail
      · obtain ⟨tail, same⟩ := opens
        obtain ⟨rfl, rfl⟩ := List.cons.inj same
        have noEndBehind : afterBlock? tail = none := by
          rwa [afterBlock_cons] at noEnd
          rintro more same
          exact unclosed ⟨['/'], more, by rw [same]; rfl⟩
        rw [withoutBlocks, noEndBehind]
      · rw [withoutBlocks_cons fun tail same => opens ⟨tail, same⟩, whole]

/-- A block comment that the first of two parts leaves open is closed in the second. -/
def Crosses (s rest : Text) : Prop := ¬ IsClosed s ∧ ['*', '/'] <:+: rest

instance (s rest : Text) : Decidable (Crosses s rest) :=
  inferInstanceAs (Decidable (_ ∧ _))

theorem not_crosses_iff {s rest : Text} :
    ¬ Crosses s rest ↔ IsClosed s ∨ ¬ ['*', '/'] <:+: rest := by
  rw [Crosses, not_and_or, not_not]

section
variable {d : Char} {rest : Text} (solid : d ≠ '/' ∧ d ≠ '*')

include solid

theorem closes_cons : ['*', '/'] <:+: d :: rest ↔ ['*', '/'] <:+: rest := by
  rw [List.infix_cons_iff, List.cons_prefix_cons]
  exact or_iff_right fun begins => solid.2 begins.1.symm

theorem isClosed_concat {s : Text} : IsClosed (s ++ [d]) ↔ IsClosed s := by
  have same : leavesOpen (s ++ [d]) = leavesOpen s := by
    refine leavesOpen.induct (fun s => leavesOpen (s ++ [d]) = leavesOpen s)
      (fun s => keepsOpen (s ++ [d]) = keepsOpen s) ?_ ?_ ?_ ?_ ?_ ?_ s
    · exact leavesOpen_cons fun tail same => solid.1 (List.cons.inj same).1
    · exact fun rest ih => ih
    · intro c rest apart ih
      rw [List.cons_append, leavesOpen_cons (mark_apart solid.2 apart []), ih,
        leavesOpen_cons (cons_ne_mark apart)]
    · exact keepsOpen_cons fun tail same => solid.2 (List.cons.inj same).1
    · exact fun rest ih => ih
    · intro c rest apart ih
      rw [List.cons_append, keepsOpen_cons (mark_apart solid.1 apart []), ih,
        keepsOpen_cons (cons_ne_mark apart)]
  rw [isClosed_iff, isClosed_iff, same]

theorem IsClosed.blocks_append {s : Text} (closed : IsClosed s) :
    withoutBlocks (s ++ d :: rest) = withoutBlocks s ++ d :: withoutBlocks rest := by
  induction closed with
  | nil =>
    refine withoutBlocks_cons fun tail same => ?_
    exact solid.1 (List.cons.inj same).1
  | @plain c more apart _ ih =>
    rw [List.cons_append, withoutBlocks_cons, withoutBlocks_cons apart, ih, List.cons_append]
    refine mark_apart solid.2 (fun tail first second => apart tail ?_) rest
    rw [first, second]
  | @block b more inside _ ih =>
    have before : withoutBlocks ('/' :: '*' :: (b ++ '*' :: '/' :: more)) = withoutBlocks more := by
      rw [withoutBlocks, afterBlock_body inside]
    have shape : '/' :: '*' :: (b ++ '*' :: '/' :: more) ++ d :: rest =
        '/' :: '*' :: (b ++ '*' :: '/' :: (more ++ d :: rest)) := by simp
    rw [before, shape, withoutBlocks, afterBlock_body inside]
    exact ih

/-- Before text without a closing mark, a block comment that is left open is none. -/
theorem blocks_append_unclosed (unclosed : ¬ ['*', '/'] <:+: rest) :
    (∀ s, withoutBlocks (s ++ d :: rest) = withoutBlocks s ++ d :: rest) ∧
      ∀ s, afterBlock? (s ++ d :: rest) = (afterBlock? s).map (· ++ d :: rest) := by
  obtain ⟨noEnd, whole⟩ := blocks_unclosed fun inside => unclosed ((closes_cons solid).mp inside)
  -- in the cases of the two functions: four outside a block comment, then three within one
  refine withoutBlocks.mutual_induct
    (fun s => withoutBlocks (s ++ d :: rest) = withoutBlocks s ++ d :: rest)
    (fun s => afterBlock? (s ++ d :: rest) = (afterBlock? s).map (· ++ d :: rest)) ?_ ?_ ?_ ?_ ?_ ?_ ?_
  · rw [List.nil_append, whole]
    rfl
  · intro more remaining found ih
    rw [found, Option.map_some] at ih
    rw [List.cons_append, List.cons_append, withoutBlocks, ih, withoutBlocks, found]
  · intro more none ih
    rw [none, Option.map_none] at ih
    rw [List.cons_append, List.cons_append, withoutBlocks, ih, withoutBlocks, none]
    rfl
  · intro c more apart ih
    rw [List.cons_append, withoutBlocks_cons (mark_apart solid.2 apart rest), ih,
      withoutBlocks_cons (cons_ne_mark apart), List.cons_append]
  · rw [List.nil_append, noEnd]
    rfl
  · intro more ih
    rw [List.cons_append, List.cons_append, afterBlock?, ih, afterBlock?, Option.map_some]
  · intro c more apart ih
    rw [List.cons_append, afterBlock_cons (mark_apart solid.1 apart rest), ih,
      afterBlock_cons (cons_ne_mark apart)]

theorem blocks_append {s : Text} (apart : ¬ Crosses s rest) :
    withoutBlocks (s ++ d :: rest) = withoutBlocks s ++ d :: withoutBlocks rest := by
  rcases not_crosses_iff.mp apart with closed | unclosed
  · exact closed.blocks_append solid
  · rw [(blocks_append_unclosed solid unclosed).1, (blocks_unclosed unclosed).2]

theorem blocks_opened {s : Text} (opened : ¬ IsClosed s) : ∃ front, ∀ rest remaining,
    afterBlock? rest = some remaining → withoutBlocks (s ++ d :: rest) = front ++ remaining := by
  rw [isClosed_iff, Bool.not_eq_false] at opened
  -- in the cases of the two functions: three outside a block comment, then three within one
  refine leavesOpen.induct
    (fun s => leavesOpen s = true → ∃ front, ∀ rest remaining, afterBlock? rest = some remaining →
      withoutBlocks (s ++ d :: rest) = front ++ remaining)
    (fun s => keepsOpen s = true → ∃ front, ∀ rest remaining, afterBlock? rest = some remaining →
      afterBlock? (s ++ d :: rest) = some (front ++ remaining)) ?_ ?_ ?_ ?_ ?_ ?_ s opened
  · exact fun opens => absurd opens (by decide)
  · intro s ih opens
    obtain ⟨front, read⟩ := ih opens
    refine ⟨front, fun rest remaining closes => ?_⟩
    rw [List.cons_append, List.cons_append, withoutBlocks, read rest remaining closes]
  · intro c s apart ih opens
    rw [leavesOpen_cons (cons_ne_mark apart)] at opens
    obtain ⟨front, read⟩ := ih opens
    refine ⟨c :: front, fun rest remaining closes => ?_⟩
    rw [List.cons_append, withoutBlocks_cons (mark_apart solid.2 apart rest),
      read rest remaining closes, List.cons_append]
  · refine fun _ => ⟨[], fun rest remaining closes => ?_⟩
    rw [List.nil_append, List.nil_append, ← closes]
    exact afterBlock_cons fun tail same => solid.2 (List.cons.inj same).1
  · intro s ih opens
    obtain ⟨front, read⟩ := ih opens
    refine ⟨front, fun rest remaining closes => ?_⟩
    rw [List.cons_append, List.cons_append, afterBlock?, read rest remaining closes]
  · intro c s apart ih opens
    rw [keepsOpen_cons (cons_ne_mark apart)] at opens
    obtain ⟨front, read⟩ := ih opens
    refine ⟨front, fun rest remaining closes => ?_⟩
    rw [List.cons_append, afterBlock_cons (mark_apart solid.1 apart rest),
      read rest remaining closes]

end

theorem strip_append_feed {s rest : Text} (apart : ¬ Crosses s rest) :
    strip (s ++ '\n' :: rest) = strip s ++ '\n' :: strip rest := by
  rw [strip, blocks_append (by decide) apart, withoutLines_feed, strip, strip]

/-- No block comment begins or ends in a line without doing both: where none goes on into the line,
none that begins in the line goes on behind it, and else nothing in the line ends one. -/
structure KeepsTo (front line back : Text) : Prop where
  begun : IsClosed front → ¬ Crosses line back
  ended : ¬ IsClosed front → ¬ ['*', '/'] <:+: line

instance (front line back : Text) : Decidable (KeepsTo front line back) :=
  decidable_of_iff ((IsClosed front → ¬ Crosses line back) ∧
      (¬ IsClosed front → ¬ ['*', '/'] <:+: line))
    ⟨fun ⟨begun, ended⟩ => ⟨begun, ended⟩, fun keeps => ⟨keeps.begun, keeps.ended⟩⟩

theorem keepsTo_of_unmarked {line : Text} (noOpening : ¬ ['/', '*'] <:+: line)
    (noClosing : ¬ ['*', '/'] <:+: line) (front back : Text) : KeepsTo front line back :=
  ⟨fun _ crosses => crosses.1 (isClosed_of_unmarked noOpening), fun _ => noClosing⟩

/-- A line that block comments keep to is read by itself, or lost, as the text around has it. -/
theorem blocks_around (front back : Text) :
    (∃ before after, ∀ line, KeepsTo front line back →
      withoutBlocks (around front line back) = around before (withoutBlocks line) after) ∨
    ∃ whole, ∀ line, KeepsTo front line back → withoutBlocks (around front line back) = whole := by
  by_cases closed : IsClosed front
  · refine Or.inl ⟨withoutBlocks front, withoutBlocks back, fun line keeps => ?_⟩
    rw [around, closed.blocks_append (by decide), blocks_append (by decide) (keeps.begun closed)]
    rfl
  · by_cases closes : ['*', '/'] <:+: back
    · -- the comment that is open before the line ends behind it
      obtain ⟨before, read⟩ := blocks_opened (d := '\n') (by decide) closed
      obtain ⟨after, found⟩ := afterBlock_closes closes
      refine Or.inr ⟨before ++ after, fun line keeps => read _ _ ?_⟩
      rw [afterBlock_line (keeps.ended closed), found]
    · refine Or.inl ⟨withoutBlocks front, back, fun line keeps => ?_⟩
      have noClosing : ¬ ['*', '/'] <:+: line ++ '\n' :: back := fun inside =>
        (infix_append_cons (by simp) (by decide) inside).elim (keeps.ended closed) closes
      rw [around, (blocks_append_unclosed (by decide) noClosing).1,
        (blocks_unclosed (keeps.ended closed)).2]
      rfl

end DiagramSchema.Comment
