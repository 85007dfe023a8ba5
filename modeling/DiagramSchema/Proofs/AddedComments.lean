import DiagramSchema.Proofs.LinePieces
import DiagramSchema.Proofs.SolidLines

/-! Comments added to schema text that holds none: line comments behind its lines, and block comments
on lines of their own. The models that are read stay the same, unless a line comment reaches beyond
itself. It does so if it opens a block comment that is closed further down, if its line is not ended by
a line feed, or if its first slash follows another one. -/
namespace DiagramSchema
open Text

def remarkText (remark : Option Text) : Text := remark.elim [] fun c => '/' :: '/' :: c

def blockLines (blocks : List Text) : Text := blocks.flatMap fun b => '/' :: '*' :: (b ++ ['*', '/', '\n'])

structure CommentedLine where
  line : Text
  ending : Text
  remark : Option Text := none
  blocks : List Text := []

namespace CommentedLine

def plain (l : CommentedLine) : Text := l.line ++ l.ending

def text (l : CommentedLine) : Text :=
  l.line ++ (remarkText l.remark ++ (l.ending ++ blockLines l.blocks))

/-- A line break, or a carriage return and a line feed, ends the line. -/
def IsEnded (l : CommentedLine) : Prop :=
  l.ending = ['\r', '\n'] ∨ ∃ c, isLineBreak c = true ∧ l.ending = [c]

instance (l : CommentedLine) : Decidable l.IsEnded :=
  decidable_of_iff (l.ending = ['\r', '\n'] ∨ l.ending.length = 1 ∧ ∀ c ∈ l.ending, isLineBreak c = true) <| by
    rw [IsEnded, List.length_eq_one_iff]
    refine or_congr Iff.rfl ⟨?_, ?_⟩
    · rintro ⟨⟨c, single⟩, ends⟩
      exact ⟨c, ends c (by simp [single]), single⟩
    · rintro ⟨c, ends, single⟩
      exact ⟨⟨c, single⟩, by simpa [single] using ends⟩

def IsApart (l : CommentedLine) (behind : Text) : Prop :=
  ∀ c ∈ l.remark, (l.line.getLast? ≠ some '/' ∧ c.head? ≠ some '*') ∧
    (l.ending = ['\n'] ∨ l.ending = ['\r', '\n']) ∧
    (Comment.IsClosed c ∨ ¬ ['*', '/'] <:+: l.ending ++ (blockLines l.blocks ++ behind))

end CommentedLine

/-- A text in lines, and the comments that are added: above the first line, at the lines, and behind
what follows the last line end. -/
structure CommentedText where
  top : List Text := []
  lines : List CommentedLine := []
  last : Text := []
  remark : Option Text := none

namespace CommentedText

def plain (t : CommentedText) : Text := t.lines.flatMap CommentedLine.plain ++ t.last

def text (t : CommentedText) : Text :=
  blockLines t.top ++ (t.lines.flatMap CommentedLine.text ++ (t.last ++ remarkText t.remark))

/-- The text as it was holds no mark of a comment, no line comment goes over a line break, and no block
comment ends early. -/
structure IsAnnotated (t : CommentedText) : Prop where
  unmarked : ∀ mark ∈ [['/', '/'], ['/', '*'], ['*', '/']], ¬ mark <:+: t.plain
  lines : ∀ l ∈ t.lines, IsOneLine l.line ∧ l.IsEnded
  last : IsOneLine t.last
  remarks : ∀ remark ∈ t.remark :: t.lines.map CommentedLine.remark, ∀ c ∈ remark, IsOneLine c
  blocks : ∀ b ∈ t.top ++ t.lines.flatMap CommentedLine.blocks, ¬ ['*', '/'] <:+: b

def AreApart (behind : Text) : List CommentedLine → Prop
  | [] => True
  | l :: rest => l.IsApart (rest.flatMap CommentedLine.text ++ behind) ∧ AreApart behind rest

structure IsApart (t : CommentedText) : Prop where
  lines : AreApart (t.last ++ remarkText t.remark) t.lines
  last : ∀ c ∈ t.remark, t.last.getLast? ≠ some '/' ∧ c.head? ≠ some '*'

end CommentedText

namespace Comment

theorem withoutBlocks_blockLines {blocks : List Text} (inside : ∀ b ∈ blocks, ¬ ['*', '/'] <:+: b)
    (rest : Text) : withoutBlocks (blockLines blocks ++ rest) =
      List.replicate blocks.length '\n' ++ withoutBlocks rest := by
  induction blocks with
  | nil => rfl
  | cons b blocks ih =>
    have shape : blockLines (b :: blocks) ++ rest =
        '/' :: '*' :: (b ++ '*' :: '/' :: ('\n' :: (blockLines blocks ++ rest))) := by
      simp [blockLines]
    rw [shape, withoutBlocks, afterBlock_body (inside b (by simp)), List.length_cons,
      List.replicate_succ, List.cons_append, ← ih fun c member => inside c (by simp [member])]
    exact withoutBlocks_cons (by simp)

theorem strip_blockLines {blocks : List Text} (inside : ∀ b ∈ blocks, ¬ ['*', '/'] <:+: b) (rest : Text) :
    strip (blockLines blocks ++ rest) = List.replicate blocks.length '\n' ++ strip rest := by
  have clean : '/' ∉ List.replicate blocks.length '\n' := by simp [List.mem_replicate]
  rw [strip, withoutBlocks_blockLines inside, withoutLines_append clean, strip]

theorem strip_append {front rest : Text} (unmarked : ¬ ['/', '/'] <:+: front ∧ ¬ ['/', '*'] <:+: front)
    (apart : front.getLast? ≠ some '/') : strip (front ++ rest) = front ++ strip rest := by
  rw [strip, withoutBlocks_append unmarked.2 fun last => absurd last apart,
    withoutLines_apart unmarked.1 fun last => absurd last apart, strip]

theorem withoutBlocks_slashes {s : Text} (apart : s.head? ≠ some '*') :
    withoutBlocks ('/' :: '/' :: s) = '/' :: '/' :: withoutBlocks s := by
  rw [withoutBlocks_cons (by simp), withoutBlocks_cons]
  intro tail same
  exact apart (by rw [(List.cons.inj same).2]; rfl)

theorem strip_remark {c : Text} (oneLine : '\n' ∉ c) (apart : c.head? ≠ some '*') (rest : Text)
    (closed : IsClosed c ∨ ¬ ['*', '/'] <:+: '\n' :: rest) :
    strip ('/' :: '/' :: (c ++ '\n' :: rest)) = '\n' :: strip rest := by
  have kept : '\n' ∉ withoutBlocks c := fun inside => oneLine ((withoutBlocks_sublist c).subset inside)
  have starts : (c ++ '\n' :: rest).head? ≠ some '*' := by
    cases c with
    | nil => simp
    | cons d c => simpa using apart
  have alone : ¬ Crosses c rest := not_crosses_iff.mpr <|
    closed.imp_right fun unclosed inside => unclosed ((closes_cons (by decide)).mpr inside)
  rw [strip, withoutBlocks_slashes starts, blocks_append (by decide) alone, withoutLines,
    withoutLines_feed, withoutLines_inside kept, List.nil_append, strip]

end Comment

namespace CommentedLine

structure IsProper (l : CommentedLine) : Prop where
  unmarked : ¬ ['/', '/'] <:+: l.plain ∧ ¬ ['/', '*'] <:+: l.plain
  ended : l.IsEnded
  remark : ∀ c ∈ l.remark, '\n' ∉ c
  blocks : ∀ b ∈ l.blocks, ¬ ['*', '/'] <:+: b

variable {l : CommentedLine}

theorem IsEnded.last (ended : l.IsEnded) : l.plain.getLast? ≠ some '/' := by
  have slash : isLineBreak '/' = false := by decide
  rcases ended with pair | ⟨c, isBreak, single⟩
  · simp [plain, pair]
  · rw [plain, single, List.getLast?_concat]
    rintro same
    rw [Option.some.inj same, slash] at isBreak
    exact absurd isBreak (by decide)

theorem IsEnded.solidLines_append (ended : l.IsEnded) (rest : Text) :
    solidLines (l.plain ++ rest) = solidLines l.line ++ solidLines rest := by
  rcases ended with pair | ⟨c, isBreak, single⟩
  · rw [plain, pair, List.append_assoc]
    show solidLines (l.line ++ '\r' :: '\n' :: rest) = _
    rw [solidLines_append_break (by decide), solidLines_blank (by decide)]
  · rw [plain, single, List.append_assoc]
    exact solidLines_append_break isBreak l.line rest

theorem IsProper.solidLines_text (proper : l.IsProper) {behind : Text} (apart : l.IsApart behind) :
    solidLines (Comment.strip (l.text ++ behind)) =
      solidLines l.line ++ solidLines (Comment.strip behind) := by
  have below : solidLines (Comment.strip (blockLines l.blocks ++ behind)) =
      solidLines (Comment.strip behind) := by
    rw [Comment.strip_blockLines proper.blocks]
    refine solidLines_blanks_append (fun c inside => ?_) _
    rw [(List.mem_replicate.mp inside).2]
    decide
  cases given : l.remark with
  | none =>
    have shape : l.text ++ behind = l.plain ++ (blockLines l.blocks ++ behind) := by
      simp [text, plain, given, remarkText]
    rw [shape, Comment.strip_append proper.unmarked proper.ended.last, proper.ended.solidLines_append,
      below]
  | some c =>
    obtain ⟨⟨slash, star⟩, ending, closed⟩ := apart c given
    have oneLine := proper.remark c given
    have unmarked : ¬ ['/', '/'] <:+: l.line ∧ ¬ ['/', '*'] <:+: l.line := by
      have within : l.line <:+: l.plain := (List.prefix_append _ _).isInfix
      exact ⟨fun inside => proper.unmarked.1 (inside.trans within),
        fun inside => proper.unmarked.2 (inside.trans within)⟩
    have shape : l.text ++ behind =
        l.line ++ '/' :: '/' :: (c ++ (l.ending ++ (blockLines l.blocks ++ behind))) := by
      simp [text, given, remarkText]
    have read : Comment.strip ('/' :: '/' :: (c ++ (l.ending ++ (blockLines l.blocks ++ behind)))) =
        '\n' :: Comment.strip (blockLines l.blocks ++ behind) := by
      rcases ending with feed | pair
      · rw [feed] at closed ⊢
        exact Comment.strip_remark oneLine star _ closed
      · -- the carriage return goes with the comment
        rw [pair] at closed ⊢
        have longer : '\n' ∉ c ++ ['\r'] := by simp [oneLine]
        have starts : (c ++ ['\r']).head? ≠ some '*' := by cases c <;> simp_all
        have whole := Comment.strip_remark longer starts (blockLines l.blocks ++ behind) <|
          closed.imp (Comment.isClosed_concat (by decide)).mpr fun unclosed inside =>
            unclosed (inside.trans (List.suffix_cons '\r' _).isInfix)
        rwa [List.append_assoc] at whole
    rw [shape, Comment.strip_append unmarked slash, read, solidLines_append_break (by decide), below]

end CommentedLine

namespace CommentedText

variable {t : CommentedText}

theorem solidLines_lines {ls : List CommentedLine} (ended : ∀ l ∈ ls, l.IsEnded) (rest : Text) :
    solidLines (ls.flatMap CommentedLine.plain ++ rest) =
      ls.flatMap (fun l => solidLines l.line) ++ solidLines rest := by
  induction ls with
  | nil => rfl
  | cons l ls ih =>
    rw [List.flatMap_cons, List.append_assoc, (ended l (by simp)).solidLines_append,
      ih fun m member => ended m (by simp [member]), List.flatMap_cons, List.append_assoc]

theorem solidLines_commented {ls : List CommentedLine} (proper : ∀ l ∈ ls, l.IsProper) {behind : Text}
    (apart : AreApart behind ls) :
    solidLines (Comment.strip (ls.flatMap CommentedLine.text ++ behind)) =
      ls.flatMap (fun l => solidLines l.line) ++ solidLines (Comment.strip behind) := by
  induction ls with
  | nil => rfl
  | cons l ls ih =>
    obtain ⟨first, later⟩ := apart
    rw [List.flatMap_cons, List.append_assoc, (proper l (by simp)).solidLines_text first,
      ih (fun m member => proper m (by simp [member])) later, List.flatMap_cons, List.append_assoc]

theorem IsAnnotated.isProper (annotated : t.IsAnnotated) : ∀ l ∈ t.lines, l.IsProper := by
  intro l member
  have within : l.plain <:+: t.plain := by
    obtain ⟨front, back, split⟩ := List.append_of_mem member
    exact ⟨front.flatMap CommentedLine.plain, back.flatMap CommentedLine.plain ++ t.last, by
      simp [plain, split]⟩
  refine ⟨⟨fun inside => annotated.unmarked _ (by simp) (inside.trans within),
    fun inside => annotated.unmarked _ (by simp) (inside.trans within)⟩,
    (annotated.lines l member).2, fun c given => ?_, fun b inside => annotated.blocks b ?_⟩
  · exact (annotated.remarks _ (List.mem_cons_of_mem _ (List.mem_map_of_mem member)) c given).no_feed
  · exact List.mem_append_right _ (List.mem_flatMap.mpr ⟨l, member, inside⟩)

theorem IsAnnotated.strip_last (annotated : t.IsAnnotated) (apart : t.IsApart) :
    Comment.strip (t.last ++ remarkText t.remark) = t.last := by
  have within : t.last <:+: t.plain := (List.suffix_append _ _).isInfix
  have unmarked : ¬ ['/', '/'] <:+: t.last ∧ ¬ ['/', '*'] <:+: t.last :=
    ⟨fun inside => annotated.unmarked _ (by simp) (inside.trans within),
      fun inside => annotated.unmarked _ (by simp) (inside.trans within)⟩
  cases given : t.remark with
  | none =>
    rw [remarkText, Option.elim_none, List.append_nil, Comment.strip,
      Comment.withoutBlocks_unmarked unmarked.2, Comment.withoutLines_unmarked unmarked.1]
  | some c =>
    obtain ⟨slash, star⟩ := apart.last c given
    have oneLine : '\n' ∉ c := (annotated.remarks t.remark (by simp) c given).no_feed
    have kept : '\n' ∉ Comment.withoutBlocks c := fun inside =>
      oneLine ((Comment.withoutBlocks_sublist c).subset inside)
    have gone : Comment.strip ('/' :: '/' :: c) = [] := by
      rw [Comment.strip, Comment.withoutBlocks_slashes star, Comment.withoutLines,
        Comment.withoutLines_inside kept]
    rw [remarkText, Option.elim_some, Comment.strip_append unmarked slash, gone, List.append_nil]

theorem IsAnnotated.solidLines_eq (annotated : t.IsAnnotated) (apart : t.IsApart) :
    solidLines (Comment.strip t.text) = solidLines (Comment.strip t.plain) := by
  have whole : Comment.strip t.plain = t.plain := by
    rw [Comment.strip, Comment.withoutBlocks_unmarked (annotated.unmarked _ (by simp)),
      Comment.withoutLines_unmarked (annotated.unmarked _ (by simp))]
  have above : ∀ b ∈ t.top, ¬ ['*', '/'] <:+: b := fun b member =>
    annotated.blocks b (List.mem_append_left _ member)
  rw [whole, plain, solidLines_lines fun l member => (annotated.lines l member).2, text,
    Comment.strip_blockLines above, solidLines_blanks_append,
    solidLines_commented annotated.isProper apart.lines, annotated.strip_last apart]
  intro c inside
  rw [(List.mem_replicate.mp inside).2]
  decide

/-- Comments that do not reach beyond themselves make no difference to what is read from a text. -/
theorem comments_transparent (annotated : t.IsAnnotated) (apart : t.IsApart) :
    Model.all t.text = Model.all t.plain ∧ Diagram.ofSchema t.text = Diagram.ofSchema t.plain := by
  have same := Model.all_of_solidLines (annotated.solidLines_eq apart)
  exact ⟨same, Diagram.ofSchema_of_models same⟩

def guestbook : CommentedText where
  top := [" Guests // and\n their notes"]
  lines :=
    [ { line := "model Guest \x7b", ending := "\n", remark := some " /* who */" },
      { line := "  notes Note[]", ending := "\r\n", remark := some " */ // many", blocks := ["*", "/"] },
      { line := "\x7d", ending := "\x0b" },
      { line := "model Note \x7b", ending := "\n" },
      { line := "  text String", ending := "\n", remark := some " open /*" } ]
  last := "\x7d"
  remark := some "/* end"

theorem guestbook_transparent : guestbook.IsAnnotated ∧ guestbook.IsApart ∧
    Model.all guestbook.text = Model.all guestbook.plain ∧
    (Model.all guestbook.plain).map Model.name = ["Guest", "Note"] := by
  have annotated : guestbook.IsAnnotated :=
    ⟨by decide +kernel, by decide, by decide, by decide, by decide⟩
  have closed : Comment.IsClosed (' ' :: '/' :: '*' :: ([' ', 'w', 'h', 'o', ' '] ++ ['*', '/'])) :=
    .plain (by simp) (.block (by decide) .nil)
  have unopened : Comment.IsClosed " */ // many" := Comment.isClosed_of_unmarked (by decide)
  have apart : guestbook.IsApart := by
    refine ⟨⟨?_, ?_, ?_, ?_, ?_, trivial⟩, ?_⟩
    · rintro _ ⟨⟩
      exact ⟨by decide, .inl rfl, .inl closed⟩
    · rintro _ ⟨⟩
      exact ⟨by decide, .inr rfl, .inl unopened⟩
    · rintro _ ⟨⟩
    · rintro _ ⟨⟩
    · rintro _ ⟨⟩
      exact ⟨by decide, .inl rfl, .inr (by decide)⟩
    · rintro _ ⟨⟩
      decide
  exact ⟨annotated, apart, (comments_transparent annotated apart).1, by decide +kernel⟩

/-- A line comment that opens a block comment which is closed on a later line, one on a line that ends
in a carriage return alone, and one behind a slash. -/
def overreaching : List CommentedText :=
  [ { lines :=
        [ { line := "model A \x7b", ending := "\n", remark := some " /*" },
          { line := "\x7d", ending := "\n", blocks := [" b "] },
          { line := "model B \x7b", ending := "\n" }, { line := "\x7d", ending := "\n" } ] },
    { lines :=
        [ { line := "model A \x7b", ending := "\r", remark := some " c" },
          { line := "\x7d", ending := "\n" }, { line := "model B \x7b", ending := "\n" },
          { line := "\x7d", ending := "\n" } ] },
    { lines :=
        [ { line := "model A \x7b", ending := "\n" },
          { line := "  x String @unique/", ending := "\n", remark := some " c" },
          { line := "\x7d", ending := "\n" } ] } ]

theorem overreaching_heard : overreaching.Forall fun t =>
    t.IsAnnotated ∧ Model.all t.text ≠ Model.all t.plain := by
  refine ⟨⟨⟨?_, ?_, ?_, ?_, ?_⟩, ?_⟩, ⟨⟨?_, ?_, ?_, ?_, ?_⟩, ?_⟩, ⟨?_, ?_, ?_, ?_, ?_⟩, ?_⟩ <;> decide +kernel

end CommentedText
end DiagramSchema
