import DiagramSchema.Proofs.LineIsolation

/-! Blocks with lines of free text. A line that holds line breaks is read as several, its pieces, and
a block is read by itself if no block comment goes over its end. The pieces of a block stay within it
unless one of them closes the block and a later one opens another. -/
namespace DiagramSchema
open Text

namespace Text

theorem lines_append_feed (front rest : Text) :
    lines (front ++ '\n' :: rest) = lines (front ++ ['\n']) ++ lines rest := by
  obtain ⟨first, more, divided⟩ := lines_feed front
  rw [divided, divided]
  simp [lines]

theorem lines_unlines_flatMap (ls : List Text) :
    lines (unlines ls) = ls.flatMap fun line => lines (line ++ ['\n']) := by
  induction ls with
  | nil => rfl
  | cons line rest ih => rw [unlines_cons, lines_append_feed, ih, List.flatMap_cons]

end Text

namespace Comment

/-- Every block comment begins and ends within one of the lines. -/
def IsWithinLines (ls : List Text) : Prop :=
  withoutBlocks (unlines ls) = unlines (ls.map withoutBlocks)

instance (ls : List Text) : Decidable (IsWithinLines ls) :=
  inferInstanceAs (Decidable (_ = _))

theorem IsWithinLines.strip_unlines {ls : List Text} (within : IsWithinLines ls) :
    strip (unlines ls) = unlines (ls.map strip) := by
  have kept := withoutLines_unlines (ls.map withoutBlocks) []
  rw [List.append_nil, List.map_map] at kept
  rw [strip, within, kept, withoutLines, List.append_nil]
  rfl

theorem strip_unmarked {s : Text} (unmarked : '/' ∉ s) : strip s = s := by
  have noLineMark : ¬ ['/', '/'] <:+: s := fun inside => unmarked (inside.subset (by simp))
  have noBlockMark : ¬ ['/', '*'] <:+: s := fun inside => unmarked (inside.subset (by simp))
  rw [strip, withoutBlocks_unmarked noBlockMark, withoutLines_unmarked noLineMark]

theorem strip_sublist (s : Text) : (strip s).Sublist s :=
  (withoutLines_sublist false _).trans (withoutBlocks_sublist s)

end Comment

namespace SourceBlock

/-- The trimmed lines that a part of schema text is read as, with the line feed behind it. -/
def pieces (line : Text) : List Text := (lines (Comment.strip line ++ ['\n'])).map trim

theorem pieces_unlines {ls : List Text} (within : Comment.IsWithinLines ls) :
    (lines (Comment.strip (unlines ls))).map trim = ls.flatMap pieces := by
  rw [within.strip_unlines, lines_unlines_flatMap, List.flatMap_map, List.map_flatMap]
  rfl

theorem pieces_whole {line : Text} (oneLine : IsOneLine line) (unmarked : '/' ∉ line) :
    pieces line = [trim line] := by
  rw [pieces, Comment.strip_unmarked unmarked, lines_cons_feed oneLine]
  rfl

def StaysWithin (ls : List Text) : Prop :=
  ls.Pairwise fun earlier later => earlier = ['\x7d'] → header? later = none

instance (ls : List Text) : Decidable (StaysWithin ls) :=
  inferInstanceAs (Decidable (List.Pairwise _ ls))

theorem scan_within {ls : List Text} (within : StaysWithin ls) (name : Text) (body rest : List Text) :
    ∃ read, scan (some (name, body)) (ls ++ ['\x7d'] :: rest) = ⟨name, read, true⟩ :: scan none rest := by
  induction ls generalizing body with
  | nil => exact ⟨body, by simp [scan]⟩
  | cons line ls ih =>
    obtain ⟨behind, later⟩ := List.pairwise_cons.mp within
    by_cases closes : line = ['\x7d']
    · have close : header? ['\x7d'] = none := rfl
      refine ⟨body, ?_⟩
      rw [List.cons_append, scan, if_pos closes, scan_skip fun next member => behind next member closes,
        scan, close]
    · rw [List.cons_append, scan, if_neg closes]
      exact ih later _

theorem opener_clean {name : Text} (isName : (trim name).IsName) : '/' ∉ Block.opener name := by
  have solid : isBlank '/' = false := by decide
  have word : '/' ∉ opening := by decide
  obtain ⟨front, back, split, before, behind⟩ := trim_between name
  have apart {padding : Text} (blank : ∀ c ∈ padding, isBlank c = true) : '/' ∉ padding := fun inside =>
    absurd (blank _ inside) (by simp [solid])
  rw [Block.opener, split]
  simp [word, apart before, apart behind, isName.lacks (show isWord '/' = false by decide)]

theorem pieces_opener {name : Text} (oneLine : IsOneLine name) (isName : (trim name).IsName) :
    pieces (Block.opener name) = [Block.opener name] := by
  have word : ∀ c ∈ opening, isLineBreak c = false := by decide
  have one : IsOneLine (Block.opener name) := by
    intro c inside
    simp only [Block.opener, List.mem_append, List.mem_cons, List.not_mem_nil, or_false] at inside
    rcases inside with letter | rfl | letter | rfl | rfl
    · exact word c letter
    · decide
    · exact oneLine c letter
    · decide
    · decide
  rw [pieces_whole one (opener_clean isName), trim_opener]

theorem scan_opener {name : Text} (isName : (trim name).IsName) (rest : List Text) :
    scan none ([] :: Block.opener name :: rest) = scan (some (trim name, [])) rest := by
  have blank : header? [] = none := rfl
  rw [scan, blank, scan, header_padded isName]
  dsimp only
  rw [if_neg (by simp), List.isEmpty_nil, if_pos rfl]

theorem lines_strip_feed {s rest : Text} (apart : ¬ Comment.Crosses s rest) (back : Text) :
    (lines (Comment.strip (s ++ '\n' :: rest) ++ back)).map trim =
      pieces s ++ (lines (Comment.strip rest ++ back)).map trim := by
  rw [Comment.strip_append_feed apart, List.append_assoc, List.cons_append, lines_append_feed,
    List.map_append, pieces]

theorem pieces_text {b : Block} (oneLine : IsOneLine b.name) (isName : (trim b.name).IsName) :
    pieces b.text = Block.opener b.name :: (pieces (List.intercalate ['\n'] b.lines) ++ [['\x7d']]) := by
  have begins {rest : Text} : ¬ Comment.Crosses (Block.opener b.name) rest := fun crosses =>
    crosses.1 (Comment.isClosed_of_unmarked fun inside => opener_clean isName (inside.subset (by simp)))
  have ends : ¬ Comment.Crosses (List.intercalate ['\n'] b.lines) ['\x7d'] := fun crosses =>
    absurd crosses.2 (by decide)
  have close : (lines (Comment.strip ['\x7d'] ++ ['\n'])).map trim = [['\x7d']] := by decide
  rw [pieces, b.text_opener, lines_strip_feed begins, lines_strip_feed ends,
    pieces_opener oneLine isName, close]
  rfl

theorem crosses_sources {s : Text} {blocks : List Block} (nonempty : ∀ b ∈ blocks, b.lines ≠ [])
    (crosses : Comment.Crosses s (unlines (blocks.flatMap Block.source))) :
    ∃ b ∈ blocks, Comment.Crosses s b.text := by
  obtain ⟨opened, closes⟩ := crosses
  induction blocks with
  | nil => exact absurd closes (by decide)
  | cons b rest ih =>
    rw [Block.unlines_sources (nonempty b (by simp)), Comment.closes_cons (by decide)] at closes
    rcases infix_append_cons (by simp) (by decide) closes with here | later
    · exact ⟨b, by simp, opened, here⟩
    · obtain ⟨c, member, found⟩ := ih (fun other known => nonempty other (by simp [known])) later
      exact ⟨c, by simp [member], found⟩

/-- Blocks that no block comment goes over the end of are read one by one. -/
theorem lines_blocks {blocks : List Block} (nonempty : ∀ b ∈ blocks, b.lines ≠ [])
    (apart : blocks.Pairwise fun b c => ¬ Comment.Crosses b.text c.text) :
    (lines (Comment.strip (unlines (blocks.flatMap Block.source)))).map trim =
      blocks.flatMap fun b => [] :: pieces b.text := by
  induction blocks with
  | nil => rfl
  | cons b rest ih =>
    obtain ⟨first, later⟩ := List.pairwise_cons.mp apart
    have others : ∀ c ∈ rest, c.lines ≠ [] := fun c member => nonempty c (by simp [member])
    have ends : ¬ Comment.Crosses b.text (unlines (rest.flatMap Block.source)) := by
      intro crosses
      obtain ⟨c, member, found⟩ := crosses_sources others crosses
      exact first c member found
    have begins : ¬ Comment.Crosses [] (b.text ++ '\n' :: unlines (rest.flatMap Block.source)) :=
      fun crosses => crosses.1 .nil
    have feed := lines_strip_feed begins []
    have next := lines_strip_feed ends []
    simp only [List.append_nil, List.nil_append] at feed next
    rw [Block.unlines_sources (nonempty b (by simp)), feed, next, ih others later, List.flatMap_cons]
    rfl

theorem scan_text {b : Block} (oneLine : IsOneLine b.name) (isName : (trim b.name).IsName)
    (within : StaysWithin (pieces b.text)) (rest : List Text) :
    ∃ read, scan none ([] :: pieces b.text ++ rest) = ⟨trim b.name, read, true⟩ :: scan none rest := by
  rw [pieces_text oneLine isName] at within ⊢
  have body : StaysWithin (pieces (List.intercalate ['\n'] b.lines)) :=
    List.Pairwise.sublist (List.sublist_append_left _ _) (List.pairwise_cons.mp within).2
  obtain ⟨read, found⟩ := scan_within body (trim b.name) [] rest
  refine ⟨read, ?_⟩
  rw [← found, ← scan_opener isName]
  simp

theorem scan_names {blocks : List Block}
    (named : ∀ b ∈ blocks, IsOneLine b.name ∧ (trim b.name).IsName)
    (within : ∀ b ∈ blocks, StaysWithin (pieces b.text)) :
    (scan none (blocks.flatMap fun b => [] :: pieces b.text)).map SourceBlock.name =
      blocks.map fun b => trim b.name := by
  induction blocks with
  | nil => rfl
  | cons b rest ih =>
    obtain ⟨oneLine, isName⟩ := named b (by simp)
    obtain ⟨read, found⟩ := scan_text oneLine isName (within b (by simp))
      (rest.flatMap fun b => [] :: pieces b.text)
    rw [List.flatMap_cons, found, List.map_cons, List.map_cons,
      ih (fun other member => named other (by simp [member]))
        fun other member => within other (by simp [member])]

theorem scan_source_pieces {b : Block} (oneLine : IsOneLine b.name) (isName : (trim b.name).IsName)
    (rest : List Text) : scan none (b.source.flatMap pieces ++ rest) =
      scan (some (trim b.name, [])) (b.lines.flatMap pieces ++ ['\x7d'] :: rest) := by
  have empty : pieces [] = [[]] := rfl
  have close : pieces ['\x7d'] = [['\x7d']] := by decide
  rw [← scan_opener isName, Block.source, List.flatMap_cons, List.flatMap_cons, List.flatMap_append,
    empty, pieces_opener oneLine isName, List.flatMap_cons, close]
  simp

theorem scan_pieces {blocks : List Block} (isName : ∀ b ∈ blocks, b.name.IsName)
    (inside : ∀ b ∈ blocks, ∀ line ∈ b.lines, ['\x7d'] ∉ pieces line) :
    scan none ((blocks.flatMap Block.source).flatMap pieces) =
      blocks.map fun b => ⟨b.name, b.lines.flatMap pieces, true⟩ := by
  induction blocks with
  | nil => rfl
  | cons b rest ih =>
    have own : b.name.IsName := isName b (by simp)
    have whole : trim b.name = b.name := trim_solid own.solid
    have openStill : ∀ piece ∈ b.lines.flatMap pieces, piece ≠ ['\x7d'] := by
      intro piece member
      obtain ⟨line, known, within⟩ := List.mem_flatMap.mp member
      rintro rfl
      exact inside b (by simp) line known within
    rw [List.flatMap_cons, List.flatMap_append,
      scan_source_pieces (Line.isName_oneLine own) (by rwa [whole]), whole, scan_body openStill,
      ih (fun other member => isName other (by simp [member]))
        fun other member => inside other (by simp [member])]
    rfl

end SourceBlock
end DiagramSchema
