import DiagramSchema.Proofs.Distinct
import DiagramSchema.Proofs.FieldLine
import DiagramSchema.Schema.Emission

/-! The blocks of schema text, scanned back. The text is laid out line by line, and as long as no
line of a block opens a block comment or closes the block, each block is found with its lines. -/
namespace DiagramSchema
open Text

namespace Block

def opener (name : Text) : Text := SourceBlock.opening ++ ' ' :: (name ++ [' ', '\x7b'])

def source (b : Block) : List Text := [] :: opener b.name :: (b.lines ++ [['\x7d']])

theorem intercalate_feed {ls : List Text} (nonempty : ls ≠ []) :
    List.intercalate ['\n'] ls ++ ['\n'] = unlines ls := by
  induction ls with
  | nil => exact absurd rfl nonempty
  | cons line rest ih =>
    cases rest with
    | nil => simp [unlines]
    | cons next more =>
      rw [List.intercalate_cons_cons, unlines_cons, ← ih (by simp)]
      simp

theorem text_opener (b : Block) :
    b.text = opener b.name ++ '\n' :: (List.intercalate ['\n'] b.lines ++ '\n' :: ['\x7d']) := by
  show (SourceBlock.opening ++ [' ']) ++ b.name ++ [' ', '\x7b', '\n']
    ++ List.intercalate ['\n'] b.lines ++ ['\n', '\x7d'] = _
  simp only [opener, List.append_assoc, List.cons_append, List.nil_append]

theorem unlines_source {b : Block} (nonempty : b.lines ≠ []) :
    unlines b.source = '\n' :: (b.text ++ ['\n']) := by
  have shape : b.text ++ ['\n'] =
      opener b.name ++ '\n' :: ((List.intercalate ['\n'] b.lines ++ ['\n']) ++ ['\x7d', '\n']) := by
    rw [text_opener]
    simp only [List.append_assoc, List.cons_append, List.nil_append]
  rw [shape, intercalate_feed nonempty, source, unlines_cons, unlines_cons, unlines_append]
  rfl

theorem unlines_sources {b : Block} (nonempty : b.lines ≠ []) (rest : List Block) :
    unlines ((b :: rest).flatMap source) = '\n' :: (b.text ++ '\n' :: unlines (rest.flatMap source)) := by
  rw [List.flatMap_cons, unlines_append, unlines_source nonempty]
  simp

end Block

namespace Diagram

theorem block_nonempty (d : Diagram) : ∀ b ∈ d.blocks, b.lines ≠ [] := by
  intro b member
  obtain ⟨e, _, rfl⟩ := List.mem_map.mp member
  simp [block, List.eraseDups_cons]

/-- Schema text behind the header, line by line. -/
def sourceLines (d : Diagram) : List Text := d.blocks.flatMap Block.source

theorem schema_lines (d : Diagram) (s : Settings) :
    d.schema s = s.header ++ unlines d.sourceLines := by
  have nonempty := d.block_nonempty
  unfold schema sourceLines
  generalize d.blocks = blocks at nonempty
  generalize s.header = front
  induction blocks generalizing front with
  | nil => simp [unlines]
  | cons b rest ih =>
    have later := ih (fun other member => nonempty other (by simp [member])) (b.text ++ ['\n'])
    rw [List.map_cons, Block.unlines_sources (nonempty b (by simp)), List.intercalate_cons_cons]
    show front ++ ['\n'] ++ List.intercalate "\n".toList ((b.text ++ ['\n']) :: _) = _
    rw [later]
    simp

end Diagram

namespace SourceBlock

theorem scan_skip {ls : List Text} (other : ∀ line ∈ ls, header? line = none) (rest : List Text) :
    scan none (ls ++ rest) = scan none rest := by
  induction ls with
  | nil => rfl
  | cons line ls ih =>
    rw [List.cons_append, scan, other line (by simp)]
    exact ih fun next member => other next (by simp [member])

theorem scan_body {name : Text} {ls : List Text} (inside : ∀ line ∈ ls, line ≠ ['\x7d'])
    (body : List Text) (rest : List Text) :
    scan (some (name, body)) (ls ++ ['\x7d'] :: rest) =
      ⟨name, body ++ ls, true⟩ :: scan none rest := by
  induction ls generalizing body with
  | nil => simp [scan]
  | cons line ls ih =>
    rw [List.cons_append, scan, if_neg (inside line (by simp)),
      ih fun next member => inside next (by simp [member])]
    simp

theorem scan_open (rest : List Text) : ∃ more closed others, ∀ name body,
    scan (some (name, body)) rest = ⟨name, body ++ more, closed⟩ :: others := by
  induction rest with
  | nil => exact ⟨[], false, [], fun name body => by simp [scan]⟩
  | cons line rest ih =>
    by_cases closes : line = ['\x7d']
    · exact ⟨[], true, scan none rest, fun name body => by simp [scan, closes]⟩
    · obtain ⟨more, closed, others, shape⟩ := ih
      exact ⟨line :: more, closed, others, fun name body => by simp [scan, closes, shape]⟩

theorem header_parts {gap name space rest : Text} (apart : gap ≠ [])
    (blank : ∀ c ∈ gap, isBlank c = true) (isName : name.IsName)
    (spaced : ∀ c ∈ space, isBlank c = true) :
    header? (opening ++ (gap ++ (name ++ (space ++ '\x7b' :: rest)))) = some (name, trim rest) := by
  have stop : ∀ c ∈ (space ++ '\x7b' :: rest).head?, isWord c = false := by
    intro c first
    cases space with
    | nil =>
      obtain rfl := Option.some.inj first
      decide
    | cons d space =>
      obtain rfl := Option.some.inj first
      exact isWord_of_isBlank (spaced d (by simp))
  have word : opening.isPrefixOf? (opening ++ (gap ++ (name ++ (space ++ '\x7b' :: rest)))) =
      some (gap ++ (name ++ (space ++ '\x7b' :: rest))) :=
    List.isPrefixOf?_eq_some_iff_append_eq.mpr rfl
  have nonempty : name.isEmpty = false := by simp [isName.1]
  have brace : (space ++ '\x7b' :: rest).dropWhile isBlank = '\x7b' :: rest := by
    rw [List.dropWhile_append_of_pos spaced]
    rfl
  have shorter : ((name ++ (space ++ '\x7b' :: rest)).length ==
      (gap ++ (name ++ (space ++ '\x7b' :: rest))).length) = false := by
    have positive := List.length_pos_iff.mpr apart
    rw [beq_eq_false_iff_ne]
    simp only [List.length_append]
    omega
  rw [header?, word, Option.bind_some]
  simp only [Field.dropWhile_gap blank isName, Field.takeWhile_name isName stop,
    Field.dropWhile_name isName stop, nonempty, brace, shorter]
  rfl

theorem header_padded {name : Text} (isName : (trim name).IsName) :
    header? (Block.opener name) = some (trim name, []) := by
  obtain ⟨front, back, split, before, behind⟩ := trim_between name
  have leading : ∀ c ∈ ' ' :: front, isBlank c = true :=
    List.forall_mem_cons.mpr ⟨by decide, before⟩
  have trailing : ∀ c ∈ back ++ [' '], isBlank c = true :=
    List.forall_mem_append.mpr ⟨behind, by decide⟩
  have shape : Block.opener name =
      opening ++ ((' ' :: front) ++ (trim name ++ ((back ++ [' ']) ++ ['\x7b']))) := by
    conv => lhs; rw [split]
    simp [Block.opener]
  rw [shape]
  exact header_parts (by simp) leading isName trailing

theorem header_opener {name : Text} (isName : name.IsName) :
    header? (Block.opener name) = some (name, []) := by
  have whole : trim name = name := trim_solid isName.solid
  have padded : (trim name).IsName := by rwa [whole]
  have found := header_padded padded
  rwa [whole] at found

theorem parts_of_header {line name inline : Text} (opened : header? line = some (name, inline)) :
    ∃ gap space rest, line = opening ++ (gap ++ (name ++ (space ++ '\x7b' :: rest))) ∧
      (gap ≠ [] ∧ ∀ c ∈ gap, isBlank c = true) ∧ name.IsName ∧ ∀ c ∈ space, isBlank c = true := by
  unfold header? at opened
  obtain ⟨afterWord, start, parts⟩ := Option.bind_eq_some_iff.mp opened
  dsimp only at parts
  split at parts
  · exact absurd parts (by simp)
  · rename_i named
    simp only [Bool.or_eq_true, not_or, List.isEmpty_iff] at named
    split at parts
    · rename_i rest brace
      obtain ⟨rfl, _⟩ := Prod.mk.inj (Option.some.inj parts)
      refine ⟨afterWord.takeWhile isBlank,
        ((afterWord.dropWhile isBlank).dropWhile isWord).takeWhile isBlank, rest, ?_, ⟨?_, ?_⟩,
        ⟨named.1, ?_⟩, ?_⟩
      · rw [← brace, List.takeWhile_append_dropWhile, List.takeWhile_append_dropWhile,
          List.takeWhile_append_dropWhile]
        exact (List.isPrefixOf?_eq_some_iff_append_eq.mp start).symm
      · intro none
        have whole := List.takeWhile_append_dropWhile (p := isBlank) (l := afterWord)
        rw [none, List.nil_append] at whole
        exact named.2 (by simp [whole])
      · exact fun c inside => List.mem_takeWhile_imp inside
      · exact fun c inside => List.mem_takeWhile_imp inside
      · exact fun c inside => List.mem_takeWhile_imp inside
    · exact absurd parts (by simp)

theorem header_of_field {line : Text} {f : Field} (reads : Field.read? line = some f)
    (plain : f.decorators.head? ≠ some '\x7b') : header? line = none := by
  cases opened : header? line with
  | none => rfl
  | some found =>
    obtain ⟨gap, space, rest, rfl, ⟨apart, blank⟩, named, spaced⟩ := parts_of_header opened
    have isName : opening.IsName := ⟨by decide, by decide⟩
    have behindWord : ∀ c ∈ (gap ++ (found.1 ++ (space ++ '\x7b' :: rest))).head?,
        isWord c = false := by
      obtain ⟨d, gap, rfl⟩ := List.exists_cons_of_ne_nil apart
      intro c first
      obtain rfl := Option.some.inj first
      exact isWord_of_isBlank (blank d (by simp))
    unfold Field.read? at reads
    rw [Field.takeWhile_name isName behindWord, Field.dropWhile_name isName behindWord] at reads
    dsimp only at reads
    rw [Field.dropWhile_gap blank named] at reads
    -- the decorators would be what stands behind the name of the model, and so begin with the brace
    cases space with
    | nil =>
      have solid : isBlank '\x7b' = false := by decide
      have none : Field.readDecorators? ('\x7b' :: rest) = none := by
        simp [Field.readDecorators?, solid]
      rw [List.nil_append, Field.dropWhile_name named (by simp; decide),
        Field.readMarks_unmarked rest ⟨by decide, by decide⟩] at reads
      simp [none] at reads
    | cons c space =>
      have first : isBlank c = true := spaced c (by simp)
      have plainMark : c ≠ '[' ∧ c ≠ '?' := by
        constructor
        · rintro rfl
          exact absurd first (by decide)
        · rintro rfl
          exact absurd first (by decide)
      have begins : trimStart (space ++ '\x7b' :: rest) = '\x7b' :: rest :=
        dropWhile_run (fun d inside => spaced d (by simp [inside])) (by simp; decide)
      rw [List.cons_append, Field.dropWhile_name named (by simp [isWord_of_isBlank first]),
        Field.readMarks_unmarked _ plainMark] at reads
      split at reads
      · exact absurd reads (by simp)
      · obtain ⟨decorators, found, rfl⟩ := Option.map_eq_some_iff.mp reads
        exact absurd (Field.head_readDecorators first begins (by decide) found) plain

theorem read_skipped {line : Text} (skipped : isSkipped line = true) : Field.read? line = none := by
  have nameless : line.takeWhile isWord = [] := by
    simp only [isSkipped, Bool.or_eq_true, List.isEmpty_iff, List.isPrefixOf_iff_prefix] at skipped
    rcases skipped with (rfl | ⟨rest, rfl⟩) | ⟨rest, rfl⟩
    · rfl
    · rfl
    · rfl
  simp [Field.read?, nameless]

theorem fields_body (name : Text) (body : List Text) (closed : Bool) :
    fields ⟨name, body, closed⟩ = body.filterMap fun line => Field.read? (trim line) := by
  rw [fields, candidates, List.filterMap_filter, List.filterMap_map]
  refine List.filterMap_congr fun line _ => ?_
  cases skipped : isSkipped (trim line) with
  | true => simp [skipped, read_skipped skipped]
  | false => simp [skipped]

/-- The trimmed line that remains of a line in a block. -/
def bare (line : Text) : Text := trim (Comment.withoutLines false line)

theorem read_bare (line : Text) : Field.read? (trim (bare line)) = Field.ofLine? line := by
  rw [bare, trim_trim, Field.ofLine?]

theorem fields_bare (name : Text) (lines : List Text) (closed : Bool) :
    fields ⟨name, lines.map bare, closed⟩ = lines.filterMap Field.ofLine? := by
  rw [fields_body, List.filterMap_map]
  refine List.filterMap_congr fun line _ => ?_
  rw [Function.comp_apply, read_bare]

structure IsInner (line : Text) : Prop where
  oneLine : IsOneLine line
  unmarked : ¬ ['/', '*'] <:+: line
  closesNot : bare line ≠ ['\x7d']

theorem trim_opener (name : Text) : trim (Block.opener name) = Block.opener name := by
  have ends : Block.opener name =
      'm' :: ((['o', 'd', 'e', 'l', ' '] ++ (name ++ [' '])) ++ ['\x7b']) := by
    rw [List.append_assoc, List.append_assoc]
    rfl
  rw [ends, trim_ends (by decide) (by decide)]

theorem bare_opener {name : Text} (isName : name.IsName) :
    bare (Block.opener name) = Block.opener name := by
  have clean : '/' ∉ Block.opener name := by
    have other : isWord '/' = false := by decide
    have front : '/' ∉ opening := by decide
    simp [Block.opener, front, isName.lacks other]
  rw [bare, Comment.withoutLines_unmarked fun inside => clean (inside.subset (by simp)), trim_opener]

theorem scan_source {b : Block} (isName : b.name.IsName) (inner : ∀ line ∈ b.lines, IsInner line)
    (rest : List Text) :
    scan none (b.source.map bare ++ rest) = ⟨b.name, b.lines.map bare, true⟩ :: scan none rest := by
  have shape : b.source.map bare ++ rest =
      [] :: Block.opener b.name :: (b.lines.map bare ++ ['\x7d'] :: rest) := by
    have close : bare ['\x7d'] = ['\x7d'] := by decide
    have empty : bare [] = [] := rfl
    simp only [Block.source, List.map_cons, List.map_append, List.map_nil, bare_opener isName,
      close, empty, List.cons_append, List.append_assoc, List.nil_append]
  have inside : ∀ line ∈ b.lines.map bare, line ≠ ['\x7d'] := by
    intro line member
    obtain ⟨source, known, rfl⟩ := List.mem_map.mp member
    exact (inner source known).closesNot
  have empty : header? [] = none := rfl
  rw [shape, scan, empty, scan, header_opener isName]
  exact scan_body inside [] rest

theorem scan_sources {blocks : List Block} (isName : ∀ b ∈ blocks, b.name.IsName)
    (inner : ∀ b ∈ blocks, ∀ line ∈ b.lines, IsInner line) :
    scan none ((blocks.flatMap Block.source).map bare) =
      blocks.map fun b => ⟨b.name, b.lines.map bare, true⟩ := by
  induction blocks with
  | nil => rfl
  | cons b rest ih =>
    rw [List.flatMap_cons, List.map_append, scan_source (isName b (by simp)) (inner b (by simp)),
      ih (fun other member => isName other (by simp [member]))
        (fun other member => inner other (by simp [member]))]
    rfl

def headerLines : List Text :=
  [ "generator client \x7b".toList, "  provider = \"prisma-client-js\"".toList, ['\x7d'], [],
    "datasource db \x7b".toList, "  provider = \"mongodb\"".toList,
    "  url      = env(\"DATABASE_URL\")".toList, ['\x7d'] ]

theorem header_lines : ({} : Settings).header = unlines headerLines := by decide

theorem headerLines_inert : ∀ line ∈ headerLines,
    IsOneLine line ∧ ¬ ['/', '*'] <:+: line ∧ header? (bare line) = none := by
  have checked : ∀ line ∈ headerLines,
      (∀ c ∈ line, isLineBreak c = false) ∧ '*' ∉ line ∧ header? (bare line) = none := by decide
  intro line member
  obtain ⟨oneLine, unmarked, other⟩ := checked line member
  exact ⟨oneLine, fun inside => unmarked (inside.subset (by simp)), other⟩

theorem opener_inert {name : Text} (isName : name.IsName) :
    IsOneLine (Block.opener name) ∧ ¬ ['/', '*'] <:+: Block.opener name := by
  have other : isWord '*' = false := by decide
  have front : (∀ c ∈ opening, isLineBreak c = false) ∧ '*' ∉ opening := by decide
  constructor
  · intro c inside
    simp only [Block.opener, List.mem_append, List.mem_cons, List.not_mem_nil, or_false] at inside
    rcases inside with word | rfl | letter | rfl | rfl
    · exact front.1 c word
    · decide
    · exact Line.isName_oneLine isName c letter
    · decide
    · decide
  · intro inside
    have star : '*' ∈ Block.opener name := inside.subset (by simp)
    simp [Block.opener, front.2, isName.lacks other] at star

theorem source_cases {b : Block} (isName : b.name.IsName) {line : Text} (member : line ∈ b.source) :
    line ∈ b.lines ∨ IsOneLine line ∧ ¬ ['/', '*'] <:+: line := by
  simp only [Block.source, List.mem_cons, List.mem_append, List.not_mem_nil, or_false] at member
  rcases member with rfl | rfl | body | rfl
  · exact Or.inr ⟨by simp [IsOneLine], by simp⟩
  · exact Or.inr (opener_inert isName)
  · exact Or.inl body
  · have close : ∀ c ∈ (['\x7d'] : Text), isLineBreak c = false := by decide
    exact Or.inr
      ⟨close, fun inside => absurd (inside.subset (by simp) : '*' ∈ ['\x7d']) (by decide)⟩

theorem source_inert {b : Block} (isName : b.name.IsName) (inner : ∀ line ∈ b.lines, IsInner line) :
    ∀ line ∈ b.source, IsOneLine line ∧ ¬ ['/', '*'] <:+: line := by
  intro line member
  rcases source_cases isName member with body | inert
  · exact ⟨(inner line body).oneLine, (inner line body).unmarked⟩
  · exact inert

theorem lines_inert {ls : List Text} (inert : ∀ line ∈ ls, IsOneLine line ∧ ¬ ['/', '*'] <:+: line)
    (rest : Text) : (lines (Comment.strip (unlines ls ++ rest))).map trim =
      ls.map bare ++ (lines (Comment.strip rest)).map trim := by
  have stripped : ∀ line ∈ ls.map (Comment.withoutLines false), IsOneLine line := by
    intro line member
    obtain ⟨source, known, rfl⟩ := List.mem_map.mp member
    exact fun c inside => (inert source known).1 c (Comment.withoutLines_subset false source inside)
  rw [Comment.strip_unlines fun line member => (inert line member).2, lines_unlines stripped,
    List.map_append, List.map_map]
  rfl

theorem all_unlines {ls : List Text}
    (inert : ∀ line ∈ ls, IsOneLine line ∧ ¬ ['/', '*'] <:+: line) :
    all (unlines ls) = scan none (ls.map bare) := by
  have nothing : (lines (Comment.strip [])).map trim = [] := rfl
  have read := lines_inert inert []
  rw [List.append_nil, nothing, List.append_nil] at read
  rw [all, read]

theorem all_body (d : Diagram) : all (d.schema {}) = all (unlines d.sourceLines) := by
  have inert : ∀ line ∈ headerLines, IsOneLine line ∧ ¬ ['/', '*'] <:+: line := fun line member =>
    ⟨(headerLines_inert line member).1, (headerLines_inert line member).2.1⟩
  rw [all, Diagram.schema_lines, header_lines, lines_inert inert, scan_skip, all]
  intro line member
  obtain ⟨source, known, rfl⟩ := List.mem_map.mp member
  exact (headerLines_inert source known).2.2

theorem all_schema {d : Diagram} (isName : ∀ b ∈ d.blocks, b.name.IsName)
    (inner : ∀ b ∈ d.blocks, ∀ line ∈ b.lines, IsInner line) :
    all (d.schema {}) = d.blocks.map fun b => ⟨b.name, b.lines.map bare, true⟩ := by
  have inert : ∀ line ∈ d.sourceLines, IsOneLine line ∧ ¬ ['/', '*'] <:+: line := by
    intro line member
    obtain ⟨b, known, within⟩ := List.mem_flatMap.mp member
    exact source_inert (isName b known) (inner b known) line within
  rw [all_body, all_unlines inert]
  exact scan_sources isName inner

theorem all_nonempty {d : Diagram} (isName : ∀ b ∈ d.blocks, b.name.IsName)
    (some : d.blocks ≠ []) : all (d.schema {}) ≠ [] := by
  cases blocks : d.blocks with
  | nil => exact absurd blocks some
  | cons b rest =>
    have isFirst : b.name.IsName := isName b (by simp [blocks])
    have inert : ∀ line ∈ [[], Block.opener b.name], IsOneLine line ∧ ¬ ['/', '*'] <:+: line := by
      intro line member
      simp only [List.mem_cons, List.not_mem_nil, or_false] at member
      rcases member with rfl | rfl
      · exact ⟨by simp [IsOneLine], by simp⟩
      · exact opener_inert isFirst
    obtain ⟨more, split⟩ : ∃ more, unlines d.sourceLines =
        unlines [[], Block.opener b.name] ++ more := by
      refine ⟨unlines (b.lines ++ [['\x7d']] ++ rest.flatMap Block.source), ?_⟩
      rw [← unlines_append, Diagram.sourceLines, blocks]
      simp [Block.source]
    have empty : header? (bare []) = none := rfl
    obtain ⟨_, _, _, shape⟩ := scan_open ((lines (Comment.strip more)).map trim)
    rw [all_body, all, split, lines_inert inert, List.map_cons, List.map_cons, List.map_nil,
      List.cons_append, List.cons_append, scan, empty, scan, bare_opener isFirst,
      header_opener isFirst]
    dsimp only
    rw [if_neg (by simp), List.nil_append, shape]
    simp

end SourceBlock

theorem Model.all_body (d : Diagram) : Model.all (d.schema {}) = Model.all (unlines d.sourceLines) := by
  rw [Model.all, SourceBlock.all_body, Model.all]

theorem Model.all_nonempty {d : Diagram} (isName : ∀ b ∈ d.blocks, b.name.IsName)
    (some : d.blocks ≠ []) : Model.all (d.schema {}) ≠ [] := by
  refine Distinct.latestByKey_nonempty ?_
  intro none
  exact SourceBlock.all_nonempty isName some (List.map_eq_nil_iff.mp none)

theorem Model.all_schema {d : Diagram} (isName : ∀ b ∈ d.blocks, b.name.IsName)
    (distinct : (d.blocks.map Block.name).Nodup)
    (inner : ∀ b ∈ d.blocks, ∀ line ∈ b.lines, SourceBlock.IsInner line) :
    Model.all (d.schema {}) = d.blocks.map fun b => ⟨b.name, b.lines.filterMap Field.ofLine?⟩ := by
  have model (b : Block) : (⟨b.name, b.lines.map SourceBlock.bare, true⟩ : SourceBlock).model =
      ⟨b.name, b.lines.filterMap Field.ofLine?⟩ := by
    rw [SourceBlock.model, SourceBlock.fields_bare]
  have models : (d.blocks.map fun b => (⟨b.name, b.lines.map SourceBlock.bare, true⟩ : SourceBlock)).map
      SourceBlock.model = d.blocks.map fun b => ⟨b.name, b.lines.filterMap Field.ofLine?⟩ := by
    rw [List.map_map]
    refine List.map_congr_left fun b _ => ?_
    rw [Function.comp_apply, model]
  rw [Model.all, SourceBlock.all_schema isName inner, models]
  refine Distinct.latestByKey_of_distinct ?_
  rw [List.map_map]
  exact distinct

end DiagramSchema
