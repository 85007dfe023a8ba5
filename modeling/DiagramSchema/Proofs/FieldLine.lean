import DiagramSchema.Proofs.Identifier
import DiagramSchema.Proofs.Layout
import DiagramSchema.Schema.Source

/-! Field lines as they stand in a block. A field is read from its line exactly: the name and the
type are runs of word characters, one mark may follow, and the rest of the line are decorators. -/
namespace DiagramSchema
open Text

theorem Text.IsName.append_inj {name other rest more : Text} {mark : Char} (isName : name.IsName)
    (isOther : other.IsName) (sign : isWord mark = false)
    (same : name ++ mark :: rest = other ++ mark :: more) : name = other ∧ rest = more := by
  have stop (s : Text) : ∀ c ∈ (mark :: s).head?, isWord c = false := by simp [sign]
  have names := congrArg (List.takeWhile isWord) same
  rw [takeWhile_run isName.2 (stop _), takeWhile_run isOther.2 (stop _)] at names
  rw [names] at same
  exact ⟨names, (List.cons.inj (List.append_cancel_left same)).2⟩

namespace Field

theorem takeWhile_name {name rest : Text} (word : name.IsName)
    (stop : ∀ c ∈ rest.head?, isWord c = false) : (name ++ rest).takeWhile isWord = name :=
  takeWhile_run word.2 stop

theorem dropWhile_name {name rest : Text} (word : name.IsName)
    (stop : ∀ c ∈ rest.head?, isWord c = false) : (name ++ rest).dropWhile isWord = rest :=
  dropWhile_run word.2 stop

theorem dropWhile_gap {gap name : Text} (blank : ∀ c ∈ gap, isBlank c = true) (isName : name.IsName)
    (rest : Text) : (gap ++ (name ++ rest)).dropWhile isBlank = name ++ rest := by
  rw [List.dropWhile_append_of_pos blank]
  cases letters : name with
  | nil => exact absurd letters isName.1
  | cons c more => simp [isName.solid c (by simp [letters])]

def IsMark (mark : Text) : Prop := mark = [] ∨ mark = ['?'] ∨ mark = ['[', ']']

def IsTail (tail : Text) : Prop := (∀ c ∈ tail.head?, c = ' ') ∧ '\n' ∉ tail

theorem readMarks_tail {mark tail : Text} (isMark : IsMark mark) (isTail : IsTail tail) :
    readMarks (mark ++ tail) = (mark == ['[', ']'], mark == ['?'], tail) := by
  have plain : readMarks tail = (false, false, tail) := by
    cases tail with
    | nil => rfl
    | cons c rest =>
      obtain rfl := isTail.1 c rfl
      rfl
  rcases isMark with rfl | rfl | rfl
  · exact plain
  · simp [readMarks, plain]
  · simp [readMarks, plain]

theorem mark_tail_stops {mark tail : Text} (isMark : IsMark mark) (isTail : IsTail tail) :
    ∀ c ∈ (mark ++ tail).head?, isWord c = false := by
  have space : isWord ' ' = false := by decide
  rcases isMark with rfl | rfl | rfl
  · intro c first
    rw [isTail.1 c first]
    exact space
  · simp; decide
  · simp; decide

theorem readDecorators_tail {tail : Text} (isTail : IsTail tail) :
    readDecorators? tail = some (trim tail) := by
  cases tail with
  | nil => rfl
  | cons c rest =>
    obtain rfl := isTail.1 c rfl
    have oneLine : '\n' ∉ trimStart rest := by
      intro inside
      exact isTail.2 (by simp [(List.dropWhile_suffix isBlank).subset inside])
    have last : (trimStart rest).getLast? ≠ some '\n' := by
      intro ends
      exact oneLine (List.mem_of_getLast? ends)
    have space : isBlank ' ' = true := by decide
    simp [readDecorators?, space, last, oneLine, trim_trimStart, trim_blank]

theorem readMarks_unmarked {c : Char} (rest : Text) (plain : c ≠ '[' ∧ c ≠ '?') :
    readMarks (c :: rest) = (false, false, c :: rest) := by
  rw [readMarks]
  · intro more same
    exact plain.1 (List.cons.inj same).1
  · intro more same
    exact plain.2 (List.cons.inj same).1

theorem head_readDecorators {c d : Char} {rest more decorators : Text}
    (blank : isBlank c = true) (begins : trimStart rest = d :: more) (solid : isBlank d = false)
    (reads : readDecorators? (c :: rest) = some decorators) : decorators.head? = some d := by
  have kept : ∃ tail, (if (d :: more).getLast? == some '\n' then (d :: more).dropLast
      else d :: more) = d :: tail := by
    split
    · rename_i ends
      cases more with
      | nil =>
        have feed : d = '\n' := by simpa using ends
        rw [feed] at solid
        exact absurd solid (by decide)
      | cons e more => exact ⟨(e :: more).dropLast, rfl⟩
    · exact ⟨more, rfl⟩
  obtain ⟨tail, shape⟩ := kept
  simp only [readDecorators?, blank, begins, shape, if_true] at reads
  split at reads
  · exact absurd reads (by simp)
  · obtain rfl := Option.some.inj reads
    have start := trimEnd_append_solid solid [] tail
    rw [trim, trimStart_solid solid]
    rw [List.nil_append] at start
    rw [start]
    rfl

theorem read_parts {name type mark tail : Text} (isName : name.IsName) (isType : type.IsName)
    (isMark : IsMark mark) (isTail : IsTail tail) :
    read? (name ++ ' ' :: (type ++ (mark ++ tail))) =
      some ⟨name, type, mark == ['[', ']'], mark == ['?'], trim tail⟩ := by
  have space : isWord ' ' = false := by decide
  have blank : isBlank ' ' = true := by decide
  have gap : ∀ c ∈ (' ' :: (type ++ (mark ++ tail))).head?, isWord c = false := by simp [space]
  have start : (type ++ (mark ++ tail)).dropWhile isBlank = type ++ (mark ++ tail) :=
    dropWhile_gap (List.forall_mem_nil _) isType _
  have stop := mark_tail_stops isMark isTail
  simp only [read?, takeWhile_name isName gap, dropWhile_name isName gap,
    List.dropWhile_cons_of_pos blank, start, takeWhile_name isType stop,
    dropWhile_name isType stop, readMarks_tail isMark isTail, readDecorators_tail isTail]
  simp [isName.1, isType.1]

theorem trim_parts {name type mark tail : Text} (isName : name.IsName) (isType : type.IsName)
    (isMark : IsMark mark) :
    trim (' ' :: ' ' :: (name ++ ' ' :: (type ++ (mark ++ tail)))) =
      name ++ ' ' :: (type ++ (mark ++ trimEnd tail)) := by
  have blank : isBlank ' ' = true := by decide
  have first : trimStart (name ++ ' ' :: (type ++ (mark ++ tail))) =
      name ++ ' ' :: (type ++ (mark ++ tail)) := by
    cases letters : name with
    | nil => exact absurd letters isName.1
    | cons c rest => exact trimStart_solid (isName.solid c (by simp [letters])) _
  have solid : ∀ c ∈ type ++ mark, isBlank c = false := by
    intro c inside
    rcases List.mem_append.mp inside with word | sign
    · exact isType.solid c word
    · rcases isMark with rfl | rfl | rfl
      · simp at sign
      · obtain rfl := List.mem_singleton.mp sign
        decide
      · have both : ∀ d ∈ (['[', ']'] : Text), isBlank d = false := by decide
        exact both c sign
  have nonempty : type ++ mark ≠ [] := by simp [isType.1]
  rw [trim_blank blank, trim_blank blank, trim, first]
  have cut := trimEnd_append nonempty solid (name ++ [' ']) tail
  simpa using cut

theorem isTail_trimEnd {tail : Text} (isTail : IsTail tail) : IsTail (trimEnd tail) := by
  have leading : trimEnd tail <+: tail := by
    have suffix := List.dropWhile_suffix isBlank (l := tail.reverse)
    simpa [trimEnd] using List.reverse_prefix.mpr suffix
  constructor
  · intro c first
    obtain ⟨rest, split⟩ := leading
    apply isTail.1 c
    rw [← split, List.head?_append, Option.mem_def.mp first]
    rfl
  · intro inside
    exact isTail.2 (leading.subset inside)

theorem read_line {name type mark tail : Text} (isName : name.IsName) (isType : type.IsName)
    (isMark : IsMark mark) (isTail : IsTail tail) :
    read? (trim (' ' :: ' ' :: (name ++ ' ' :: (type ++ (mark ++ tail))))) =
      some ⟨name, type, mark == ['[', ']'], mark == ['?'], trim tail⟩ := by
  rw [trim_parts isName isType isMark, read_parts isName isType isMark (isTail_trimEnd isTail),
    trim_trimEnd]

end Field

def Field.mark (f : Field) : Text := if f.isList then ['[', ']'] else if f.isOptional then ['?'] else []

def Field.text (f : Field) : Text :=
  ' ' :: ' ' :: (f.name ++ ' ' :: (f.type ++ (f.mark ++
    if f.decorators.isEmpty then [] else ' ' :: f.decorators)))

def Field.ofLine? (line : Text) : Option Field := Field.read? (trim (Comment.withoutLines false line))

namespace Line

/-- A line that is one field and nothing else. -/
structure Reads (line : Line) (f : Field) : Prop where
  shown : line.text = f.text
  read : Field.ofLine? line.text = some f
  oneLine : IsOneLine line.text
  unmarked : ¬ ['/', '*'] <:+: line.text

def tail (decorators : List Text) : Text := decorators.flatMap fun decorator => ' ' :: decorator

theorem text_field (name type mark : Text) (decorators : List Text) :
    (Line.field name type mark decorators).text =
      ' ' :: ' ' :: (name ++ ' ' :: (type ++ (mark ++ tail decorators))) := by
  show [' ', ' '] ++ name ++ [' '] ++ type ++ mark ++ tail decorators = _
  simp

/-- Decorators without comments and line breaks, a single space before them. -/
structure IsTidy (tail : Text) : Prop where
  oneLine : IsOneLine tail
  noLineMark : ¬ ['/', '/'] <:+: tail
  noBlockMark : ¬ ['/', '*'] <:+: tail
  spaced : tail = if (trim tail).isEmpty then [] else ' ' :: trim tail

theorem IsTidy.isTail {tail : Text} (tidy : IsTidy tail) : Field.IsTail tail := by
  refine ⟨?_, tidy.oneLine.no_feed⟩
  have spaced := tidy.spaced
  split at spaced
  · simp [spaced]
  · rw [spaced]
    simp

theorem isName_oneLine {s : Text} (name : s.IsName) : IsOneLine s := by
  intro c inside
  cases ends : isLineBreak c with
  | false => rfl
  | true => exact absurd (name.solid c inside) (by simp [isBlank_of_isLineBreak ends])

theorem isMark_text {mark : Text} (isMark : Field.IsMark mark) :
    IsOneLine mark ∧ '/' ∉ mark ∧ '*' ∉ mark ∧
      mark = if mark == ['[', ']'] then ['[', ']'] else if mark == ['?'] then ['?'] else [] := by
  rcases isMark with rfl | rfl | rfl <;> simp [IsOneLine, isLineBreak, lineBreakCodes]

def front (name type mark : Text) : Text := ' ' :: ' ' :: (name ++ ' ' :: (type ++ mark))

theorem text_front (name type mark : Text) (decorators : List Text) :
    (Line.field name type mark decorators).text = front name type mark ++ tail decorators := by
  simp [text_field, front]

theorem front_oneLine {name type mark : Text} (isName : name.IsName) (isType : type.IsName)
    (isMark : Field.IsMark mark) : IsOneLine (front name type mark) := by
  have space : isLineBreak ' ' = false := by decide
  intro c inside
  simp only [front, List.mem_append, List.mem_cons] at inside
  rcases inside with rfl | rfl | word | rfl | word | sign
  · exact space
  · exact space
  · exact isName_oneLine isName c word
  · exact space
  · exact isName_oneLine isType c word
  · exact (isMark_text isMark).1 c sign

theorem front_clean {name type mark : Text} (isName : name.IsName) (isType : type.IsName)
    (isMark : Field.IsMark mark) : '/' ∉ front name type mark ∧ '*' ∉ front name type mark := by
  obtain ⟨_, slash, star, _⟩ := isMark_text isMark
  have noSlash : isWord '/' = false := by decide
  have noStar : isWord '*' = false := by decide
  simp [front, isName.lacks noSlash, isType.lacks noSlash, isName.lacks noStar,
    isType.lacks noStar, slash, star]

theorem reads_of_parts {name type mark : Text} {decorators : List Text} (isName : name.IsName)
    (isType : type.IsName) (isMark : Field.IsMark mark) (tidy : IsTidy (tail decorators)) :
    Reads (.field name type mark decorators)
      ⟨name, type, mark == ['[', ']'], mark == ['?'], trim (tail decorators)⟩ := by
  obtain ⟨_, _, _, markShown⟩ := isMark_text isMark
  have clean := (front_clean isName isType isMark).1
  have noLineMark : ¬ ['/', '/'] <:+: (Line.field name type mark decorators).text := by
    rw [text_front]
    exact fun inside => tidy.noLineMark (infix_of_append clean inside)
  constructor
  · rw [text_field, Field.text, Field.mark, ← markShown, ← tidy.spaced]
  · rw [Field.ofLine?, Comment.withoutLines_unmarked noLineMark, text_field]
    exact Field.read_line isName isType isMark tidy.isTail
  · rw [text_front]
    intro c inside
    rcases List.mem_append.mp inside with before | after
    · exact front_oneLine isName isType isMark c before
    · exact tidy.oneLine c after
  · rw [text_front]
    exact fun inside => tidy.noBlockMark (infix_of_append clean inside)

theorem name_of_text {name other type kind mark sign : Text} {decorators more : List Text}
    (isName : name.IsName) (isOther : other.IsName)
    (same : (Line.field name type mark decorators).text = (Line.field other kind sign more).text) :
    name = other := by
  have space : isWord ' ' = false := by decide
  have stop (rest : Text) : ∀ c ∈ (' ' :: rest).head?, isWord c = false := by simp [space]
  rw [text_field, text_field] at same
  have words := congrArg (List.takeWhile isWord) (List.cons.inj (List.cons.inj same).2).2
  rwa [Field.takeWhile_name isName (stop _), Field.takeWhile_name isOther (stop _)] at words

end Line
end DiagramSchema
