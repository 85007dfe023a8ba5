import DiagramSchema.Proofs.AttributeLine
import DiagramSchema.Proofs.LineIsolation

/-! The field that the line of an attribute shows when its default may be any text on one line. The
text may start a line comment, hold block comments and have decorators of its own. -/
namespace DiagramSchema
open Text

structure Field.DefaultApart (f g : Field) : Prop where
  name : f.name = g.name
  type : f.type = g.type
  isList : f.isList = g.isList
  noIdentity : f.isIdentity = false ∧ g.isIdentity = false
  constraint : g.constraint = { f.constraint with defaultValue := g.defaultValue }

namespace Attribute

def withDefault (a : Attribute) (value : Option Text) : Attribute :=
  { a with constraint := { a.constraint with defaultValue := value } }

/-- The field that the line of an attribute reads as, comments aside. -/
def shownField (a : Attribute) : Field :=
  ⟨a.name, a.type.name, a.constraint.list, a.constraint.optional,
    trim (Comment.strip (Line.tail a.decorators))⟩

/-- The decorators on the line of an attribute show its flags, and no identity. -/
def ShowsFlags (a : Attribute) : Prop :=
  ∀ sign ∈ signs, a.shownField.isDecoratedWith sign =
    (flags a.constraint.unique a.constraint.updatedAt a.constraint.isId).contains sign

instance (a : Attribute) : Decidable a.ShowsFlags :=
  inferInstanceAs (Decidable (∀ sign ∈ signs, _ = _))

theorem blocks_start (rest : Text) :
    Comment.withoutBlocks (' ' :: '@' :: rest) = ' ' :: '@' :: Comment.withoutBlocks rest := by
  rw [Comment.withoutBlocks_cons (by simp), Comment.withoutBlocks_cons (by simp)]

theorem withoutLines_start (rest : Text) :
    Comment.withoutLines false (' ' :: '@' :: rest) = ' ' :: '@' :: Comment.withoutLines false rest := by
  rw [Comment.withoutLines_cons false (by decide) (by simp),
    Comment.withoutLines_cons false (by decide) (by simp)]
  rfl

theorem tail_withoutBlocks (a : Attribute) : Comment.withoutBlocks (Line.tail a.decorators) = [] ∨
    ∃ rest, Comment.withoutBlocks (Line.tail a.decorators) = ' ' :: '@' :: rest := by
  rcases a.tail_start with nothing | ⟨rest, start⟩
  · exact Or.inl (by rw [nothing]; rfl)
  · exact Or.inr ⟨Comment.withoutBlocks rest, by rw [start, blocks_start]⟩

theorem shown_start (a : Attribute) : a.shownField.decorators = [] ∨
    ∃ rest, a.shownField.decorators = '@' :: rest := by
  unfold shownField Comment.strip
  rcases a.tail_withoutBlocks with nothing | ⟨rest, start⟩
  · rw [nothing]
    exact Or.inl rfl
  · have kept := trimEnd_append_solid (show isBlank '@' = false by decide) []
      (Comment.withoutLines false rest)
    rw [start, withoutLines_start, trim_blank (by decide), trim, trimStart_solid (by decide)]
    exact Or.inr ⟨trimEnd (Comment.withoutLines false rest), kept⟩

theorem isTail_withoutLines {tail : Text} (one : '\n' ∉ tail)
    (start : tail = [] ∨ ∃ rest, tail = ' ' :: '@' :: rest) :
    Field.IsTail (Comment.withoutLines false tail) := by
  constructor
  · rcases start with nothing | ⟨rest, start⟩
    · rw [nothing]
      simp [Comment.withoutLines]
    · rw [start, withoutLines_start]
      simp
  · intro inside
    exact one (Comment.withoutLines_subset false _ inside)

theorem read_front {a : Attribute} (named : a.name.IsName) {tail : Text} (one : '\n' ∉ tail)
    (start : tail = [] ∨ ∃ rest, tail = ' ' :: '@' :: rest) :
    Field.ofLine? (Line.front a.name a.type.name a.constraint.mark ++ tail) =
      some ⟨a.name, a.type.name, a.constraint.list, a.constraint.optional,
        trim (Comment.withoutLines false tail)⟩ := by
  obtain ⟨isMark, list, optional⟩ := mark_read a.constraint
  have isType := scalar_isName a.type
  have parts := Field.read_line named isType isMark (isTail_withoutLines one start)
  rw [list, optional] at parts
  have shape (rest : Text) : Line.front a.name a.type.name a.constraint.mark ++ rest =
      ' ' :: ' ' :: (a.name ++ ' ' :: (a.type.name ++ (a.constraint.mark ++ rest))) := by
    simp [Line.front]
  rw [Field.ofLine?, Comment.withoutLines_append (Line.front_clean named isType isMark).1, shape]
  exact parts

theorem line_withoutBlocks {a : Attribute} (named : a.name.IsName) :
    Comment.withoutBlocks a.line.text = Line.front a.name a.type.name a.constraint.mark ++
      Comment.withoutBlocks (Line.tail a.decorators) := by
  obtain ⟨isMark, _, _⟩ := mark_read a.constraint
  have noSlash := (Line.front_clean named (scalar_isName a.type) isMark).1
  rw [line_named named, Line.text_front]
  exact Comment.withoutBlocks_append (fun inside => noSlash (inside.subset (by simp)))
    fun last => absurd (List.mem_of_getLast? last) noSlash

theorem line_isField {a : Attribute} (named : a.name.IsName)
    (one : ∀ raw ∈ a.constraint.defaultValue, IsOneLine raw) :
    SourceBlock.IsField (Comment.withoutBlocks a.line.text) a.shownField := by
  have oneLine : IsOneLine (Comment.withoutBlocks (Line.tail a.decorators)) := fun c inside =>
    tail_oneLine one c ((Comment.withoutBlocks_sublist _).subset inside)
  have reads : Field.ofLine? (Comment.withoutBlocks a.line.text) = some a.shownField := by
    rw [line_withoutBlocks named, read_front named oneLine.no_feed a.tail_withoutBlocks]
    rfl
  have plain : a.shownField.decorators.head? ≠ some '\x7b' := by
    rcases a.shown_start with nothing | ⟨rest, start⟩
    · simp [nothing]
    · simp [start]
  refine ⟨?_, SourceBlock.header_of_field reads plain, ?_, reads⟩
  · rw [line_withoutBlocks named]
    intro c inside
    rcases List.mem_append.mp inside with before | after
    · exact Line.front_oneLine named (scalar_isName a.type) (mark_read a.constraint).1 c before
    · exact oneLine c after
  · intro closes
    have nothing : Field.read? ['\x7d'] = none := by decide
    have found : Field.read? (SourceBlock.bare (Comment.withoutBlocks a.line.text)) =
      some a.shownField := reads
    rw [closes, nothing] at found
    exact absurd found (by simp)

theorem line_unmarked {a : Attribute} (named : a.name.IsName) {mark : Text}
    (known : mark ∈ [['/', '*'], ['*', '/']])
    (absent : ∀ raw ∈ a.constraint.defaultValue, ¬ mark <:+: raw) : ¬ mark <:+: a.line.text := by
  obtain ⟨isMark, _, _⟩ := mark_read a.constraint
  obtain ⟨noSlash, noStar⟩ := Line.front_clean named (scalar_isName a.type) isMark
  have inTail : ¬ mark <:+: Line.tail a.decorators := tail_unmarked (List.mem_cons_of_mem _ known) absent
  rw [line_named named, Line.text_front]
  simp only [List.mem_cons, List.not_mem_nil, or_false] at known
  rcases known with rfl | rfl
  · exact fun inside => inTail (infix_of_append noSlash inside)
  · exact fun inside => inTail (infix_of_append noStar inside)

theorem withDefault_none_plain (a : Attribute) : (a.withDefault none).HasPlainDefault := by
  intro raw typed
  exact absurd typed (by simp [withDefault])

theorem shown_plain {a : Attribute} (plain : a.HasPlainDefault) : a.shownField = a.field := by
  rw [shownField, Comment.strip, Comment.withoutBlocks_unmarked (tidy_tail plain).noBlockMark,
    Comment.withoutLines_unmarked (tidy_tail plain).noLineMark]
  rfl

theorem showsFlags_plain {a : Attribute} (plain : a.HasPlainDefault) : a.ShowsFlags := by
  intro sign known
  rw [shown_plain plain]
  exact sign_iff_flag (fun raw typed => (plain raw typed).noDecorator) known

theorem shown_noIdentity {a : Attribute} (shows : a.ShowsFlags) :
    a.shownField.isIdentity = false := by
  have checked : ∀ unique updatedAt isId,
      (flags unique updatedAt isId).contains "@id".toList = false := by decide
  rw [Field.isIdentity, shows _ (by simp [signs])]
  exact checked _ _ _

theorem constraint_apart {f g : Field} (isList : f.isList = g.isList)
    (isOptional : f.isOptional = g.isOptional)
    (same : ∀ sign ∈ signs, g.isDecoratedWith sign = f.isDecoratedWith sign) :
    g.constraint = { f.constraint with defaultValue := g.defaultValue } := by
  rw [Field.constraint, Field.constraint, isList, isOptional, same _ (by simp [signs]),
    same _ (by simp [signs]), same _ (by simp [signs])]

theorem shown_apart {a : Attribute} {value : Option Text} (shows : (a.withDefault value).ShowsFlags) :
    Field.DefaultApart (a.withDefault none).shownField (a.withDefault value).shownField := by
  have undecorated := showsFlags_plain a.withDefault_none_plain
  have identities := And.intro (shown_noIdentity undecorated) (shown_noIdentity shows)
  refine ⟨rfl, rfl, rfl, identities, constraint_apart rfl rfl ?_⟩
  intro sign known
  rw [shows sign known, undecorated sign known]
  rfl

theorem default_first {a : Attribute} {form : DefaultForm} (found : a.form? = some form) :
    DefaultForm.opening <+: trim (Comment.withoutLines false (Line.tail a.decorators)) := by
  have solid : ∀ c ∈ DefaultForm.opening, isBlank c = false := by decide
  have clean : '/' ∉ ' ' :: DefaultForm.opening := by decide
  obtain ⟨rest, shape⟩ : ∃ rest, Line.tail a.decorators = (' ' :: DefaultForm.opening) ++ rest := by
    rw [tail_some found, DefaultForm.decorator, List.append_assoc, List.append_assoc]
    exact ⟨_, rfl⟩
  rw [shape, Comment.withoutLines_append clean, List.cons_append,
    trim_blank (by decide), trim_solid_append (by decide) solid]
  exact List.prefix_append _ _

end Attribute
end DiagramSchema
