import DiagramSchema.Proofs.OneApart
import DiagramSchema.Proofs.RelationFields
import DiagramSchema.Proofs.ShownField

/-! The line of one attribute in schema text. With another default for the attribute the text has
another line in that place, and is the same before and after. -/
namespace DiagramSchema
open Text

def Entity.withDefault (e : Entity) (j : Nat) (value : Option Text) : Entity :=
  { e with attributes := e.attributes.modify j fun a => a.withDefault value }

def Diagram.withDefault (d : Diagram) (i j : Nat) (value : Option Text) : Diagram :=
  { d with entities := d.entities.modify i fun e => e.withDefault j value }

def Diagram.attribute? (d : Diagram) (i j : Nat) : Option Attribute :=
  d.entities[i]?.bind fun e => e.attributes[j]?

theorem Attribute.key_undefaulted (model : Text) (required : Bool) :
    ¬ DefaultForm.opening <+: (Attribute.key model required).field.decorators := by
  have shape : (Attribute.key model required).field.decorators = Line.objectKey := by
    cases required <;> rfl
  rw [shape]
  decide

theorem Line.keyed_undefaulted (model : Text) (isOptional : Bool) :
    ¬ DefaultForm.opening <+: (Line.keyedField model isOptional).decorators := by
  rintro ⟨rest, shape⟩
  have solid : ∀ c ∈ "@relation".toList, isBlank c = false := by decide
  have start : (Line.keyedField model isOptional).decorators =
      "@relation".toList ++ trimEnd ("(fields: [".toList ++ Naming.keyField model ++ "])".toList) := by
    rw [← trim_solid_append (by decide) solid, Line.keyedField, Line.tail, List.flatMap_cons,
      List.flatMap_nil, List.append_nil, trim_blank (by decide)]
    rfl
  rw [start] at shape
  have second := congrArg (List.take 2) shape
  exact absurd (show (['@', 'd'] : Text) = ['@', 'r'] from second) (by decide)

theorem Role.field_undefaulted {role : Role} {model : Text} {f : Field}
    (member : f ∈ role.keys model ++ [role.link model]) : ¬ DefaultForm.opening <+: f.decorators := by
  have bare : ¬ DefaultForm.opening <+: [] := by decide
  rcases List.mem_append.mp member with key | link
  · cases role with
    | keyed isOptional =>
      obtain rfl := List.mem_singleton.mp key
      exact Attribute.key_undefaulted model _
    | many | opposite => exact absurd key List.not_mem_nil
  · obtain rfl := List.mem_singleton.mp link
    cases role with
    | keyed isOptional => exact Line.keyed_undefaulted model isOptional
    | many | opposite => exact bare

namespace Diagram

def linesOf (attributes : List Attribute) : List Line :=
  (attributes.filter fun a => !a.isIdentity).map Attribute.line

section
variable (d : Diagram) (i j : Nat) (value : Option Text)

theorem map_withDefault {β : Type} {f : Entity → β} (same : ∀ e, f (e.withDefault j value) = f e) :
    (d.withDefault i j value).entities.map f = d.entities.map f := by
  have apart := OneApart.of_modify (fun e : Entity => e.withDefault j value) d.entities i
  refine (apart.map_eq ?_).symm
  rintro a b rfl
  exact (same a).symm

theorem contributedLines_withDefault :
    (d.withDefault i j value).contributedLines = d.contributedLines :=
  contributedLines_of_labels (map_withDefault d i j value fun _ => rfl) rfl

theorem Named.blocks_withDefault {d : Diagram} (named : d.Named) :
    (d.withDefault i j value).blocks = (d.withDefault i j value).entities.map d.block := by
  have distinct : ((d.withDefault i j value).entities.map Entity.id).Nodup := by
    rw [map_withDefault d i j value fun _ => rfl]
    exact named.distinctIds
  rw [blocks_of_distinct distinct]
  refine List.map_congr_left fun e _ => ?_
  rw [block, block, contributedLines_withDefault]

end

theorem block_place (d : Diagram) (e : Entity) (before after : List Attribute) :
    ∃ first last, ∀ a : Attribute, a.isIdentity = false →
      (∀ line ∈ Line.identity :: (linesOf before ++ linesOf after ++ d.contributedLines e.id),
        line.text ≠ a.line.text) →
      (d.block { e with attributes := before ++ a :: after }).lines =
        first ++ a.line.text :: last := by
  obtain ⟨last, place⟩ := Distinct.eraseDups_place
    ((Line.identity :: linesOf before).map Line.text)
    ((linesOf after ++ d.contributedLines e.id).map Line.text)
  refine ⟨((Line.identity :: linesOf before).map Line.text).eraseDups, last, ?_⟩
  intro a other apart
  rw [← place a.line.text]
  · show (List.map Line.text (Line.identity ::
      ((before ++ a :: after).filter fun a => !a.isIdentity).map Attribute.line
        ++ d.contributedLines e.id)).eraseDups = _
    rw [List.filter_append, List.filter_cons_of_pos (by simp [other])]
    simp [linesOf]
  · intro inside
    obtain ⟨line, member, same⟩ := List.mem_map.mp inside
    refine apart line ?_ same
    rcases List.mem_cons.mp member with rfl | earlier
    · simp
    · simp [earlier]
  · intro inside
    obtain ⟨line, member, same⟩ := List.mem_map.mp inside
    refine apart line ?_ same
    rcases List.mem_append.mp member with later | contributed
    · simp [later]
    · simp [contributed]

/-- Block comments keep to the given line in the block of an entity. The header of the text, which holds
no mark of a comment, is left out. -/
def KeepsComments (d : Diagram) (i : Nat) (line : Text) : Prop :=
  ∀ b ∈ d.blocks[i]?, ∀ k, (inside : k < b.lines.length) → b.lines[k] = line →
    Comment.KeepsTo
      (unlines ((d.blocks.take i).flatMap Block.source ++ [] :: Block.opener b.name :: b.lines.take k))
      line (unlines (b.lines.drop (k + 1) ++ ['\x7d'] :: (d.blocks.drop (i + 1)).flatMap Block.source))

instance (d : Diagram) (i : Nat) (line : Text) : Decidable (d.KeepsComments i line) :=
  inferInstanceAs (Decidable (∀ b ∈ d.blocks[i]?, _))

theorem keepsComments_of_unmarked (d : Diagram) (i : Nat) {line : Text}
    (noOpening : ¬ ['/', '*'] <:+: line) (noClosing : ¬ ['*', '/'] <:+: line) : d.KeepsComments i line :=
  fun _ _ _ _ _ => Comment.keepsTo_of_unmarked noOpening noClosing _ _

theorem keepsTo_at {d : Diagram} {i : Nat} {earlier later : List Block} {b : Block}
    {before after : List Text} {line : Text} (blocks : d.blocks = earlier ++ b :: later)
    (place : earlier.length = i) (lines : b.lines = before ++ line :: after)
    (keeps : d.KeepsComments i line) :
    Comment.KeepsTo (unlines (earlier.flatMap Block.source ++ [] :: Block.opener b.name :: before)) line
      (unlines (after ++ ['\x7d'] :: later.flatMap Block.source)) := by
  subst place
  have here := keeps b (by simp [blocks]) before.length (by simp [lines]) (by simp [lines])
  simpa only [blocks, lines, List.take_left, List.drop_length_add_append, List.drop_succ_cons,
    List.drop_zero] using here

namespace Named

variable {d : Diagram} (named : d.Named)

include named

theorem contributed_reads {id : Text} {line : Line} (member : line ∈ d.contributedLines id) :
    ∃ f, Line.Reads line f ∧ ¬ DefaultForm.opening <+: f.decorators := by
  rw [named.contributedLines_eq] at member
  obtain ⟨r, known, inside⟩ := List.mem_flatMap.mp member
  obtain ⟨f, fromRelation, reads⟩ := Counterparts.of_mem (named.lines_read known id) line inside
  refine ⟨f, reads, ?_⟩
  obtain ⟨c, ⟨_, atSource⟩ | ⟨_, atTarget⟩⟩ := mem_atEnds fromRelation
  · exact Role.field_undefaulted (Cardinality.source_fields _ _ ▸ atSource)
  · exact Role.field_undefaulted (Cardinality.target_fields _ _ ▸ atTarget)

theorem contributed_apart {id : Text} {a : Attribute} (ownName : a.name.IsName)
    (fresh : ∀ line ∈ d.contributedLines id, line.text ≠ (a.withDefault none).line.text)
    {value : Option Text} (one : ∀ raw ∈ value, IsOneLine raw) :
    ∀ line ∈ d.contributedLines id, line.text ≠ (a.withDefault value).line.text := by
  intro line contributed
  cases found : (a.withDefault value).form? with
  | none =>
    have same : (a.withDefault value).line = (a.withDefault none).line := by
      rw [Attribute.line, Attribute.line, Attribute.decorators_split, Attribute.decorators_split,
        found]
      rfl
    rw [same]
    exact fresh line contributed
  | some form =>
    intro same
    obtain ⟨f, reads, plain⟩ := named.contributed_reads contributed
    have own : (a.withDefault value).name.IsName := ownName
    have field := Attribute.read_front own (Attribute.tail_oneLine one).no_feed
      (a.withDefault value).tail_start
    rw [← Line.text_front, ← Attribute.line_named own, ← same, reads.read] at field
    obtain rfl := Option.some.inj field
    exact plain (Attribute.default_first found)

theorem line_apart {e : Entity} (known : e ∈ d.entities) {before after : List Attribute}
    {a : Attribute} (split : e.attributes = before ++ a :: after)
    (distinct : (e.attributes.map Attribute.name).Nodup) (noIdentity : a.isIdentity = false)
    {value : Option Text}
    (fresh : ∀ line ∈ d.contributedLines e.id, line.text ≠ (a.withDefault value).line.text) :
    ∀ line ∈ Line.identity :: (linesOf before ++ linesOf after ++ d.contributedLines e.id),
      line.text ≠ (a.withDefault value).line.text := by
  have isName {b : Attribute} (member : b ∈ e.attributes) : b.name.IsName :=
    isName_of_identifier (named.attributeNamed e known b member)
  have member : a ∈ e.attributes := by simp [split]
  have ownName : (a.withDefault value).name.IsName := (isName member : a.name.IsName)
  have apart : a.name ∉ (before ++ after).map Attribute.name := by
    rw [split, List.map_append, List.map_cons] at distinct
    have first := List.nodup_middle.mp distinct
    rw [List.map_append]
    exact (List.nodup_cons.mp first).1
  have other {b : Attribute} (member : b ∈ before ++ after) :
      b.line.text ≠ (a.withDefault value).line.text := by
    have inside : b ∈ e.attributes := by
      rw [split]
      rcases List.mem_append.mp member with earlier | later
      · simp [earlier]
      · simp [later]
    refine Attribute.line_ne (isName inside) ownName ?_
    intro names
    exact apart (List.mem_map.mpr ⟨b, member, names⟩)
  have written {l : List Attribute} {line : Line} (member : line ∈ linesOf l) :
      ∃ b ∈ l, b.line = line := by
    obtain ⟨b, inside, shape⟩ := List.mem_map.mp member
    exact ⟨b, (List.mem_filter.mp inside).1, shape⟩
  intro line member
  simp only [List.mem_cons, List.mem_append] at member
  rcases member with rfl | (earlier | later) | contributed
  · exact Attribute.identity_ne noIdentity
  · obtain ⟨b, inside, rfl⟩ := written earlier
    exact other (List.mem_append_left _ inside)
  · obtain ⟨b, inside, rfl⟩ := written later
    exact other (List.mem_append_right _ inside)
  · exact fresh line contributed

theorem blocks_place {i j : Nat} {e : Entity} (atEntity : d.entities[i]? = some e) {a : Attribute}
    (atAttribute : e.attributes[j]? = some a)
    (distinct : (e.attributes.map Attribute.name).Nodup) (noIdentity : a.isIdentity = false)
    (fresh : ∀ line ∈ d.contributedLines e.id, line.text ≠ (a.withDefault none).line.text) :
    ∃ earlier later first last, earlier.length = i ∧
      ∀ value : Option Text, (∀ raw ∈ value, IsOneLine raw) → (d.withDefault i j value).blocks =
        earlier ++ ⟨e.modelName, first ++ (a.withDefault value).line.text :: last⟩ :: later := by
  obtain ⟨earlier, later, entities, rfl⟩ := OneApart.split_at_place atEntity
  obtain ⟨before, after, split, rfl⟩ := OneApart.split_at_place atAttribute
  obtain ⟨first, last, place⟩ := d.block_place e before after
  refine ⟨earlier.map d.block, later.map d.block, first, last, List.length_map .., fun value one => ?_⟩
  have known : e ∈ d.entities := by simp [entities]
  have ownName : a.name.IsName :=
    isName_of_identifier (named.attributeNamed e known a (by simp [split]))
  have own := place (a.withDefault value) noIdentity (named.line_apart known split distinct noIdentity
    (named.contributed_apart ownName fresh one))
  rw [named.blocks_withDefault, withDefault, entities, OneApart.modify_place, Entity.withDefault,
    split, OneApart.modify_place, List.map_append, List.map_cons, ← own]
  rfl

/-- The line of an attribute and the text around it, which is the same for all its defaults. -/
theorem source_place {i j : Nat} {e : Entity} (atEntity : d.entities[i]? = some e) {a : Attribute}
    (atAttribute : e.attributes[j]? = some a)
    (distinct : (e.attributes.map Attribute.name).Nodup) (noIdentity : a.isIdentity = false)
    (fresh : ∀ line ∈ d.contributedLines e.id, line.text ≠ (a.withDefault none).line.text) :
    ∃ front back, ∀ value : Option Text, (∀ raw ∈ value, IsOneLine raw) →
      unlines (d.withDefault i j value).sourceLines =
        around front (a.withDefault value).line.text back ∧
      ((d.withDefault i j value).KeepsComments i (a.withDefault value).line.text →
        Comment.KeepsTo front (a.withDefault value).line.text back) := by
  obtain ⟨earlier, later, first, last, place, blocks⟩ :=
    named.blocks_place atEntity atAttribute distinct noIdentity fresh
  have nonempty : earlier.flatMap Block.source ++ [] :: Block.opener e.modelName :: first ≠ [] := by
    simp
  obtain ⟨front, fed⟩ := unlines_feed nonempty
  refine ⟨front, unlines (last ++ ['\x7d'] :: later.flatMap Block.source), fun value one => ⟨?_, ?_⟩⟩
  · have lines : (d.withDefault i j value).sourceLines =
        (earlier.flatMap Block.source ++ [] :: Block.opener e.modelName :: first) ++
          (a.withDefault value).line.text :: (last ++ ['\x7d'] :: later.flatMap Block.source) := by
      rw [sourceLines, blocks value one, List.flatMap_append, List.flatMap_cons, Block.source]
      simp
    rw [lines, unlines_append, unlines_cons, fed, around]
    simp
  · intro keeps
    have here := keepsTo_at (blocks value one) place rfl keeps
    rw [fed] at here
    exact ⟨fun closed => here.begun ((Comment.isClosed_concat (by decide)).mpr closed),
      fun opened => here.ended fun closed => opened ((Comment.isClosed_concat (by decide)).mp closed)⟩

theorem models_apart {i j : Nat} {e : Entity} (atEntity : d.entities[i]? = some e) {a : Attribute}
    (atAttribute : e.attributes[j]? = some a)
    (distinct : (e.attributes.map Attribute.name).Nodup) (noIdentity : a.isIdentity = false)
    (fresh : ∀ line ∈ d.contributedLines e.id, line.text ≠ (a.withDefault none).line.text)
    {value : Text} (oneLine : IsOneLine value)
    (keeps : (d.withDefault i j (some value)).KeepsComments i (a.withDefault (some value)).line.text) :
    OneApart
      (Model.OneFieldApart (a.withDefault none).shownField (a.withDefault (some value)).shownField)
      (Model.all ((d.withDefault i j none).schema {}))
      (Model.all ((d.withDefault i j (some value)).schema {})) := by
  have ownName : a.name.IsName := isName_of_identifier
    (named.attributeNamed e (List.mem_of_getElem? atEntity) a (List.mem_of_getElem? atAttribute))
  -- the other defaults may hold anything: all that is known of the text around is that it is the same
  obtain ⟨front, back, place⟩ :=
    named.source_place atEntity atAttribute distinct noIdentity fresh
  obtain ⟨undecorated, keepsNone⟩ := place none (by simp)
  obtain ⟨decorated, keepsOwn⟩ := place (some value) (by simpa using oneLine)
  have isFirst : SourceBlock.IsField (Comment.withoutBlocks (a.withDefault none).line.text)
      (a.withDefault none).shownField :=
    Attribute.line_isField ownName (by simp [Attribute.withDefault])
  have isSecond : SourceBlock.IsField (Comment.withoutBlocks (a.withDefault (some value)).line.text)
      (a.withDefault (some value)).shownField :=
    Attribute.line_isField ownName (by simpa [Attribute.withDefault] using oneLine)
  have unmarked {mark : Text} (known : mark ∈ [['/', '*'], ['*', '/']]) :
      ¬ mark <:+: (a.withDefault none).line.text :=
    Attribute.line_unmarked (a := a.withDefault none) ownName known (by simp [Attribute.withDefault])
  have plain := keepsComments_of_unmarked (d.withDefault i j none) i
    (unmarked (by simp)) (unmarked (by simp))
  rw [Model.all_body, Model.all_body, undecorated, decorated]
  exact Model.all_apart isFirst isSecond (keepsNone plain) (keepsOwn keeps)

theorem all_withDefault {e : Entity} (known : e ∈ d.entities) (i j : Nat) (value : Option Text) :
    Model.all ((d.withDefault i j value).schema {}) ≠ [] := by
  have names : (d.withDefault i j value).blocks.map Block.name = d.entities.map Entity.modelName := by
    rw [named.blocks_withDefault, List.map_map]
    exact map_withDefault d i j value fun _ => rfl
  refine Model.all_nonempty ?_ ?_
  · intro b member
    have inside : b.name ∈ d.entities.map Entity.modelName := names ▸ List.mem_map_of_mem member
    obtain ⟨x, here, same⟩ := List.mem_map.mp inside
    rw [← same]
    exact isName_of_identifier (named.model_identifier here)
  · intro none
    rw [none, List.map_nil, eq_comm, List.map_eq_nil_iff] at names
    rw [names] at known
    exact absurd known (by simp)

end Named
end Diagram
end DiagramSchema
