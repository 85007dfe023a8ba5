import DiagramSchema.Proofs.BlockLayout
import DiagramSchema.Proofs.Counterparts
import DiagramSchema.Proofs.PlainDiagram

/-! The models that are read from the schema text of a legible diagram: the identity, the attributes
and the fields that the relations contribute, each distinct field once. -/
namespace DiagramSchema
open Text

def Attribute.key (model : Text) (required : Bool) : Attribute :=
  ⟨Naming.keyField model, .string, { required := required, isId := true }⟩

theorem Attribute.key_line (model : Text) (required : Bool) :
    (Attribute.key model required).line = Line.key model (if required then [] else ['?']) := by
  have nonempty : (Naming.keyField model).isEmpty = false := by
    simp [Naming.keyField]
  have named : Text.orElse (Naming.keyField model) "field" = Naming.keyField model := by
    rw [Text.orElse, nonempty]
    rfl
  cases required with
  | false =>
    show Line.field (Text.orElse (Naming.keyField model) "field") "String" ['?'] [Line.objectKey] = _
    rw [named]
    rfl
  | true =>
    show Line.field (Text.orElse (Naming.keyField model) "field") "String" [] [Line.objectKey] = _
    rw [named]
    rfl

theorem Attribute.key_plain (model : Text) (required : Bool) :
    (Attribute.key model required).HasPlainDefault := by
  intro raw typed
  exact absurd typed (by simp [Attribute.key])

theorem Attribute.key_recovered (model : Text) (required : Bool) :
    (Attribute.key model required).recovered = Attribute.key model required := by
  cases required <;> rfl

namespace Line

theorem tidy_none : IsTidy (tail []) :=
  ⟨by simp [tail, IsOneLine], by simp [tail], by simp [tail], rfl⟩

theorem tidy_follows {key : Text} (name : key.IsName) : IsTidy (tail [follows key]) := by
  obtain ⟨front, start, plain⟩ : ∃ front, "@relation(fields: [".toList = '@' :: front ∧
      ∀ c ∈ front, isLineBreak c = false ∧ c ≠ '/' := ⟨_, rfl, by decide⟩
  have shape : tail [follows key] = ' ' :: '@' :: ((front ++ key ++ [']']) ++ [')']) := by
    have stop : "])".toList = [']', ')'] := rfl
    show ' ' :: (("@relation(fields: [".toList ++ key ++ "])".toList) ++ []) = _
    rw [start, stop]
    simp
  have clean : '/' ∉ tail [follows key] := by
    have other : isWord '/' = false := by decide
    have absent : '/' ∉ front := fun inside => (plain _ inside).2 rfl
    rw [shape]
    simp [absent, name.lacks other]
  refine ⟨?_, ?_, ?_, ?_⟩
  · rw [shape]
    intro c inside
    simp only [List.mem_cons, List.mem_append, List.not_mem_nil, or_false] at inside
    rcases inside with rfl | rfl | ((start | word) | rfl) | rfl
    · decide
    · decide
    · exact (plain c start).1
    · exact isName_oneLine name c word
    · decide
    · decide
  · exact fun inside => clean (inside.subset (by simp))
  · exact fun inside => clean (inside.subset (by simp))
  · rw [shape, trim_blank (by decide), trim_ends (by decide) (by decide)]
    rfl

def identityField : Field :=
  ⟨"id", "String", false, false, "@id @default(auto()) @map(\"_id\") @db.ObjectId"⟩

theorem identity_reads : Reads identity identityField := by
  have name : Text.IsName "id" := ⟨by decide, by decide⟩
  have type : Text.IsName "String" := ⟨by decide, by decide⟩
  have checked :
      (∀ c ∈ tail ["@id", "@default(auto())", "@map(\"_id\")", objectKey], isLineBreak c = false) ∧
      '/' ∉ tail ["@id", "@default(auto())", "@map(\"_id\")", objectKey] ∧
      tail ["@id", "@default(auto())", "@map(\"_id\")", objectKey] =
        ' ' :: identityField.decorators ∧
      trim (tail ["@id", "@default(auto())", "@map(\"_id\")", objectKey]) =
        identityField.decorators := by decide
  obtain ⟨oneLine, clean, spaced, trimmed⟩ := checked
  have tidy : IsTidy (tail ["@id", "@default(auto())", "@map(\"_id\")", objectKey]) :=
    ⟨oneLine, fun inside => clean (inside.subset (by simp)),
      fun inside => clean (inside.subset (by simp)), by rw [trimmed, spaced]; rfl⟩
  have parts := reads_of_parts name type (Or.inl rfl) tidy
  rw [trimmed] at parts
  exact parts

theorem many_reads {model : Text} (name : isIdentifier model = true) :
    Reads (many model) ⟨Naming.manyField model, model, true, false, []⟩ :=
  reads_of_parts (Naming.manyField_isName name) (isName_of_identifier name)
    (Or.inr (Or.inr rfl)) tidy_none

theorem opposite_reads {model : Text} (name : isIdentifier model = true) :
    Reads (opposite model) ⟨Naming.uncapitalized model, model, false, true, []⟩ :=
  reads_of_parts (isName_of_identifier (Naming.uncapitalized_identifier name))
    (isName_of_identifier name) (Or.inr (Or.inl rfl)) tidy_none

def keyedField (model : Text) (isOptional : Bool) : Field :=
  ⟨Naming.uncapitalized model, model, false, isOptional, trim (tail [follows (Naming.keyField model)])⟩

theorem keyed_reads {model : Text} (name : isIdentifier model = true) (isOptional : Bool) :
    Reads (keyed model (if isOptional then ['?'] else [])) (keyedField model isOptional) := by
  have tidy := tidy_follows (isName_of_identifier (Naming.keyField_identifier name))
  have first := isName_of_identifier (Naming.uncapitalized_identifier name)
  cases isOptional with
  | false => exact reads_of_parts first (isName_of_identifier name) (Or.inl rfl) tidy
  | true => exact reads_of_parts first (isName_of_identifier name) (Or.inr (Or.inl rfl)) tidy

theorem key_reads {model : Text} (name : isIdentifier model = true) (required : Bool) :
    Reads (key model (if required then [] else ['?'])) (Attribute.key model required).field := by
  rw [← Attribute.key_line]
  exact Attribute.line_reads (isName_of_identifier (Naming.keyField_identifier name))
    (Attribute.key_plain model required)

end Line

/-- What an entity is to another that a relation joins it to: it holds many of the other; it holds one
and the key of it, which may be absent or not; or it may hold one whose key is kept there. -/
inductive Role where
  | many
  | keyed (isOptional : Bool)
  | opposite
deriving DecidableEq, Repr

namespace Role

def lines (model : Text) : Role → List Line
  | many => [.many model]
  | keyed isOptional =>
    let mark := if isOptional then ['?'] else []
    [.key model mark, .keyed model mark]
  | opposite => [.opposite model]

def link (model : Text) : Role → Field
  | many => ⟨Naming.manyField model, model, true, false, []⟩
  | keyed isOptional => Line.keyedField model isOptional
  | opposite => ⟨Naming.uncapitalized model, model, false, true, []⟩

def keys (model : Text) : Role → List Field
  | keyed isOptional => [(Attribute.key model !isOptional).field]
  | many | opposite => []

theorem lines_read {model : Text} (name : isIdentifier model = true) (role : Role) :
    List.Forall₂ Line.Reads (role.lines model) (role.keys model ++ [role.link model]) := by
  cases role with
  | many => exact .cons (Line.many_reads name) .nil
  | keyed isOptional =>
    refine .cons ?_ (.cons (Line.keyed_reads name isOptional) .nil)
    cases isOptional with
    | false => exact Line.key_reads name true
    | true => exact Line.key_reads name false
  | opposite => exact .cons (Line.opposite_reads name) .nil

end Role

namespace Cardinality

def roles : Cardinality → Role × Role
  | .oneToMany => (.many, .keyed false)
  | .oneToOne => (.keyed true, .opposite)
  | .manyToOne | .manyToMany => (.many, .many)

theorem lines_roles (c : Cardinality) (source target : Text) :
    c.lines source target = (c.roles.1.lines target, c.roles.2.lines source) := by
  cases c <;> rfl

def sourceKeys (c : Cardinality) (target : Text) : List Attribute :=
  if c = .oneToOne then [Attribute.key target false] else []

def targetKeys (c : Cardinality) (source : Text) : List Attribute :=
  if c = .oneToMany then [Attribute.key source true] else []

def sourceLink (c : Cardinality) (target : Text) : Field :=
  if c = .oneToOne then Line.keyedField target true
  else ⟨Naming.manyField target, target, true, false, []⟩

def targetLink (c : Cardinality) (source : Text) : Field :=
  match c with
  | .oneToMany => Line.keyedField source false
  | .oneToOne => ⟨Naming.uncapitalized source, source, false, true, []⟩
  | .manyToOne | .manyToMany => ⟨Naming.manyField source, source, true, false, []⟩

theorem source_fields (c : Cardinality) (target : Text) :
    (c.sourceKeys target).map Attribute.field ++ [c.sourceLink target] =
      c.roles.1.keys target ++ [c.roles.1.link target] := by
  cases c <;> rfl

theorem target_fields (c : Cardinality) (source : Text) :
    (c.targetKeys source).map Attribute.field ++ [c.targetLink source] =
      c.roles.2.keys source ++ [c.roles.2.link source] := by
  cases c <;> rfl

theorem source_lines_read {source target : Text} (name : isIdentifier target = true)
    (c : Cardinality) : List.Forall₂ Line.Reads (c.lines source target).1
      ((c.sourceKeys target).map Attribute.field ++ [c.sourceLink target]) := by
  rw [lines_roles, source_fields]
  exact c.roles.1.lines_read name

theorem target_lines_read {source target : Text} (name : isIdentifier source = true)
    (c : Cardinality) : List.Forall₂ Line.Reads (c.lines source target).2
      ((c.targetKeys source).map Attribute.field ++ [c.targetLink source]) := by
  rw [lines_roles, target_fields]
  exact c.roles.2.lines_read name

end Cardinality

namespace Line

theorem texts_of_reads {lines : List Line} {fields : List Field}
    (reads : List.Forall₂ Reads lines fields) :
    lines.map text = fields.map Field.text ∧ ∀ f ∈ fields, Field.ofLine? f.text = some f := by
  induction reads with
  | nil => simp
  | @cons line f lines fields first _ ih =>
    refine ⟨by rw [List.map_cons, List.map_cons, first.shown, ih.1], ?_⟩
    intro g member
    rcases List.mem_cons.mp member with rfl | later
    · rw [← first.shown, first.read]
    · exact ih.2 g later

theorem fields_of_lines {lines : List Line} {fields : List Field}
    (reads : List.Forall₂ Reads lines fields) :
    ((lines.map text).eraseDups).filterMap Field.ofLine? = fields.eraseDups := by
  obtain ⟨same, back⟩ := texts_of_reads reads
  have injective : ∀ f ∈ fields, ∀ g ∈ fields, f.text = g.text → f = g := by
    intro f first g second equal
    rw [← Option.some.injEq, ← back f first, equal, back g second]
  rw [same, Distinct.eraseDups_map injective, List.filterMap_map]
  have each : ∀ f ∈ fields.eraseDups, (Field.ofLine? ∘ Field.text) f = some f :=
    fun f member => back f (List.mem_eraseDups.mp member)
  exact (List.filterMap_congr each).trans List.filterMap_some

theorem Reads.inner {line : Line} {f : Field} (reads : Reads line f) :
    SourceBlock.IsInner line.text := by
  refine ⟨reads.oneLine, reads.unmarked, fun closes => ?_⟩
  have nothing : Field.read? ['\x7d'] = none := by decide
  have found : Field.read? (SourceBlock.bare line.text) = some f := reads.read
  rw [closes, nothing] at found
  exact absurd found (by simp)

theorem inner_of_reads {lines : List Line} {fields : List Field}
    (reads : List.Forall₂ Reads lines fields) : ∀ line ∈ lines, SourceBlock.IsInner line.text := by
  intro line member
  obtain ⟨_, _, found⟩ := Counterparts.of_mem reads line member
  exact found.inner

end Line

namespace Diagram

/-- What a relation puts at the entity with an id: some of it as the source, given the model of the
target, and some of it as the target, given the model of the source. -/
def atEnds {α : Type} (atSource atTarget : Cardinality → Text → List α) (d : Diagram) (id : Text)
    (r : Relation) : List α :=
  let c := (Cardinality.ofText? r.type).getD .manyToMany
  (if r.source = id then atSource c (d.nameOf r.target) else []) ++
    (if r.target = id then atTarget c (d.nameOf r.source) else [])

def linesAt : Diagram → Text → Relation → List Line :=
  atEnds (fun c model => (c.lines model model).1) (fun c model => (c.lines model model).2)

def fieldsAt : Diagram → Text → Relation → List Field :=
  atEnds (fun c model => (c.sourceKeys model).map Attribute.field ++ [c.sourceLink model])
    (fun c model => (c.targetKeys model).map Attribute.field ++ [c.targetLink model])

theorem mem_atEnds {α : Type} {atSource atTarget : Cardinality → Text → List α} {d : Diagram}
    {id : Text} {r : Relation} {a : α} (member : a ∈ atEnds atSource atTarget d id r) :
    ∃ c, (r.source = id ∧ a ∈ atSource c (d.nameOf r.target)) ∨
      (r.target = id ∧ a ∈ atTarget c (d.nameOf r.source)) := by
  refine ⟨(Cardinality.ofText? r.type).getD .manyToMany, ?_⟩
  rcases List.mem_append.mp member with start | stop
  · by_cases here : r.source = id
    · rw [if_pos here] at start
      exact Or.inl ⟨here, start⟩
    · simp [here] at start
  · by_cases here : r.target = id
    · rw [if_pos here] at stop
      exact Or.inr ⟨here, stop⟩
    · simp [here] at stop

def writtenAttributes (e : Entity) : List Attribute := e.attributes.filter fun a => !a.isIdentity

def allFields (d : Diagram) (e : Entity) : List Field :=
  Line.identityField :: ((writtenAttributes e).map Attribute.field
    ++ d.relations.flatMap (d.fieldsAt e.id))

def model (d : Diagram) (e : Entity) : Model := ⟨e.modelName, (d.allFields e).eraseDups⟩

namespace Named

variable {d : Diagram} (named : d.Named)

include named

theorem atEnds_eq {α : Type} (atSource atTarget : Cardinality → Text → List α) {r : Relation}
    {s t : Entity} {c : Cardinality} (source : s ∈ d.entities) (target : t ∈ d.entities)
    (ends : r.source = s.id ∧ r.target = t.id ∧ r.type = c.text) (id : Text) :
    atEnds atSource atTarget d id r =
      (if s.id = id then atSource c t.modelName else []) ++
        (if t.id = id then atTarget c s.modelName else []) := by
  rw [atEnds, ends.1, ends.2.1, ends.2.2, Cardinality.ofText?_text, Option.getD_some,
    named.nameOf_member source, named.nameOf_member target]

theorem contributed_at {r : Relation} (member : r ∈ d.relations) (id : Text) :
    ((d.contributionsOf r).filter fun c => c.1 == id).map Prod.snd = d.linesAt id r := by
  obtain ⟨s, source, t, target, c, ends⟩ := named.relation_shape member
  have pair (end_ : Text) (lines : List Line) :
      ((lines.map (end_, ·)).filter fun c => c.1 == id).map Prod.snd =
        if end_ = id then lines else [] := by
    by_cases same : end_ = id
    · simp [List.filter_map, Function.comp_def, same]
    · simp [List.filter_map, Function.comp_def, same]
  have lines : r.lines s.modelName t.modelName =
      ((c.lines t.modelName t.modelName).1, (c.lines s.modelName s.modelName).2) := by
    unfold Relation.lines
    rw [ends.2.2, Cardinality.ofText?_text]
    cases c <;> rfl
  rw [linesAt, named.atEnds_eq _ _ source target ends, contributionsOf, ends.1, ends.2.1,
    named.modelName_of_member source, named.modelName_of_member target]
  dsimp only
  rw [lines]
  simp only [List.filter_append, List.map_append, pair]

theorem contributedLines_eq (id : Text) :
    d.contributedLines id = d.relations.flatMap (d.linesAt id) := by
  rw [contributedLines, List.filter_flatMap, List.map_flatMap]
  exact List.flatMap_congr fun r member => named.contributed_at member id

theorem lines_read {r : Relation} (member : r ∈ d.relations) (id : Text) :
    List.Forall₂ Line.Reads (d.linesAt id r) (d.fieldsAt id r) := by
  obtain ⟨s, source, t, target, c, ends⟩ := named.relation_shape member
  rw [linesAt, fieldsAt, named.atEnds_eq _ _ source target ends,
    named.atEnds_eq _ _ source target ends]
  refine List.rel_append ?_ ?_
  · split
    · exact Cardinality.source_lines_read (named.model_identifier target) c
    · exact .nil
  · split
    · exact Cardinality.target_lines_read (named.model_identifier source) c
    · exact .nil

theorem blocks_eq : d.blocks = d.entities.map d.block := blocks_of_distinct named.distinctIds

end Named

namespace Legible

variable {d : Diagram} (legible : d.Legible)

include legible

theorem block_reads {e : Entity} (member : e ∈ d.entities) :
    List.Forall₂ Line.Reads (Line.identity :: e.attributeLines ++ d.contributedLines e.id)
      (d.allFields e) := by
  rw [legible.contributedLines_eq]
  refine .cons Line.identity_reads (List.rel_append ?_ ?_)
  · show List.Forall₂ Line.Reads ((writtenAttributes e).map Attribute.line) _
    rw [List.forall₂_map_left_iff, List.forall₂_map_right_iff, List.forall₂_same]
    intro a written
    have inside := (List.mem_filter.mp written).1
    exact Attribute.line_reads (isName_of_identifier (legible.attributeNamed e member a inside))
      (legible.plainDefault e member a inside)
  · exact Counterparts.flatMap fun r known => legible.lines_read known e.id

theorem all_models : Model.all (d.schema {}) = d.entities.map d.model := by
  have isName : ∀ b ∈ d.blocks, b.name.IsName := by
    rw [legible.blocks_eq]
    intro b member
    obtain ⟨e, known, rfl⟩ := List.mem_map.mp member
    exact isName_of_identifier (legible.model_identifier known)
  have distinct : (d.blocks.map Block.name).Nodup := by
    rw [legible.blocks_eq, List.map_map]
    exact legible.distinctModels
  have inner : ∀ b ∈ d.blocks, ∀ line ∈ b.lines, SourceBlock.IsInner line := by
    rw [legible.blocks_eq]
    intro b member line inside
    obtain ⟨e, known, rfl⟩ := List.mem_map.mp member
    obtain ⟨source, written, rfl⟩ := List.mem_map.mp (List.mem_eraseDups.mp inside)
    exact Line.inner_of_reads (legible.block_reads known) source written
  rw [Model.all_schema isName distinct inner, legible.blocks_eq, List.map_map]
  refine List.map_congr_left fun e member => ?_
  show Model.mk e.modelName _ = _
  rw [block, Line.fields_of_lines (legible.block_reads member)]
  rfl

end Legible
end Diagram
end DiagramSchema
