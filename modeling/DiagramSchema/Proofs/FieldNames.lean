import DiagramSchema.Proofs.MutualFields
import DiagramSchema.Proofs.RelationFields

/-! Names of fields in the blocks of schema text. An entity plays roles towards the entities it is
related to, and each role gives it fields whose names are made from the name of a model. Lines are told
apart as a whole, so two fields of a block have one name where roles or names clash, and only there. -/
namespace DiagramSchema
open Text

namespace Naming

theorem manyField_last (model : Text) : (manyField model).getLast? = some 's' := by
  unfold manyField plural
  split
  · rfl
  · split
    · exact List.getLast?_append_of_ne_nil _ (by decide)
    · exact List.getLast?_concat

theorem manyField_ne_id (model : Text) : manyField model ≠ "id" := by
  intro same
  have last := manyField_last model
  rw [same] at last
  exact absurd last (by decide)

theorem manyField_ne_keyField (model other : Text) : manyField model ≠ keyField other := by
  intro same
  have last : (keyField other).getLast? = some 'd' := List.getLast?_append_of_ne_nil _ (by decide)
  rw [← same, manyField_last] at last
  exact absurd last (by decide)

theorem capitalized_append {s : Text} (nonempty : s ≠ []) (t : Text) :
    capitalized (s ++ t) = capitalized s ++ t := by
  cases s with
  | nil => exact absurd rfl nonempty
  | cons c rest => exact (List.append_assoc _ _ _).symm

theorem uncapitalized_append {s : Text} (nonempty : s ≠ []) (t : Text) :
    uncapitalized (s ++ t) = uncapitalized s ++ t := by
  cases s with
  | nil => exact absurd rfl nonempty
  | cons c rest => exact (List.append_assoc _ _ _).symm

structure IsModelName (model : Text) : Prop where
  identifier : isIdentifier model = true
  capital : capitalized model = model

namespace IsModelName

variable {model other : Text} (name : IsModelName model) (otherName : IsModelName other)

include name

theorem capitalized_back : capitalized (uncapitalized model) = model := by
  rw [capitalized_uncapitalized name.identifier, name.capital]

theorem uncapitalized_eq_id_iff : uncapitalized model = "id" ↔ model = "Id" := by
  constructor
  · intro same
    rw [← name.capitalized_back, same]
    decide
  · rintro rfl
    decide

include otherName

theorem uncapitalized_eq_iff : uncapitalized model = uncapitalized other ↔ model = other := by
  constructor
  · intro same
    rw [← name.capitalized_back, same, otherName.capitalized_back]
  · exact congrArg uncapitalized

theorem keyField_eq_iff : keyField model = keyField other ↔ model = other := by
  rw [keyField, keyField, List.append_left_inj]
  exact name.uncapitalized_eq_iff otherName

theorem keyField_eq_uncapitalized_iff :
    keyField model = uncapitalized other ↔ other = model ++ "Id" := by
  have nonempty := (isName_of_identifier name.identifier).1
  have small := (isName_of_identifier (uncapitalized_identifier name.identifier)).1
  constructor
  · intro same
    rw [← otherName.capitalized_back, ← same, keyField, capitalized_append small,
      name.capitalized_back]
  · rintro rfl
    rw [uncapitalized_append nonempty, keyField]

end IsModelName
end Naming

namespace Role

def IsSingle (role : Role) : Prop := role ≠ many

theorem keys_name {model : Text} {role : Role} {x : Field} (key : x ∈ role.keys model) :
    x.name = Naming.keyField model := by
  cases role with
  | keyed isOptional =>
    obtain rfl := List.mem_singleton.mp key
    rfl
  | many | opposite => exact absurd key List.not_mem_nil

theorem link_type (model : Text) (role : Role) : (role.link model).type = model := by
  cases role <;> rfl

theorem link_single {role : Role} (single : role.IsSingle) (model : Text) :
    (role.link model).name = Naming.uncapitalized model ∧ (role.link model).isList = false := by
  cases role with
  | many => exact absurd rfl single
  | keyed isOptional => exact ⟨rfl, rfl⟩
  | opposite => exact ⟨rfl, rfl⟩

theorem keyed_decorated {model : Text} (name : isIdentifier model = true) (isOptional : Bool) :
    ((keyed isOptional).link model).decorators ≠ [] := by
  intro none
  have spaced := (Line.tidy_follows (isName_of_identifier (Naming.keyField_identifier name))).spaced
  have trimmed : trim (Line.tail [Line.follows (Naming.keyField model)]) = [] := none
  rw [trimmed] at spaced
  exact List.cons_ne_nil _ _ (spaced.trans (if_pos rfl))

theorem link_injective {model : Text} (name : isIdentifier model = true) {first second : Role}
    (same : first.link model = second.link model) : first = second := by
  have lists : (first.link model).isList = (second.link model).isList := congrArg Field.isList same
  have marks : (first.link model).isOptional = (second.link model).isOptional :=
    congrArg Field.isOptional same
  have decorators : (first.link model).decorators = (second.link model).decorators :=
    congrArg Field.decorators same
  cases first with
  | many =>
    cases second with
    | many => rfl
    | keyed isOptional => exact absurd lists.symm Bool.false_ne_true
    | opposite => exact absurd lists.symm Bool.false_ne_true
  | keyed isOptional =>
    cases second with
    | many => exact absurd lists Bool.false_ne_true
    | keyed isOther => exact congrArg keyed marks
    | opposite => exact absurd decorators (keyed_decorated name isOptional)
  | opposite =>
    cases second with
    | many => exact absurd lists Bool.false_ne_true
    | keyed isOptional => exact absurd decorators.symm (keyed_decorated name isOptional)
    | opposite => rfl

end Role

namespace Line

theorem Reads.unique {line : Line} {f g : Field} (first : Reads line f) (second : Reads line g) :
    f = g :=
  Option.some.inj (first.read.symm.trans second.read)

theorem mem_fields_iff {lines : List Line} {fields : List Field}
    (reads : List.Forall₂ Reads lines fields) {f : Field} :
    f ∈ fields ↔ ∃ line ∈ lines, Reads line f := by
  constructor
  · intro member
    exact Counterparts.of_mem reads.flip f member
  · rintro ⟨line, inside, read⟩
    obtain ⟨g, member, also⟩ := Counterparts.of_mem reads line inside
    exact also.unique read ▸ member

end Line

def Block.fieldNames (b : Block) : List Text := (b.lines.filterMap Field.ofLine?).map Field.name

namespace Diagram

/-- Entities without attributes, apart by their ids and by the names of their models, and relations of
known types between them. -/
structure Skeleton (d : Diagram) : Prop where
  distinctIds : (d.entities.map Entity.id).Nodup
  named : ∀ e ∈ d.entities, isIdentifier e.name = true
  distinctModels : (d.entities.map Entity.modelName).Nodup
  bare : ∀ e ∈ d.entities, e.attributes = []
  known : ∀ r ∈ d.relations, r.IsKnown
  joined : ∀ r ∈ d.relations, d.Joins r

instance (d : Diagram) : Decidable d.Skeleton :=
  decidable_of_iff
    ((d.entities.map Entity.id).Nodup ∧ (∀ e ∈ d.entities, isIdentifier e.name = true) ∧
      (d.entities.map Entity.modelName).Nodup ∧ (∀ e ∈ d.entities, e.attributes = []) ∧
      (∀ r ∈ d.relations, r.IsKnown) ∧ ∀ r ∈ d.relations, d.Joins r)
    ⟨fun ⟨ids, names, models, bare, known, joined⟩ => ⟨ids, names, models, bare, known, joined⟩,
      fun s => ⟨s.distinctIds, s.named, s.distinctModels, s.bare, s.known, s.joined⟩⟩

/-- An entity plays a role towards another, by some relation of the diagram. -/
def Plays (d : Diagram) (e : Entity) (role : Role) (f : Entity) : Prop :=
  ∃ r ∈ d.relations, ∃ c, Cardinality.ofText? r.type = some c ∧
    (r.source = e.id ∧ r.target = f.id ∧ role = c.roles.1 ∨
      r.target = e.id ∧ r.source = f.id ∧ role = c.roles.2)

/-- No names clash among the fields of an entity. It leads to one of another entity in one way at most,
and none that it leads to has a name that makes the name of another field: the identity, the key of an
entity, or the plural for an entity that it has many of. The plurals differ. -/
structure IsClear (d : Diagram) (e : Entity) : Prop where
  oneWay : ∀ f ∈ d.entities, ∀ first second, d.Plays e first f → d.Plays e second f →
    first.IsSingle → second.IsSingle → first = second
  noId : ∀ f ∈ d.entities, ∀ role, d.Plays e role f → role.IsSingle → f.modelName ≠ "Id"
  noKey : ∀ f ∈ d.entities, ∀ g ∈ d.entities, ∀ isOptional role, d.Plays e (.keyed isOptional) f →
    d.Plays e role g → role.IsSingle → g.modelName ≠ f.modelName ++ "Id"
  noPlural : ∀ f ∈ d.entities, ∀ g ∈ d.entities, ∀ role, d.Plays e .many f → d.Plays e role g →
    role.IsSingle → Naming.manyField f.modelName ≠ Naming.uncapitalized g.modelName
  plurals : ∀ f ∈ d.entities, ∀ g ∈ d.entities, d.Plays e .many f → d.Plays e .many g →
    Naming.manyField f.modelName = Naming.manyField g.modelName → f = g

def HasField (d : Diagram) (e : Entity) (x : Field) : Prop :=
  x = Line.identityField ∨ ∃ f ∈ d.entities, ∃ role, d.Plays e role f ∧
    x ∈ role.keys f.modelName ++ [role.link f.modelName]

namespace Skeleton

variable {d : Diagram} (skeleton : d.Skeleton)

include skeleton

theorem same_of_id {e f : Entity} (first : e ∈ d.entities) (second : f ∈ d.entities)
    (same : e.id = f.id) : e = f :=
  List.inj_on_of_nodup_map skeleton.distinctIds first second same

theorem same_of_model {e f : Entity} (first : e ∈ d.entities) (second : f ∈ d.entities)
    (same : e.modelName = f.modelName) : e = f :=
  List.inj_on_of_nodup_map skeleton.distinctModels first second same

theorem isModelName {e : Entity} (member : e ∈ d.entities) : Naming.IsModelName e.modelName :=
  ⟨Naming.capitalized_identifier (skeleton.named e member),
    Naming.capitalized_capitalized (skeleton.named e member)⟩

theorem contributions {r : Relation} (listed : r ∈ d.relations) :
    ∃ e ∈ d.entities, ∃ f ∈ d.entities, ∃ c, Cardinality.ofText? r.type = some c ∧
      e.id = r.source ∧ f.id = r.target ∧ d.contributionsOf r =
        (c.roles.1.lines f.modelName).map (e.id, ·) ++ (c.roles.2.lines e.modelName).map (f.id, ·) := by
  obtain ⟨c, type⟩ := Relation.isKnown_iff.mp (skeleton.known r listed)
  obtain ⟨e, first, f, second, source, target, shape⟩ := ends_of_joins (skeleton.joined r listed)
  have lines : r.lines e.modelName f.modelName =
      (c.roles.1.lines f.modelName, c.roles.2.lines e.modelName) := by
    rw [← c.lines_roles, Relation.lines, type]
  rw [lines] at shape
  exact ⟨e, mem_of_mem_latestByKey first, f, mem_of_mem_latestByKey second, c, type, source, target,
    shape⟩

theorem mem_contributedLines_iff {e : Entity} (member : e ∈ d.entities) {line : Line} :
    line ∈ d.contributedLines e.id ↔
      ∃ f ∈ d.entities, ∃ role, d.Plays e role f ∧ line ∈ role.lines f.modelName := by
  have listed : line ∈ d.contributedLines e.id ↔
      ∃ r ∈ d.relations, (e.id, line) ∈ d.contributionsOf r := by
    simp [contributedLines]
  rw [listed]
  constructor
  · rintro ⟨r, inside, contributed⟩
    obtain ⟨s, source, t, target, c, type, atSource, atTarget, shape⟩ :=
      skeleton.contributions inside
    rw [shape] at contributed
    rcases List.mem_append.mp contributed with start | stop
    · obtain ⟨_, given, same⟩ := List.mem_map.mp start
      obtain ⟨own, rfl⟩ := Prod.mk.inj same
      exact ⟨t, target, c.roles.1,
        ⟨r, inside, c, type, Or.inl ⟨atSource.symm.trans own, atTarget.symm, rfl⟩⟩, given⟩
    · obtain ⟨_, given, same⟩ := List.mem_map.mp stop
      obtain ⟨own, rfl⟩ := Prod.mk.inj same
      exact ⟨s, source, c.roles.2,
        ⟨r, inside, c, type, Or.inr ⟨atTarget.symm.trans own, atSource.symm, rfl⟩⟩, given⟩
  · rintro ⟨f, within, role, ⟨r, inside, c, type, plays⟩, given⟩
    refine ⟨r, inside, ?_⟩
    obtain ⟨s, source, t, target, c', type', atSource, atTarget, shape⟩ :=
      skeleton.contributions inside
    obtain rfl := Option.some.inj (type.symm.trans type')
    rw [shape]
    rcases plays with ⟨own, other, rfl⟩ | ⟨own, other, rfl⟩
    · obtain rfl := skeleton.same_of_id source member (atSource.trans own)
      obtain rfl := skeleton.same_of_id target within (atTarget.trans other)
      exact List.mem_append_left _ (List.mem_map_of_mem given)
    · obtain rfl := skeleton.same_of_id target member (atTarget.trans own)
      obtain rfl := skeleton.same_of_id source within (atSource.trans other)
      exact List.mem_append_right _ (List.mem_map_of_mem given)

theorem block_fields {e : Entity} (member : e ∈ d.entities) : ∃ fields,
    List.Forall₂ Line.Reads (Line.identity :: e.attributeLines ++ d.contributedLines e.id) fields ∧
      ∀ x, x ∈ fields ↔ d.HasField e x := by
  have noLines : e.attributeLines = [] := by
    rw [Entity.attributeLines, skeleton.bare e member]
    rfl
  have roleReads {f : Entity} (within : f ∈ d.entities) (role : Role) :=
    role.lines_read (skeleton.isModelName within).identifier
  rw [noLines]
  obtain ⟨fields, reads⟩ := Counterparts.exists_iff.mpr fun line (inside : line ∈
      Line.identity :: [] ++ d.contributedLines e.id) => show ∃ x, Line.Reads line x by
    rcases List.mem_cons.mp inside with rfl | contributed
    · exact ⟨_, Line.identity_reads⟩
    · obtain ⟨f, within, role, -, given⟩ := (skeleton.mem_contributedLines_iff member).mp contributed
      obtain ⟨x, -, read⟩ := Counterparts.of_mem (roleReads within role) line given
      exact ⟨x, read⟩
  refine ⟨fields, reads, fun x => ?_⟩
  rw [Line.mem_fields_iff reads]
  constructor
  · rintro ⟨line, inside, read⟩
    rcases List.mem_cons.mp inside with rfl | contributed
    · exact Or.inl (read.unique Line.identity_reads)
    · obtain ⟨f, within, role, plays, given⟩ :=
        (skeleton.mem_contributedLines_iff member).mp contributed
      exact Or.inr ⟨f, within, role, plays,
        (Line.mem_fields_iff (roleReads within role)).mpr ⟨line, given, read⟩⟩
  · rintro (rfl | ⟨f, within, role, plays, given⟩)
    · exact ⟨_, List.mem_cons_self, Line.identity_reads⟩
    · obtain ⟨line, inside, read⟩ := (Line.mem_fields_iff (roleReads within role)).mp given
      exact ⟨line, List.mem_cons_of_mem _
        ((skeleton.mem_contributedLines_iff member).mpr ⟨f, within, role, plays, inside⟩), read⟩

theorem nodup_fieldNames_iff {e : Entity} (member : e ∈ d.entities) :
    (d.block e).fieldNames.Nodup ↔
      ∀ x y, d.HasField e x → d.HasField e y → x.name = y.name → x = y := by
  obtain ⟨fields, reads, members⟩ := skeleton.block_fields member
  have names : (d.block e).fieldNames = fields.eraseDups.map Field.name :=
    congrArg (List.map Field.name) (Line.fields_of_lines reads)
  rw [names, List.nodup_map_iff_inj_on (Distinct.nodup_eraseDups fields)]
  simp only [List.mem_eraseDups, members]
  exact ⟨fun apart x y first second => apart x first y second,
    fun apart x first y second => apart x y first second⟩

end Skeleton

namespace IsClear

variable {d : Diagram} (skeleton : d.Skeleton) {e f g : Entity} (clear : d.IsClear e)
  (first : f ∈ d.entities) (second : g ∈ d.entities) {role other : Role}
  (plays : d.Plays e role f) (playsOther : d.Plays e other g)

include skeleton clear first plays

theorem link_ne_id : (role.link f.modelName).name ≠ "id" := by
  intro same
  by_cases many : role = .many
  · subst many
    exact Naming.manyField_ne_id f.modelName same
  · rw [(Role.link_single many _).1, (skeleton.isModelName first).uncapitalized_eq_id_iff] at same
    exact clear.noId f first role plays many same

include second playsOther

theorem link_same (same : (role.link f.modelName).name = (other.link g.modelName).name) :
    role.link f.modelName = other.link g.modelName := by
  by_cases many : role = .many
  · subst many
    by_cases alike : other = .many
    · subst alike
      rw [clear.plurals f first g second plays playsOther same]
    · rw [(Role.link_single alike _).1] at same
      exact absurd same (clear.noPlural f first g second other plays playsOther alike)
  · rw [(Role.link_single many _).1] at same
    by_cases alike : other = .many
    · subst alike
      exact absurd same.symm (clear.noPlural g second f first role playsOther plays many)
    · rw [(Role.link_single alike _).1, (skeleton.isModelName first).uncapitalized_eq_iff
        (skeleton.isModelName second)] at same
      obtain rfl := skeleton.same_of_model first second same
      rw [clear.oneWay f first role other plays playsOther many alike]

theorem key_ne_link {x : Field} (key : x ∈ role.keys f.modelName) :
    x.name ≠ (other.link g.modelName).name := by
  cases role with
  | keyed isOptional =>
    obtain rfl := List.mem_singleton.mp key
    intro same
    by_cases many : other = .many
    · subst many
      exact Naming.manyField_ne_keyField _ _ same.symm
    · rw [(Role.link_single many _).1] at same
      exact clear.noKey f first g second isOptional other plays playsOther many
        (((skeleton.isModelName first).keyField_eq_uncapitalized_iff
          (skeleton.isModelName second)).mp same)
  | many | opposite => exact absurd key List.not_mem_nil

theorem key_same {x y : Field} (key : x ∈ role.keys f.modelName) (also : y ∈ other.keys g.modelName)
    (same : x.name = y.name) : x = y := by
  cases role with
  | keyed isOptional =>
    cases other with
    | keyed isOther =>
      obtain rfl := List.mem_singleton.mp key
      obtain rfl := List.mem_singleton.mp also
      obtain rfl := skeleton.same_of_model first second
        (((skeleton.isModelName first).keyField_eq_iff (skeleton.isModelName second)).mp same)
      obtain alike := clear.oneWay f first _ _ plays playsOther nofun nofun
      rw [Role.keyed.inj alike]
    | many | opposite => exact absurd also List.not_mem_nil
  | many | opposite => exact absurd key List.not_mem_nil

end IsClear

namespace Skeleton

variable {d : Diagram} (skeleton : d.Skeleton) {e : Entity}

include skeleton

theorem apart_of_clear (clear : d.IsClear e) {x y : Field} (first : d.HasField e x)
    (second : d.HasField e y) (same : x.name = y.name) : x = y := by
  -- no field of a role has the name of the identity
  have notId {z : Field} {f : Entity} (member : f ∈ d.entities) {role : Role}
      (plays : d.Plays e role f) (given : z ∈ role.keys f.modelName ++ [role.link f.modelName]) :
      z.name ≠ "id" := by
    rcases List.mem_append.mp given with key | link
    · rw [Role.keys_name key]
      exact Naming.keyField_ne_id (skeleton.isModelName member).identifier
    · obtain rfl := List.mem_singleton.mp link
      exact clear.link_ne_id skeleton member plays
  rcases first with rfl | ⟨f, atFirst, role, plays, given⟩
  · rcases second with rfl | ⟨g, atSecond, other, playsOther, also⟩
    · rfl
    · exact absurd same.symm (notId atSecond playsOther also)
  · rcases second with rfl | ⟨g, atSecond, other, playsOther, also⟩
    · exact absurd same (notId atFirst plays given)
    · rcases List.mem_append.mp given with key | link
      · rcases List.mem_append.mp also with otherKey | otherLink
        · exact clear.key_same skeleton atFirst atSecond plays playsOther key otherKey same
        · obtain rfl := List.mem_singleton.mp otherLink
          exact absurd same (clear.key_ne_link skeleton atFirst atSecond plays playsOther key)
      · obtain rfl := List.mem_singleton.mp link
        rcases List.mem_append.mp also with otherKey | otherLink
        · exact absurd same.symm
            (clear.key_ne_link skeleton atSecond atFirst playsOther plays otherKey)
        · obtain rfl := List.mem_singleton.mp otherLink
          exact clear.link_same skeleton atFirst atSecond plays playsOther same

theorem clear_of_apart
    (apart : ∀ x y, d.HasField e x → d.HasField e y → x.name = y.name → x = y) : d.IsClear e := by
  have link {f : Entity} (member : f ∈ d.entities) {role : Role} (plays : d.Plays e role f) :
      d.HasField e (role.link f.modelName) := Or.inr ⟨f, member, role, plays, by simp⟩
  constructor
  case oneWay =>
    intro f member first second plays playsOther single also
    have same := apart _ _ (link member plays) (link member playsOther)
      ((Role.link_single single _).1.trans (Role.link_single also _).1.symm)
    exact Role.link_injective (skeleton.isModelName member).identifier same
  case noId =>
    rintro f member role plays single named
    have name : (role.link f.modelName).name = Line.identityField.name := by
      rw [(Role.link_single single _).1]
      exact (skeleton.isModelName member).uncapitalized_eq_id_iff.mpr named
    have type := congrArg Field.type (apart _ _ (link member plays) (Or.inl rfl) name)
    rw [Role.link_type, named] at type
    exact absurd type (by decide)
  case noKey =>
    intro f first g second isOptional role plays playsOther single named
    have key : d.HasField e (Attribute.key f.modelName !isOptional).field :=
      Or.inr ⟨f, first, .keyed isOptional, plays, List.mem_cons_self⟩
    have name : (Attribute.key f.modelName !isOptional).field.name =
        (role.link g.modelName).name := by
      rw [(Role.link_single single _).1]
      exact ((skeleton.isModelName first).keyField_eq_uncapitalized_iff
        (skeleton.isModelName second)).mpr named
    have type : "String" = g.modelName :=
      (congrArg Field.type (apart _ _ key (link second playsOther) name)).trans
        (Role.link_type g.modelName role)
    have last : (f.modelName ++ "Id").getLast? = some 'd' :=
      List.getLast?_append_of_ne_nil _ (by decide)
    rw [← named, ← type] at last
    exact absurd last (by decide)
  case noPlural =>
    intro f first g second role plays playsOther single named
    have name : (Role.many.link f.modelName).name = (role.link g.modelName).name :=
      named.trans (Role.link_single single _).1.symm
    have isList := congrArg Field.isList (apart _ _ (link first plays) (link second playsOther) name)
    rw [(Role.link_single single _).2] at isList
    exact absurd isList.symm Bool.false_ne_true
  case plurals =>
    intro f first g second plays playsOther named
    have same := apart _ _ (link first plays) (link second playsOther) named
    exact skeleton.same_of_model first second (congrArg Field.type same)

/-- Every line of a block is a field. No two of them have one name if and only if no names clash. -/
theorem fieldNames_apart_iff (member : e ∈ d.entities) : d.block e ∈ d.blocks ∧
    (∀ line ∈ (d.block e).lines, (Field.ofLine? line).isSome) ∧
    ((d.block e).fieldNames.Nodup ↔ d.IsClear e) := by
  refine ⟨?_, ?_, ?_⟩
  · rw [blocks_of_distinct skeleton.distinctIds]
    exact List.mem_map_of_mem member
  · intro line inside
    obtain ⟨fields, reads, -⟩ := skeleton.block_fields member
    obtain ⟨source, written, rfl⟩ := List.mem_map.mp (List.mem_eraseDups.mp inside)
    obtain ⟨f, -, read⟩ := Counterparts.of_mem reads source written
    rw [read.read]
    rfl
  · rw [skeleton.nodup_fieldNames_iff member]
    exact ⟨skeleton.clear_of_apart, fun clear _ _ => skeleton.apart_of_clear clear⟩

end Skeleton

def studio : Diagram where
  entities := [{ id := "1", name := "artist" }, { id := "2", name := "Work" }, { id := "3", name := "Room" }]
  relations :=
    [ { id := "r", source := "1", target := "2", type := "1-m" },
      { id := "s", source := "1", target := "3", type := "1-1" },
      { id := "t", source := "2", target := "3", type := "m-n" },
      { id := "u", source := "1", target := "1", type := "m-1" } ]

theorem studio_apart : studio.Skeleton ∧ ({ id := "1", name := "artist" } : Entity) ∈ studio.entities ∧
    (studio.block { id := "1", name := "artist" }).fieldNames =
      ["id", "works", "roomId", "room", "artists"] ∧
    studio.IsClear { id := "1", name := "artist" } := by
  have skeleton : studio.Skeleton := by decide
  have member : ({ id := "1", name := "artist" } : Entity) ∈ studio.entities := by decide
  have names : (studio.block { id := "1", name := "artist" }).fieldNames =
      ["id", "works", "roomId", "room", "artists"] := by decide
  have apart : (studio.block { id := "1", name := "artist" }).fieldNames.Nodup := by
    rw [names]
    decide
  exact ⟨skeleton, member, names, (skeleton.fieldNames_apart_iff member).2.2.mp apart⟩

/-- A diagram of entities with the given names, of which the first has relations of the given types to
those at the given places. -/
def starred (names : List Text) (relations : List (Text × Text)) : Diagram where
  entities := names.zipIdx.map fun (name, i) => { id := Text.ofNat i, name := name }
  relations := relations.map fun (target, type) => { id := "r", source := "0", target := target, type := type }

/-- Names clash in each way: one entity in two roles, and names that make the identity, a key or a plural. -/
theorem starred_clash :
    List.Forall (fun d : Diagram => d.Skeleton ∧ ¬∀ b ∈ d.blocks, b.fieldNames.Nodup)
      [ starred ["Page"] [("0", "1-1")],
        starred ["Note", "id"] [("1", "1-1")],
        starred ["Note", "User", "UserId"] [("1", "1-1"), ("2", "1-1")],
        starred ["Note", "Task", "Tasks"] [("1", "1-m"), ("2", "1-1")],
        starred ["Stop", "Bus", "Buse"] [("1", "1-m"), ("2", "1-m")] ] := by
  decide

end Diagram
end DiagramSchema
