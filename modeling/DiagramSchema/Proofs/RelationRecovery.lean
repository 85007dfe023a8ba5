import DiagramSchema.Proofs.RelationFields

/-! The relations that come back from the schema text of a legible diagram. Both ends of a relation
link each other. The end that is listed first gives the relation that comes back, and so its
direction and its cardinality as seen from that end. -/
namespace DiagramSchema
open Text

def Relation.between (source target : Text) (c : Cardinality) : Relation :=
  ⟨source ++ "-" ++ target, source, target, c.text⟩

namespace Cardinality

def atSource (c : Cardinality) : Cardinality := if c = .oneToOne then .oneToOne else .oneToMany

def atTarget : Cardinality → Cardinality
  | .oneToOne | .oneToMany => .oneToOne
  | .manyToOne | .manyToMany => .oneToMany

theorem key_of_sourceKeys {c : Cardinality} {model : Text} {a : Attribute}
    (member : a ∈ c.sourceKeys model) : a = Attribute.key model false := by
  cases c <;> simp_all [sourceKeys]

theorem key_of_targetKeys {c : Cardinality} {model : Text} {a : Attribute}
    (member : a ∈ c.targetKeys model) : a = Attribute.key model true := by
  cases c <;> simp_all [targetKeys]

theorem sourceLink_type (c : Cardinality) (model : Text) : (c.sourceLink model).type = model := by
  cases c <;> rfl

theorem targetLink_type (c : Cardinality) (model : Text) : (c.targetLink model).type = model := by
  cases c <;> rfl

theorem sourceLink_relation (c : Cardinality) (model : Text) (m : Model) :
    m.relation (c.sourceLink model) = Relation.between m.name model c.atSource := by
  cases c <;> rfl

theorem targetLink_relation (c : Cardinality) (model : Text) (m : Model) :
    m.relation (c.targetLink model) = Relation.between m.name model c.atTarget := by
  cases c <;> rfl

end Cardinality

theorem Field.filter_end {p : Field → Bool} {keys : List Attribute} {link : Field}
    (scalar : ∀ a ∈ keys, p a.field = false) (linked : p link = true) :
    (keys.map Attribute.field ++ [link]).filter p = [link] ∧
      (keys.map Attribute.field ++ [link]).filter (fun f => !p f) = keys.map Attribute.field := by
  have none : (keys.map Attribute.field).filter p = [] := by
    rw [List.filter_eq_nil_iff]
    intro f member
    obtain ⟨a, inside, rfl⟩ := List.mem_map.mp member
    simp [scalar a inside]
  have all : (keys.map Attribute.field).filter (fun f => !p f) = keys.map Attribute.field := by
    rw [List.filter_eq_self]
    intro f member
    obtain ⟨a, inside, rfl⟩ := List.mem_map.mp member
    simp [scalar a inside]
  simp [List.filter_append, none, all, linked]

namespace Diagram

def forward (d : Diagram) (r : Relation) : Bool := d.place r.source ≤ d.place r.target

def firstEnd (d : Diagram) (r : Relation) : Text := if d.forward r then r.source else r.target

def readBack (d : Diagram) (r : Relation) : Relation :=
  let c := (Cardinality.ofText? r.type).getD .manyToMany
  if d.forward r then Relation.between (d.nameOf r.source) (d.nameOf r.target) c.atSource
  else Relation.between (d.nameOf r.target) (d.nameOf r.source) c.atTarget

def relationsBack (d : Diagram) : List Relation :=
  d.entities.flatMap fun e => (d.relations.filter fun r => d.firstEnd r == e.id).map d.readBack

def linksAt (d : Diagram) (id : Text) : Relation → List Relation :=
  atEnds (fun c model => [Relation.between (d.nameOf id) model c.atSource])
    (fun c model => [Relation.between (d.nameOf id) model c.atTarget]) d id

def keysAt : Diagram → Text → Relation → List Attribute :=
  atEnds Cardinality.sourceKeys Cardinality.targetKeys

theorem mem_linksAt {d : Diagram} {id : Text} {r l : Relation} (member : l ∈ d.linksAt id r) :
    l.source = d.nameOf id ∧ ((r.source = id ∧ l.target = d.nameOf r.target) ∨
      (r.target = id ∧ l.target = d.nameOf r.source)) := by
  obtain ⟨c, ⟨here, start⟩ | ⟨here, stop⟩⟩ := mem_atEnds member
  · obtain rfl := List.mem_singleton.mp start
    exact ⟨rfl, Or.inl ⟨here, rfl⟩⟩
  · obtain rfl := List.mem_singleton.mp stop
    exact ⟨rfl, Or.inr ⟨here, rfl⟩⟩

theorem links_both (d : Diagram) (r : Relation) :
    (∃ l ∈ d.linksAt r.source r, l.target = d.nameOf r.target) ∧
      ∃ l ∈ d.linksAt r.target r, l.target = d.nameOf r.source := by
  constructor
  · exact ⟨_, List.mem_append_left _ (by rw [if_pos rfl]; exact List.mem_singleton_self _), rfl⟩
  · exact ⟨_, List.mem_append_right _ (by rw [if_pos rfl]; exact List.mem_singleton_self _), rfl⟩

theorem samePair_of_mem_linksAt {d : Diagram} {id : Text} {r l : Relation}
    (member : l ∈ d.linksAt id r) :
    l.samePair { r with source := d.nameOf r.source, target := d.nameOf r.target } = true := by
  obtain ⟨source, ⟨here, target⟩ | ⟨here, target⟩⟩ := mem_linksAt member
  · exact Relation.samePair_iff.mpr (Or.inl ⟨by rw [source, here], target⟩)
  · exact Relation.samePair_iff.mpr (Or.inr ⟨by rw [source, here], target⟩)

def modelPlace (d : Diagram) (name : Text) : Nat := (d.entities.map Entity.modelName).idxOf name

def isFirst (d : Diagram) (link : Relation) : Bool :=
  d.modelPlace link.source ≤ d.modelPlace link.target

theorem idxOf_map {α β : Type} [DecidableEq α] [BEq β] [LawfulBEq β] {f : α → β} {l : List α}
    (distinct : (l.map f).Nodup) {a : α} (member : a ∈ l) :
    (l.map f).idxOf (f a) = l.idxOf a := by
  induction l with
  | nil => simp at member
  | cons b rest ih =>
    obtain ⟨apart, later⟩ := List.nodup_cons.mp distinct
    rcases List.mem_cons.mp member with rfl | inside
    · rw [List.map_cons, List.idxOf_cons_self, List.idxOf_cons_self]
    · have differs : f b ≠ f a := fun same => apart (same ▸ List.mem_map_of_mem inside)
      have other : b ≠ a := fun same => differs (by rw [same])
      rw [List.map_cons, List.idxOf_cons, List.idxOf_cons, beq_false_of_ne differs,
        beq_false_of_ne other, ih later inside]

/-- Links of entities, each with one back from the entity that it leads to. -/
structure LinksBack (d : Diagram) (links : Entity → List Relation) : Prop where
  distinct : (d.entities.map Entity.modelName).Nodup
  own : ∀ e ∈ d.entities, ∀ l ∈ links e, l.source = e.modelName
  back : ∀ e ∈ d.entities, ∀ l ∈ links e,
    ∃ f ∈ d.entities, l.target = f.modelName ∧ ∃ k ∈ links f, k.target = e.modelName

def isNew (done : List Entity) (link : Relation) : Bool :=
  !(done.map Entity.modelName).contains link.target

theorem isNew_iff {done : List Entity} {link : Relation} :
    isNew done link = true ↔ link.target ∉ done.map Entity.modelName := by
  rw [isNew, Bool.not_eq_true', ← Bool.not_eq_true, List.contains_iff_mem]

namespace LinksBack

variable {d : Diagram} {links : Entity → List Relation} (linked : d.LinksBack links)
variable {done rest : List Entity} {e : Entity} (split : d.entities = done ++ e :: rest)

include linked split

theorem apart_done : e.modelName ∉ done.map Entity.modelName := by
  have distinct := linked.distinct
  rw [split, List.map_append, List.map_cons] at distinct
  exact fun inside => List.disjoint_of_nodup_append distinct inside (by simp)

theorem apart_later {f : Entity} (later : f ∈ rest) :
    f.modelName ≠ e.modelName ∧ f.modelName ∉ done.map Entity.modelName := by
  have distinct := linked.distinct
  rw [split, List.map_append, List.map_cons] at distinct
  have inside : f.modelName ∈ rest.map Entity.modelName := List.mem_map_of_mem later
  constructor
  · have tail := (List.nodup_append.mp distinct).2.1
    exact fun same => (List.nodup_cons.mp tail).1 (same ▸ inside)
  · intro early
    exact List.disjoint_of_nodup_append distinct early (List.mem_cons_of_mem _ inside)

theorem filter_new : (links e).filter (isNew done) = (links e).filter d.isFirst := by
  have member : e ∈ d.entities := by simp [split]
  have here : d.modelPlace e.modelName = done.length := by
    rw [modelPlace, split, List.map_append, List.map_cons,
      List.idxOf_append_of_notMem (linked.apart_done split), List.idxOf_cons_self, List.length_map,
      Nat.add_zero]
  refine List.filter_congr fun l inside => ?_
  rw [Bool.eq_iff_iff, isNew_iff, isFirst, linked.own e member l inside, here, decide_eq_true_iff,
    modelPlace, split, List.map_append, List.idxOf_append]
  split
  · rename_i earlier
    have less := List.idxOf_lt_length_of_mem earlier
    rw [List.length_map] at less
    simp [earlier, less]
  · rename_i later
    simp [later]

theorem pair_iff {f : Entity} (later : f ∈ rest) {b : Relation} (inside : b ∈ links f) :
    ((links e).filter (isNew done)).any (b.samePair ·) = true ↔ b.target = e.modelName := by
  have member : e ∈ d.entities := by simp [split]
  have known : f ∈ d.entities := by simp [split, later]
  have source := linked.own f known b inside
  obtain ⟨differs, fresh⟩ := linked.apart_later split later
  rw [List.any_eq_true]
  constructor
  · rintro ⟨l, within, pair⟩
    have start := linked.own e member l (List.mem_filter.mp within).1
    rcases Relation.samePair_iff.mp pair with ⟨same, _⟩ | ⟨_, same⟩
    · exact absurd (source.symm.trans (same.trans start)) differs
    · exact same.trans start
  · intro target
    obtain ⟨g, inGraph, ends, k, within, returns⟩ := linked.back f known b inside
    have same : g.modelName = e.modelName := ends.symm.trans target
    obtain rfl := List.inj_on_of_nodup_map linked.distinct inGraph member same
    refine ⟨k, List.mem_filter.mpr ⟨within, ?_⟩, ?_⟩
    · rw [isNew_iff, returns]
      exact fresh
    · exact Relation.samePair_iff.mpr
        (Or.inr ⟨source.trans returns.symm, target.trans (linked.own g member k within).symm⟩)

theorem filter_others : (((rest.flatMap links).filter (isNew done)).filter fun b =>
    !((links e).filter (isNew done)).any (b.samePair ·)) =
      (rest.flatMap links).filter (isNew (done ++ [e])) := by
  rw [List.filter_filter]
  refine List.filter_congr fun b inside => ?_
  obtain ⟨f, later, within⟩ := List.mem_flatMap.mp inside
  rw [Bool.eq_iff_iff, Bool.and_eq_true, Bool.not_eq_true', ← Bool.not_eq_true,
    linked.pair_iff split later within, isNew_iff, isNew_iff, List.map_append, List.mem_append]
  simp only [List.map_cons, List.map_nil, List.mem_singleton, not_or]
  exact and_comm

omit split in
/-- The links of entity after entity, each pair of models once, are those of the first end. -/
theorem first_links (split : d.entities = done ++ rest) :
    ((rest.flatMap links).filter (isNew done)).eraseDupsBy Relation.samePair =
      rest.flatMap fun e => ((links e).filter d.isFirst).eraseDupsBy Relation.samePair := by
  -- entity after entity: the links of one that is done rule out those that lead back to it
  induction rest generalizing done with
  | nil => rfl
  | cons e rest ih =>
    rw [List.flatMap_cons, List.filter_append, Distinct.eraseDupsBy_append Relation.samePair_trans,
      linked.filter_others split, ih (by simp [split]), linked.filter_new split, List.flatMap_cons]

end LinksBack

def isLink (d : Diagram) (f : Field) : Bool := Model.isNameAmong (d.entities.map d.model) f.type

def entityLinks (d : Diagram) (e : Entity) : List Relation :=
  ((d.model e).fields.filter (d.isLink ·)).map (d.model e).relation

theorem entityLinks_eq {d : Diagram} {e : Entity} : d.entityLinks e =
    (((d.allFields e).filter (d.isLink ·)).eraseDups).map (d.model e).relation := by
  show ((d.allFields e).eraseDups.filter _).map _ = _
  rw [Distinct.filter_eraseDups]

theorem isName_iff {d : Diagram} {type : Text} :
    Model.isNameAmong (d.entities.map d.model) type = true ↔
      ∃ e ∈ d.entities, e.modelName = type := by
  simp [Model.isNameAmong, model]

namespace Legible

variable {d : Diagram} (legible : d.Legible)

include legible

theorem scalar_not_model (type : ScalarType) :
    Model.isNameAmong (d.entities.map d.model) type.name = false := by
  rw [← Bool.not_eq_true, isName_iff]
  rintro ⟨e, member, same⟩
  have absent := legible.noScalar e member
  rw [same, ScalarType.ofName?_name] at absent
  exact absurd absent (by simp)

theorem fields_at {r : Relation} (member : r ∈ d.relations) {e : Entity} (known : e ∈ d.entities) :
    ((d.fieldsAt e.id r).filter (d.isLink ·)).map (d.model e).relation = d.linksAt e.id r ∧
      (d.fieldsAt e.id r).filter (fun f => !d.isLink f) = (d.keysAt e.id r).map Attribute.field := by
  obtain ⟨s, source, t, target, c, ends⟩ := legible.relation_shape member
  have noKey (model : Text) (required : Bool) :
      d.isLink (Attribute.key model required).field = false := legible.scalar_not_model .string
  have sourceKeys : ∀ a ∈ c.sourceKeys t.modelName, d.isLink a.field = false := by
    intro a inside
    rw [Cardinality.key_of_sourceKeys inside, noKey]
  have targetKeys : ∀ a ∈ c.targetKeys s.modelName, d.isLink a.field = false := by
    intro a inside
    rw [Cardinality.key_of_targetKeys inside, noKey]
  have sourceLink : d.isLink (c.sourceLink t.modelName) = true :=
    isName_iff.mpr ⟨t, target, (c.sourceLink_type t.modelName).symm⟩
  have targetLink : d.isLink (c.targetLink s.modelName) = true :=
    isName_iff.mpr ⟨s, source, (c.targetLink_type s.modelName).symm⟩
  have atStart := Field.filter_end sourceKeys sourceLink
  have atEnd := Field.filter_end targetKeys targetLink
  rw [fieldsAt, linksAt, keysAt, legible.atEnds_eq _ _ source target ends,
    legible.atEnds_eq _ _ source target ends, legible.atEnds_eq _ _ source target ends,
    legible.nameOf_member known, List.filter_append, List.filter_append, List.map_append,
    List.map_append]
  constructor
  · congr 1
    · split
      · rw [atStart.1, List.map_singleton, Cardinality.sourceLink_relation]
        rfl
      · rfl
    · split
      · rw [atEnd.1, List.map_singleton, Cardinality.targetLink_relation]
        rfl
      · rfl
  · congr 1
    · split
      · exact atStart.2
      · rfl
    · split
      · exact atEnd.2
      · rfl

theorem links_of_entity {e : Entity} (known : e ∈ d.entities) :
    ((d.allFields e).filter (d.isLink ·)).map (d.model e).relation =
      d.relations.flatMap (d.linksAt e.id) := by
  have identity : d.isLink Line.identityField = false := legible.scalar_not_model .string
  have scalar : ((writtenAttributes e).map Attribute.field).filter (d.isLink ·) = [] := by
    rw [List.filter_eq_nil_iff]
    intro f member
    obtain ⟨a, _, rfl⟩ := List.mem_map.mp member
    exact Bool.not_eq_true _ ▸ legible.scalar_not_model a.type
  rw [allFields, List.filter_cons_of_neg (by simp [identity]), List.filter_append, scalar,
    List.nil_append, List.filter_flatMap, List.map_flatMap]
  exact List.flatMap_congr fun r member => (legible.fields_at member known).1

theorem modelPlace_eq {e : Entity} (known : e ∈ d.entities) :
    d.modelPlace e.modelName = d.place e.id := by
  rw [modelPlace, place, idxOf_map legible.distinctModels known,
    idxOf_map legible.distinctIds known]

theorem place_injective {e f : Entity} (first : e ∈ d.entities) (second : f ∈ d.entities)
    (same : d.place e.id = d.place f.id) : e = f :=
  legible.same_of_id first second ((List.idxOf_inj (List.mem_map_of_mem first)).mp same)

theorem first_of_relation {r : Relation} (member : r ∈ d.relations) {e : Entity}
    (known : e ∈ d.entities) :
    ((d.linksAt e.id r).filter d.isFirst).eraseDupsBy Relation.samePair =
      if d.firstEnd r = e.id then [d.readBack r] else [] := by
  obtain ⟨s, source, t, target, c, ends⟩ := legible.relation_shape member
  have first {a b : Entity} (ha : a ∈ d.entities) (hb : b ∈ d.entities) (c : Cardinality) :
      d.isFirst (Relation.between a.modelName b.modelName c) =
        decide (d.place a.id ≤ d.place b.id) := by
    rw [← legible.modelPlace_eq ha, ← legible.modelPlace_eq hb]
    rfl
  have single (l : Relation) : [l].eraseDupsBy Relation.samePair = [l] := rfl
  rw [linksAt, legible.atEnds_eq _ _ source target ends, legible.nameOf_member known, firstEnd,
    readBack, forward, ends.1, ends.2.1, ends.2.2, Cardinality.ofText?_text, Option.getD_some,
    legible.nameOf_member source, legible.nameOf_member target]
  -- each order of the ends, and in it the end that the entity is, if it is one
  by_cases order : d.place s.id ≤ d.place t.id
  · simp only [order, decide_true, if_true]
    by_cases here : s.id = e.id
    · obtain rfl := legible.same_of_id source known here
      by_cases loop : t.id = s.id
      · obtain rfl := legible.same_of_id target source loop
        have pair : (Relation.between t.modelName t.modelName c.atTarget).samePair
            (Relation.between t.modelName t.modelName c.atSource) = true :=
          Relation.samePair_iff.mpr (Or.inl ⟨rfl, rfl⟩)
        simp [first, source, Distinct.eraseDupsBy_cons, pair]
      · simp [first, source, target, order, loop, single]
    · by_cases there : t.id = e.id
      · obtain rfl := legible.same_of_id target known there
        have strict : ¬ d.place t.id ≤ d.place s.id := by
          intro back
          exact here (congrArg Entity.id
            (legible.place_injective source target (Nat.le_antisymm order back)))
        simp [first, source, target, here, strict]
      · simp [here, there]
  · have back : d.place t.id ≤ d.place s.id := Nat.le_of_not_le order
    simp only [order, decide_false, Bool.false_eq_true, if_false]
    by_cases here : s.id = e.id
    · obtain rfl := legible.same_of_id source known here
      have apart : t.id ≠ s.id := fun same => order (by rw [same])
      simp [first, source, target, order, apart]
    · by_cases there : t.id = e.id
      · obtain rfl := legible.same_of_id target known there
        simp [first, source, target, here, back, single]
      · simp [here, there]

theorem same_of_nameOf {a b : Text} (first : ∃ e ∈ d.entities, e.id = a)
    (second : ∃ e ∈ d.entities, e.id = b) (same : d.nameOf a = d.nameOf b) : a = b := by
  obtain ⟨e, he, rfl⟩ := first
  obtain ⟨f, hf, rfl⟩ := second
  rw [legible.nameOf_member he, legible.nameOf_member hf] at same
  rw [legible.same_of_model he hf same]

theorem links_apart (id : Text) :
    d.relations.Pairwise fun r s => ∀ x ∈ (d.linksAt id r).filter d.isFirst,
      ∀ y ∈ (d.linksAt id s).filter d.isFirst, y.samePair x = false := by
  refine List.Pairwise.imp_of_mem ?_ legible.once
  intro r s inR inS apart x memberX y memberY
  obtain ⟨sourceR, targetR⟩ := legible.resolved r inR
  obtain ⟨sourceS, targetS⟩ := legible.resolved s inS
  rw [← Bool.not_eq_true]
  intro pair
  have start := samePair_of_mem_linksAt (List.mem_filter.mp memberX).1
  have stop := samePair_of_mem_linksAt (List.mem_filter.mp memberY).1
  have joined := Relation.samePair_trans _ _ _ (Relation.samePair_symm start)
    (Relation.samePair_trans _ _ _ (Relation.samePair_symm pair) stop)
  have same : r.samePair s = true := by
    rcases Relation.samePair_iff.mp joined with ⟨p, q⟩ | ⟨p, q⟩
    · exact Relation.samePair_iff.mpr (Or.inl
        ⟨legible.same_of_nameOf sourceR sourceS p, legible.same_of_nameOf targetR targetS q⟩)
    · exact Relation.samePair_iff.mpr (Or.inr
        ⟨legible.same_of_nameOf sourceR targetS p, legible.same_of_nameOf targetR sourceS q⟩)
  rw [apart] at same
  exact absurd same (by decide)

theorem mem_entityLinks {e : Entity} (known : e ∈ d.entities) {l : Relation} :
    l ∈ d.entityLinks e ↔ ∃ r ∈ d.relations, l ∈ d.linksAt e.id r := by
  rw [← List.mem_flatMap, ← legible.links_of_entity known, entityLinks_eq]
  simp only [List.mem_map, List.mem_eraseDups]

theorem linked_back {e : Entity} (known : e ∈ d.entities) {l : Relation}
    (member : l ∈ d.entityLinks e) :
    ∃ f ∈ d.entities, l.target = f.modelName ∧ ∃ k ∈ d.entityLinks f, k.target = e.modelName := by
  obtain ⟨r, inGraph, linked⟩ := (legible.mem_entityLinks known).mp member
  obtain ⟨⟨s, source, atSource⟩, t, target, atTarget⟩ := legible.resolved r inGraph
  obtain ⟨⟨out, leaves, ends⟩, back, returns, starts⟩ := d.links_both r
  rw [← atSource] at leaves starts
  rw [← atTarget] at returns ends
  rw [legible.nameOf_member source] at starts
  rw [legible.nameOf_member target] at ends
  obtain ⟨_, ⟨here, arrives⟩ | ⟨here, arrives⟩⟩ := mem_linksAt linked
  · obtain rfl := legible.same_of_id source known (atSource.trans here)
    rw [← atTarget, legible.nameOf_member target] at arrives
    exact ⟨t, target, arrives, back, (legible.mem_entityLinks target).mpr ⟨r, inGraph, returns⟩, starts⟩
  · obtain rfl := legible.same_of_id target known (atTarget.trans here)
    rw [← atSource, legible.nameOf_member source] at arrives
    exact ⟨s, source, arrives, out, (legible.mem_entityLinks source).mpr ⟨r, inGraph, leaves⟩, ends⟩

theorem first_of_entity {e : Entity} (known : e ∈ d.entities) :
    ((d.entityLinks e).filter d.isFirst).eraseDupsBy Relation.samePair =
      (d.relations.filter fun r => d.firstEnd r == e.id).map d.readBack := by
  have moved (g : Field → Relation) (l : List Field) :
      (l.eraseDups.map g).filter d.isFirst = ((l.filter (d.isFirst ∘ g)).eraseDups).map g := by
    rw [List.filter_map, Distinct.filter_eraseDups]
  rw [entityLinks_eq, moved, Distinct.eraseDupsBy_eraseDups Relation.samePair_refl,
    ← List.filter_map, legible.links_of_entity known, List.filter_flatMap,
    Distinct.eraseDupsBy_flatMap Relation.samePair_trans (legible.links_apart e.id),
    List.flatMap_congr fun r member => legible.first_of_relation member known]
  induction d.relations with
  | nil => rfl
  | cons r rest ih =>
    rw [List.flatMap_cons, List.filter_cons, ih]
    by_cases first : d.firstEnd r = e.id <;> simp [first]

theorem relations_back : Model.relations (d.entities.map d.model) = d.relationsBack := by
  have joined : Model.links (d.entities.map d.model) = d.entities.flatMap d.entityLinks := by
    rw [Model.links, List.flatMap_map]
    rfl
  have all : (d.entities.flatMap d.entityLinks).filter (isNew []) =
      d.entities.flatMap d.entityLinks := List.filter_eq_self.mpr fun _ _ => rfl
  have own : ∀ e ∈ d.entities, ∀ l ∈ d.entityLinks e, l.source = e.modelName := by
    intro e _ l member
    obtain ⟨f, _, rfl⟩ := List.mem_map.mp member
    rfl
  have linked : d.LinksBack d.entityLinks :=
    ⟨legible.distinctModels, own, fun e known l member => legible.linked_back known member⟩
  rw [Model.relations, joined, ← all, linked.first_links (List.nil_append _).symm, relationsBack]
  exact List.flatMap_congr fun e known => legible.first_of_entity known

end Legible
end Diagram
end DiagramSchema
