import DiagramSchema.Proofs.RoundTrip

/-! Schema text written a second time. What comes back from the schema text of a canonical diagram
comes back unchanged from then on, and its blocks hold the lines of the first text. -/
namespace DiagramSchema
open Text

def Block.SameLines (b c : Block) : Prop := b.name = c.name ∧ ∀ line, line ∈ b.lines ↔ line ∈ c.lines

namespace Cardinality

theorem line_of_sourceKeys {c : Cardinality} {model : Text} {key : Attribute}
    (member : key ∈ c.sourceKeys model) : key.line ∈ (c.lines model model).1 := by
  obtain rfl := key_of_sourceKeys member
  rw [Attribute.key_line]
  cases c <;> simp_all [sourceKeys, lines]

theorem line_of_targetKeys {c : Cardinality} {model : Text} {key : Attribute}
    (member : key ∈ c.targetKeys model) : key.line ∈ (c.lines model model).2 := by
  obtain rfl := key_of_targetKeys member
  rw [Attribute.key_line]
  cases c <;> simp_all [targetKeys, lines]

end Cardinality

namespace Diagram

theorem atEnds_imp {α β : Type} {f g : Cardinality → Text → List α}
    {f' g' : Cardinality → Text → List β} {a : α} {b : β}
    (atSource : ∀ c model, a ∈ f c model → b ∈ f' c model)
    (atTarget : ∀ c model, a ∈ g c model → b ∈ g' c model) {d : Diagram} {id : Text} {r : Relation}
    (member : a ∈ atEnds f g d id r) : b ∈ atEnds f' g' d id r := by
  unfold atEnds at member ⊢
  rcases List.mem_append.mp member with start | stop
  · refine List.mem_append_left _ ?_
    by_cases here : r.source = id
    · rw [if_pos here] at start ⊢
      exact atSource _ _ start
    · simp [here] at start
  · refine List.mem_append_right _ ?_
    by_cases here : r.target = id
    · rw [if_pos here] at stop ⊢
      exact atTarget _ _ stop
    · simp [here] at stop

/-- A plain diagram with relations between one and many or one and one, the source listed first, and
no default of blanks only. -/
structure Canonical (d : Diagram) : Prop extends Plain d where
  nonempty : d.entities ≠ []
  solidDefault : ∀ e ∈ d.entities, ∀ a ∈ e.attributes, a.HasSolidDefault
  single : ∀ r ∈ d.relations, r.type = Cardinality.oneToMany.text ∨ r.type = Cardinality.oneToOne.text
  sourceFirst : ∀ r ∈ d.relations, d.forward r = true

theorem forall_recovered {R : Entity → Entity → Prop} {d : Diagram}
    (each : ∀ e ∈ d.entities, ∀ place, R e (d.entityBack e place)) :
    List.Forall₂ R d.entities d.recovered.entities :=
  Counterparts.zipWith (Grid.length_positions d.entities.length).ge each

theorem map_recovered {β : Type} {d : Diagram} {f k : Entity → β}
    (same : ∀ e ∈ d.entities, ∀ place, f (d.entityBack e place) = k e) :
    d.recovered.entities.map f = d.entities.map k := by
  have each : List.Forall₂ Eq (d.entities.map k) (d.recovered.entities.map f) := by
    rw [List.forall₂_map_left_iff, List.forall₂_map_right_iff]
    exact forall_recovered fun e known place => (same e known place).symm
  rw [List.forall₂_eq_eq_eq] at each
  exact each.symm

theorem mem_recovered {d : Diagram} {x : Entity} (member : x ∈ d.recovered.entities) :
    ∃ e ∈ d.entities, ∃ place, x = d.entityBack e place := by
  rw [recovered, ← List.map_uncurry_zip_eq_zipWith] at member
  obtain ⟨⟨e, place⟩, inside, shape⟩ := List.mem_map.mp member
  exact ⟨e, (List.of_mem_zip inside).1, place, shape.symm⟩

namespace Plain

variable {d : Diagram} (plain : d.Plain)

include plain

theorem entityBack_mem {e : Entity} (known : e ∈ d.entities) :
    ∃ place, d.entityBack e place ∈ d.recovered.entities := by
  have ids : e.modelName ∈ d.recovered.entities.map Entity.id := by
    rw [map_recovered (k := Entity.modelName) fun _ _ _ => rfl]
    exact List.mem_map_of_mem known
  obtain ⟨x, member, name⟩ := List.mem_map.mp ids
  obtain ⟨f, other, place, rfl⟩ := mem_recovered member
  obtain rfl := plain.toLegible.same_of_model other known name
  exact ⟨place, member⟩

theorem attribute_back {e : Entity} (known : e ∈ d.entities) {a : Attribute}
    (member : a ∈ attributesBack e ++ d.newKeys e) :
    isIdentifier a.name = true ∧ a.HasPlainDefault ∧ a.isIdentity = false := by
  rcases List.mem_append.mp member with written | key
  · rw [attributesBack, plain.written_all known] at written
    obtain ⟨source, inside, rfl⟩ := List.mem_map.mp written
    exact ⟨plain.attributeNamed e known source inside,
      Attribute.recovered_plain (plain.plainDefault e known source inside),
      plain.noIdentity e known source inside⟩
  · obtain ⟨r, inside, put⟩ := List.mem_flatMap.mp (List.mem_filter.mp key).1
    obtain ⟨f, other, required, rfl, _⟩ := plain.toLegible.key_shape inside put
    have identifier := plain.toLegible.model_identifier other
    refine ⟨Naming.keyField_identifier identifier, Attribute.key_plain _ _, ?_⟩
    exact beq_false_of_ne (Naming.keyField_ne_id identifier)

theorem modelName_back {e : Entity} (known : e ∈ d.entities) (place : Position) :
    (d.entityBack e place).modelName = e.modelName :=
  Naming.capitalized_capitalized (plain.named e known)

theorem recovered_legible : d.recovered.Legible where
  distinctIds := by
    rw [map_recovered (k := Entity.modelName) fun _ _ _ => rfl]
    exact plain.distinctModels
  named := by
    intro x member
    obtain ⟨e, known, place, rfl⟩ := mem_recovered member
    exact plain.toLegible.model_identifier known
  distinctModels := by
    rw [map_recovered (k := Entity.modelName) fun _ known place => plain.modelName_back known place]
    exact plain.distinctModels
  noScalar := by
    intro x member
    obtain ⟨e, known, place, rfl⟩ := mem_recovered member
    rw [plain.modelName_back known]
    exact plain.noScalar e known
  attributeNamed := by
    intro x member a inside
    obtain ⟨e, known, place, rfl⟩ := mem_recovered member
    exact (plain.attribute_back known inside).1
  plainDefault := by
    intro x member a inside
    obtain ⟨e, known, place, rfl⟩ := mem_recovered member
    exact (plain.attribute_back known inside).2.1
  known := by
    intro l member
    obtain ⟨r, _, rfl⟩ := plain.toLegible.mem_relationsBack.mp member
    unfold readBack
    split
    · exact ⟨_, rfl⟩
    · exact ⟨_, rfl⟩
  resolved := by
    intro l member
    obtain ⟨r, inside, rfl⟩ := plain.toLegible.mem_relationsBack.mp member
    have atEnd {id : Text} (found : ∃ e ∈ d.entities, e.id = id) :
        ∃ x ∈ d.recovered.entities, x.id = d.nameOf id := by
      obtain ⟨e, known, rfl⟩ := found
      obtain ⟨place, back⟩ := plain.entityBack_mem known
      exact ⟨_, back, (plain.toLegible.nameOf_member known).symm⟩
    have ends := plain.resolved r inside
    unfold readBack
    split
    · exact ⟨atEnd ends.1, atEnd ends.2⟩
    · exact ⟨atEnd ends.2, atEnd ends.1⟩
  once := by
    show d.relationsBack.Pairwise _
    rw [← plain.toLegible.relations_back]
    refine List.Pairwise.imp ?_ (Distinct.pairwise_eraseDupsBy _)
    intro a b apart
    rw [← Bool.not_eq_true] at apart ⊢
    exact fun pair => apart (Relation.samePair_symm pair)

end Plain

namespace Canonical

variable {d : Diagram} (canonical : d.Canonical)

include canonical

theorem relation_kept {r : Relation} (member : r ∈ d.relations) :
    ∃ s ∈ d.entities, ∃ t ∈ d.entities, ∃ c : Cardinality,
      (r.source = s.id ∧ r.target = t.id ∧ r.type = c.text) ∧ c.atSource = c ∧
      d.readBack r = Relation.between s.modelName t.modelName c := by
  obtain ⟨s, source, t, target, c, ends⟩ := canonical.toLegible.relation_shape member
  have kept : c.atSource = c := by
    have single := canonical.single r member
    rw [ends.2.2] at single
    cases c with
    | oneToOne => rfl
    | oneToMany => rfl
    | manyToOne => exact absurd single (by decide)
    | manyToMany => exact absurd single (by decide)
  refine ⟨s, source, t, target, c, ends, kept, ?_⟩
  rw [readBack, canonical.sourceFirst r member, if_pos rfl, ends.1, ends.2.1, ends.2.2,
    Cardinality.ofText?_text, Option.getD_some, kept, canonical.toLegible.nameOf_member source,
    canonical.toLegible.nameOf_member target]

theorem nameOf_recovered {e : Entity} (known : e ∈ d.entities) :
    d.recovered.nameOf e.modelName = e.modelName := by
  obtain ⟨place, member⟩ := canonical.entityBack_mem known
  have name := canonical.recovered_legible.nameOf_member member
  rw [canonical.modelName_back known] at name
  exact name

theorem atEnds_readBack {α : Type} (atSource atTarget : Cardinality → Text → List α)
    {r : Relation} (member : r ∈ d.relations) {e : Entity} (known : e ∈ d.entities) :
    atEnds atSource atTarget d.recovered e.modelName (d.readBack r) =
      atEnds atSource atTarget d e.id r := by
  obtain ⟨s, source, t, target, c, ends, _, shape⟩ := canonical.relation_kept member
  have same {f : Entity} (other : f ∈ d.entities) : f.modelName = e.modelName ↔ f.id = e.id :=
    ⟨fun name => by rw [canonical.toLegible.same_of_model other known name],
      fun id => by rw [canonical.toLegible.same_of_id other known id]⟩
  rw [canonical.toLegible.atEnds_eq _ _ source target ends, shape, atEnds]
  simp only [Relation.between, Cardinality.ofText?_text, Option.getD_some, same source, same target,
    canonical.nameOf_recovered source, canonical.nameOf_recovered target]

theorem place_recovered {e : Entity} (known : e ∈ d.entities) :
    d.recovered.place e.modelName = d.place e.id := by
  rw [place, map_recovered (k := Entity.modelName) fun _ _ _ => rfl]
  exact canonical.toLegible.modelPlace_eq known

theorem readBack_readBack {r : Relation} (member : r ∈ d.relations) :
    d.recovered.forward (d.readBack r) = true ∧
      d.recovered.readBack (d.readBack r) = d.readBack r := by
  obtain ⟨s, source, t, target, c, ends, kept, shape⟩ := canonical.relation_kept member
  have order : d.recovered.forward (d.readBack r) = true := by
    have first := canonical.sourceFirst r member
    rw [forward, ends.1, ends.2.1] at first
    rw [shape, forward]
    show decide (d.recovered.place s.modelName ≤ d.recovered.place t.modelName) = true
    rw [canonical.place_recovered source, canonical.place_recovered target]
    exact first
  refine ⟨order, ?_⟩
  rw [readBack, order, if_pos rfl, shape]
  simp only [Relation.between, Cardinality.ofText?_text, Option.getD_some, kept,
    canonical.nameOf_recovered source, canonical.nameOf_recovered target]

theorem relationsBack_recovered : d.recovered.relationsBack = d.relationsBack := by
  have grouped {e : Entity} (known : e ∈ d.entities) :
      (d.relationsBack.filter fun l => d.recovered.firstEnd l == e.modelName).map
        d.recovered.readBack =
      (d.relations.filter fun r => d.firstEnd r == e.id).map d.readBack := by
    have own : ∀ f ∈ d.entities, ∀ l ∈ (d.relations.filter fun r => d.firstEnd r == f.id).map
        d.readBack, d.recovered.firstEnd l = f.modelName := by
      intro f other l member
      obtain ⟨r, inside, rfl⟩ := List.mem_map.mp member
      obtain ⟨inGraph, first⟩ := List.mem_filter.mp inside
      obtain ⟨s, source, t, target, c, ends, _, shape⟩ := canonical.relation_kept inGraph
      rw [firstEnd, (canonical.readBack_readBack inGraph).1, if_pos rfl, shape]
      rw [firstEnd, canonical.sourceFirst r inGraph, if_pos rfl, ends.1, beq_iff_eq] at first
      show s.modelName = f.modelName
      rw [canonical.toLegible.same_of_id source other first]
    rw [relationsBack, Distinct.filter_flatMap_of_distinct canonical.distinctModels own known,
      List.map_map]
    refine List.map_congr_left fun r inside => ?_
    exact (canonical.readBack_readBack (List.mem_filter.mp inside).1).2
  have same := map_recovered (d := d) (f := fun x => (d.relationsBack.filter fun l =>
      d.recovered.firstEnd l == x.id).map d.recovered.readBack) fun e known place => grouped known
  rw [relationsBack, List.flatMap_def]
  show (d.recovered.entities.map fun x => (d.relationsBack.filter fun l =>
      d.recovered.firstEnd l == x.id).map d.recovered.readBack).flatten = _
  rw [same, ← List.flatMap_def]
  rfl

theorem attribute_kept {e : Entity} (known : e ∈ d.entities) {a : Attribute}
    (member : a ∈ attributesBack e ++ d.newKeys e) : a.recovered = a := by
  rcases List.mem_append.mp member with written | key
  · rw [attributesBack, canonical.written_all known] at written
    obtain ⟨source, inside, rfl⟩ := List.mem_map.mp written
    exact Attribute.recovered_recovered (canonical.solidDefault e known source inside)
  · obtain ⟨model, required, rfl⟩ := key_of_mem (List.mem_filter.mp key).1
    exact Attribute.key_recovered model required

theorem keys_kept {e : Entity} (known : e ∈ d.entities) {key : Attribute}
    (member : key ∈ d.recovered.keys e.modelName) : key ∈ attributesBack e ++ d.newKeys e := by
  obtain ⟨l, inside, put⟩ := List.mem_flatMap.mp member
  obtain ⟨r, inGraph, rfl⟩ := canonical.toLegible.mem_relationsBack.mp inside
  rw [keysAt, canonical.atEnds_readBack _ _ inGraph known] at put
  have first : key ∈ d.keys e.id := List.mem_flatMap.mpr ⟨r, inGraph, put⟩
  by_cases present : key ∈ attributesBack e
  · exact List.mem_append_left _ present
  · exact List.mem_append_right _ (List.mem_filter.mpr ⟨first, by simpa using present⟩)

theorem nodup_attributes {e : Entity} (known : e ∈ d.entities) :
    (attributesBack e ++ d.newKeys e).Nodup := by
  refine List.Nodup.append (List.Nodup.of_map _ (canonical.nodup_attributesBack known))
    ((canonical.toLegible.nodup_keys e.id).filter _) ?_
  intro a written key
  have absent := (List.mem_filter.mp key).2
  simp [written] at absent

theorem attributesBack_entityBack {e : Entity} (known : e ∈ d.entities) (place : Position) :
    attributesBack (d.entityBack e place) = attributesBack e ++ d.newKeys e := by
  have all : writtenAttributes (d.entityBack e place) = attributesBack e ++ d.newKeys e := by
    refine List.filter_eq_self.mpr fun a member => ?_
    rw [(canonical.attribute_back known member).2.2]
    rfl
  rw [attributesBack, all]
  exact (List.map_congr_left fun a member => canonical.attribute_kept known member).trans
    (List.map_id _)

theorem attributes_kept {e : Entity} (known : e ∈ d.entities) {place : Position}
    (member : d.entityBack e place ∈ d.recovered.entities) :
    (d.recovered.model (d.entityBack e place)).attributes
        (d.recovered.entities.map d.recovered.model) = attributesBack e ++ d.newKeys e := by
  have kept : ∀ a ∈ writtenAttributes (d.entityBack e place) ++ d.recovered.keys e.modelName,
      a.recovered = a := by
    intro a inside
    rcases List.mem_append.mp inside with written | key
    · exact canonical.attribute_kept known (List.mem_filter.mp written).1
    · exact canonical.attribute_kept known (canonical.keys_kept known key)
  have old : (d.recovered.keys e.modelName).removeAll (attributesBack e ++ d.newKeys e) = [] := by
    refine List.filter_eq_nil_iff.mpr fun key inside => ?_
    simp [List.mem_append.mp (canonical.keys_kept known inside)]
  rw [canonical.recovered_legible.attributes_of_faithful member,
    canonical.attributesBack_entityBack known]
  · show (_ ++ d.recovered.keys e.modelName).eraseDups = _
    rw [List.eraseDups_append, old, Distinct.eraseDups_of_nodup (canonical.nodup_attributes known)]
    exact List.append_nil _
  · intro a first b second same
    rw [kept a first, kept b second] at same
    rw [same]

theorem entity_kept {e : Entity} {place : Position}
    (member : (e, place) ∈ d.entities.zip (Grid.positions d.entities.length)) :
    (d.recovered.model (d.entityBack e place)).entity
      (d.recovered.entities.map d.recovered.model) place = d.entityBack e place := by
  have known := (List.of_mem_zip member).1
  have back : d.entityBack e place ∈ d.recovered.entities := by
    rw [recovered, ← List.map_uncurry_zip_eq_zipWith]
    exact List.mem_map.mpr ⟨(e, place), member, rfl⟩
  rw [Model.entity, canonical.attributes_kept known back]
  show Entity.mk (d.entityBack e place).modelName (d.entityBack e place).modelName _ _ = _
  rw [canonical.modelName_back known place]
  rfl

theorem diagram_kept :
    Model.diagram (d.recovered.entities.map d.recovered.model) = d.recovered := by
  have each : List.Forall₂ (fun e place =>
      (d.recovered.model (d.entityBack e place)).entity
        (d.recovered.entities.map d.recovered.model) place = d.entityBack e place)
      d.entities (Grid.positions d.entities.length) :=
    List.forall₂_iff_zip.mpr ⟨(Grid.length_positions _).symm, canonical.entity_kept⟩
  have entities : List.zipWith (fun x place => (d.recovered.model x).entity
      (d.recovered.entities.map d.recovered.model) place) d.recovered.entities
      (Grid.positions d.entities.length) = d.recovered.entities := by
    show List.zipWith _ (List.zipWith d.entityBack d.entities (Grid.positions d.entities.length)) _ =
      List.zipWith d.entityBack d.entities (Grid.positions d.entities.length)
    rw [List.zipWith_zipWith_left, List.zipWith3_same_right, List.zipWith_congr _ _ _ _ each]
  have count : d.recovered.entities.length = d.entities.length := by
    simp [recovered, Grid.length_positions]
  rw [Model.diagram, canonical.recovered_legible.relations_back, canonical.relationsBack_recovered,
    List.zipWith_map_left, List.length_map, count, entities]
  rfl

theorem contributed_again {e : Entity} (known : e ∈ d.entities) (line : Line) :
    line ∈ d.recovered.contributedLines e.modelName ↔ line ∈ d.contributedLines e.id := by
  rw [canonical.recovered_legible.contributedLines_eq, canonical.toLegible.contributedLines_eq,
    List.mem_flatMap, List.mem_flatMap]
  constructor
  · rintro ⟨l, member, inside⟩
    obtain ⟨r, inGraph, rfl⟩ := canonical.toLegible.mem_relationsBack.mp member
    rw [linesAt, canonical.atEnds_readBack _ _ inGraph known] at inside
    exact ⟨r, inGraph, inside⟩
  · rintro ⟨r, inGraph, inside⟩
    refine ⟨_, canonical.toLegible.mem_relationsBack.mpr ⟨r, inGraph, rfl⟩, ?_⟩
    rw [linesAt, canonical.atEnds_readBack _ _ inGraph known]
    exact inside

theorem attributeLines_back {e : Entity} (known : e ∈ d.entities) (place : Position) :
    (d.entityBack e place).attributeLines =
      e.attributeLines ++ (d.newKeys e).map Attribute.line := by
  have all : (attributesBack e ++ d.newKeys e).filter (fun a => !a.isIdentity) =
      attributesBack e ++ d.newKeys e := by
    refine List.filter_eq_self.mpr fun a member => ?_
    rw [(canonical.attribute_back known member).2.2]
    rfl
  show ((attributesBack e ++ d.newKeys e).filter fun a => !a.isIdentity).map Attribute.line =
    (writtenAttributes e).map Attribute.line ++ _
  rw [all, List.map_append, attributesBack, List.map_map]
  congr 1
  refine List.map_congr_left fun a written => ?_
  exact Attribute.recovered_line (canonical.solidDefault e known a (List.mem_filter.mp written).1)

theorem newKey_contributed {e : Entity} {key : Attribute} (member : key ∈ d.newKeys e) :
    key.line ∈ d.contributedLines e.id := by
  obtain ⟨r, inGraph, put⟩ := List.mem_flatMap.mp (List.mem_filter.mp member).1
  rw [canonical.toLegible.contributedLines_eq]
  refine List.mem_flatMap.mpr ⟨r, inGraph, ?_⟩
  exact atEnds_imp (fun _ _ => Cardinality.line_of_sourceKeys)
    (fun _ _ => Cardinality.line_of_targetKeys) put

theorem block_again {e : Entity} (known : e ∈ d.entities) (place : Position) :
    (d.block e).SameLines (d.recovered.block (d.entityBack e place)) := by
  refine ⟨(canonical.modelName_back known place).symm, fun text => ?_⟩
  have lines (line : Line) :
      line ∈ Line.identity :: (d.entityBack e place).attributeLines
        ++ d.recovered.contributedLines e.modelName ↔
      line ∈ Line.identity :: e.attributeLines ++ d.contributedLines e.id := by
    rw [canonical.attributeLines_back known, List.cons_append, List.cons_append, List.mem_cons,
      List.mem_cons, List.mem_append, List.mem_append, List.mem_append,
      canonical.contributed_again known]
    constructor
    · rintro (first | (own | key) | contributed)
      · exact Or.inl first
      · exact Or.inr (Or.inl own)
      · obtain ⟨a, member, rfl⟩ := List.mem_map.mp key
        exact Or.inr (Or.inr (canonical.newKey_contributed member))
      · exact Or.inr (Or.inr contributed)
    · rintro (first | own | contributed)
      · exact Or.inl first
      · exact Or.inr (Or.inl (Or.inl own))
      · exact Or.inr (Or.inr contributed)
  rw [block, block, List.mem_eraseDups, List.mem_eraseDups, List.mem_map, List.mem_map]
  exact exists_congr fun line => and_congr_left fun _ => (lines line).symm

theorem blocks_again : List.Forall₂ Block.SameLines d.blocks d.recovered.blocks := by
  rw [canonical.toLegible.blocks_eq, canonical.recovered_legible.blocks_eq,
    List.forall₂_map_left_iff, List.forall₂_map_right_iff]
  exact forall_recovered fun e known place => canonical.block_again known place

end Canonical

/-- Schema text written from what was read is stable: it has the blocks of the first text, each with
the same lines, and is written again as it is. -/
theorem recompilation_stable {d : Diagram} (canonical : d.Canonical) :
    ∃ g h, ofSchema (d.schema {}) = .ok g ∧ ofSchema (g.schema {}) = .ok h ∧
      List.Forall₂ Block.SameLines d.blocks g.blocks ∧ h.schema {} = g.schema {} := by
  have first : ofSchema (d.schema {}) = .ok d.recovered := by
    rw [canonical.toLegible.ofSchema_schema canonical.nonempty, canonical.toPlain.diagram_back]
  have some : d.recovered.entities ≠ [] := by
    intro none
    have names := map_recovered (d := d) (f := Entity.id) (k := Entity.modelName) fun _ _ _ => rfl
    rw [none, List.map_nil, eq_comm, List.map_eq_nil_iff] at names
    exact canonical.nonempty names
  have second : ofSchema (d.recovered.schema {}) = .ok d.recovered := by
    rw [canonical.recovered_legible.ofSchema_schema some, canonical.diagram_kept]
  exact ⟨d.recovered, d.recovered, first, second, canonical.blocks_again, rfl⟩

def folders : Diagram where
  entities :=
    [ { id := "a", name := "folder", attributes :=
        [ { name := "size", type := .int, constraint := { required := true, defaultValue := some "0".toList } },
          { name := "userId", type := .int, constraint := { list := true } } ] },
      { id := "b", name := "User" } ]
  relations :=
    [ { id := "r", source := "a", target := "b", type := "1-1" },
      { id := "s", source := "a", target := "a", type := "1-m" } ]

theorem folders_recompilation : folders.Canonical ∧
    ∃ g h, ofSchema (folders.schema {}) = .ok g ∧ ofSchema (g.schema {}) = .ok h ∧
      List.Forall₂ Block.SameLines folders.blocks g.blocks ∧ h.schema {} = g.schema {} := by
  have plain : folders.Plain := by decide
  have canonical : folders.Canonical := ⟨plain, by decide, by decide, by decide, by decide⟩
  exact ⟨canonical, recompilation_stable canonical⟩

end Diagram
end DiagramSchema
