import DiagramSchema.Proofs.BlockLayout
import DiagramSchema.Proofs.PlainDiagram
import DiagramSchema.Proofs.StoreVerdict

/-! Every diagram that is read from schema text is well formed, whatever the text: its entities have
one name each, and its relations join two of them, one relation for each pair. Such a diagram can be
stored, and nothing is reported of it when it becomes schema text again. -/
namespace DiagramSchema
open Text

namespace SourceBlock

theorem scan_named {state : Option (Text × List Text)} {lines : List Text}
    (started : ∀ block ∈ state, block.1.IsName) : ∀ b ∈ scan state lines, b.name.IsName := by
  fun_induction scan state lines with
  | case1 => simp
  | case2 name body =>
    intro b member
    obtain rfl := List.mem_singleton.mp member
    exact started (name, body) rfl
  | case3 name body rest ih =>
    intro b member
    rcases List.mem_cons.mp member with rfl | later
    · exact started (name, body) rfl
    · exact ih (by simp) b later
  | case4 name body line rest _ ih =>
    exact ih fun block same => by
      obtain rfl := Option.some.inj same
      exact started (name, body) rfl
  | case5 line rest _ ih => exact ih (by simp)
  | case6 line rest name opened ih =>
    intro b member
    obtain ⟨_, _, _, _, _, named, _⟩ := parts_of_header opened
    rcases List.mem_cons.mp member with rfl | later
    · exact named
    · exact ih (by simp) b later
  | case7 line rest name inline opened _ ih =>
    obtain ⟨_, _, _, _, _, named, _⟩ := parts_of_header opened
    exact ih fun block same => by
      obtain rfl := Option.some.inj same
      exact named

theorem all_named (text : Text) : ∀ b ∈ all text, b.name.IsName := scan_named (by simp)

end SourceBlock

/-- Entities of one name each, and relations between two of them, one for each pair. -/
structure Diagram.WellFormed (d : Diagram) : Prop where
  distinct : (d.entities.map Entity.id).Nodup
  named : ∀ e ∈ d.entities, e.name = e.id
  resolved : ∀ r ∈ d.relations,
    r.source ∈ d.entities.map Entity.id ∧ r.target ∈ d.entities.map Entity.id
  once : d.relations.Pairwise fun r s => r.samePair s = false
  distinctRelations : (d.relations.map Relation.id).Nodup

namespace Model

theorem names_all (text : Text) :
    (all text).map Model.name = ((SourceBlock.all text).map SourceBlock.name).eraseDups := by
  have comparison : (instBEqOfDecidableEq : BEq Text) = List.instBEq := lawful_beq_subsingleton _ _
  rw [all, map_key_latestByKey, List.map_map, comparison]
  rfl

theorem all_named (text : Text) : ∀ m ∈ all text, m.name.IsName := by
  intro m member
  have inNames : m.name ∈ (all text).map Model.name := List.mem_map_of_mem member
  rw [names_all, List.mem_eraseDups] at inNames
  obtain ⟨b, inBlocks, same⟩ := List.mem_map.mp inNames
  rw [← same]
  exact SourceBlock.all_named text b inBlocks

variable {models : List Model}

theorem entity_ids (models : List Model) :
    (diagram models).entities.map Entity.id = models.map Model.name := by
  have enough : models.length ≤ (Grid.positions models.length).length :=
    (Grid.length_positions models.length).ge
  calc (diagram models).entities.map Entity.id
      = List.zipWith (fun m _ => m.name) models (Grid.positions models.length) := List.map_zipWith
    _ = (models.zip (Grid.positions models.length)).map fun p => p.1.name :=
      List.map_uncurry_zip_eq_zipWith.symm
    _ = ((models.zip (Grid.positions models.length)).map Prod.fst).map Model.name := by
      rw [List.map_map]
      rfl
    _ = models.map Model.name := by rw [List.map_fst_zip enough]

theorem entity_named (models : List Model) : ∀ e ∈ (diagram models).entities, e.name = e.id := by
  intro e member
  rw [diagram, ← List.map_uncurry_zip_eq_zipWith] at member
  obtain ⟨p, _, rfl⟩ := List.mem_map.mp member
  rfl

theorem mem_relations {r : Relation} (member : r ∈ relations models) : ∃ m ∈ models, ∃ f ∈ m.fields,
    f.type ∈ models.map Model.name ∧ r = m.relation f := by
  obtain ⟨m, known, inside⟩ := List.mem_flatMap.mp (Distinct.mem_of_mem_eraseDupsBy member)
  obtain ⟨f, linked, rfl⟩ := List.mem_map.mp inside
  obtain ⟨inFields, isName⟩ := List.mem_filter.mp linked
  exact ⟨m, known, f, inFields, by simpa [isNameAmong, List.mem_map] using isName, rfl⟩

theorem relation_nonempty {r : Relation} (member : r ∈ relations models) : r.id ≠ [] := by
  obtain ⟨m, _, f, _, _, rfl⟩ := mem_relations member
  show m.name ++ ['-'] ++ f.type ≠ []
  simp

theorem relation_known {r : Relation} (member : r ∈ relations models) :
    ∃ c : Cardinality, r.type = c.text := by
  obtain ⟨m, _, f, _, _, rfl⟩ := mem_relations member
  exact ⟨_, rfl⟩

theorem relations_once (models : List Model) :
    (relations models).Pairwise fun r s => r.samePair s = false := by
  refine (Distinct.pairwise_eraseDupsBy (links models)).imp fun {r s} apart => ?_
  cases pair : r.samePair s with
  | false => rfl
  | true => exact absurd (Relation.samePair_symm pair) (by simp [apart])

/-- The ends can be told from the id of a relation, as no name holds a hyphen. -/
theorem ends_of_id {m n : Model} {f g : Field} (first : m.name.IsName) (second : n.name.IsName)
    (same : (m.relation f).id = (n.relation g).id) : m.name = n.name ∧ f.type = g.type := by
  have shown (m : Model) (f : Field) : (m.relation f).id = m.name ++ '-' :: f.type := by
    show m.name ++ ['-'] ++ f.type = _
    simp
  rw [shown, shown] at same
  exact first.append_inj second (by decide) same

theorem diagram_wellFormed (distinct : (models.map Model.name).Nodup)
    (named : ∀ m ∈ models, m.name.IsName) : (diagram models).WellFormed := by
  constructor
  · rw [entity_ids]
    exact distinct
  · exact entity_named models
  · intro r member
    obtain ⟨m, known, f, _, linked, rfl⟩ := mem_relations member
    rw [entity_ids]
    exact ⟨List.mem_map_of_mem known, linked⟩
  · exact relations_once models
  · show ((relations models).map Relation.id).Nodup
    rw [List.Nodup, List.pairwise_map]
    refine (relations_once models).imp_of_mem fun {r s} inR inS apart same => ?_
    obtain ⟨m, first, f, _, _, rfl⟩ := mem_relations inR
    obtain ⟨n, second, g, _, _, rfl⟩ := mem_relations inS
    obtain ⟨names, types⟩ := ends_of_id (named m first) (named n second) same
    have pair : (m.relation f).samePair (n.relation g) = true :=
      Relation.samePair_iff.mpr (Or.inl ⟨names, types⟩)
    rw [apart] at pair
    exact absurd pair (by decide)

end Model

namespace Diagram

theorem warnings_eq_nil {d : Diagram} (resolved : ∀ r ∈ d.relations,
      r.source ∈ d.entities.map Entity.id ∧ r.target ∈ d.entities.map Entity.id)
    (known : ∀ r ∈ d.relations, ∃ c : Cardinality, r.type = c.text) : d.warnings = [] := by
  rw [warnings, List.filterMap_eq_nil_iff]
  intro r member
  obtain ⟨c, type⟩ := known r member
  have isKnown : r.IsKnown := Relation.isKnown_iff.mpr ⟨c, by rw [type, Cardinality.ofText?_text]⟩
  exact warning_known (resolved r member) isKnown

theorem ofSchema_eq {text : Text} {g : Diagram} (found : ofSchema text = .ok g) :
    g = Model.diagram (Model.all text) := by
  unfold ofSchema at found
  split at found
  · exact absurd found (by simp)
  · exact (Except.ok.inj found).symm

theorem WellFormed.sound_stored {d : Diagram} (wellFormed : d.WellFormed)
    (entities : ∀ e ∈ d.entities, e.id ≠ []) (relations : ∀ r ∈ d.relations, r.id ≠ []) :
    d.stored.Sound :=
  Diagram.sound_stored.mpr
    ⟨entities, fun r member => ⟨relations r member, wellFormed.resolved r member⟩⟩

/-- Whatever text a diagram is read from, it is well formed, lists its entities in the order in which
the models are first declared, can be stored, and becomes schema text without a warning. -/
theorem recovered_wellFormed {text : Text} {g : Diagram} (found : ofSchema text = .ok g) :
    g.WellFormed ∧
      g.entities.map Entity.id = ((SourceBlock.all text).map SourceBlock.name).eraseDups ∧
      (Operation.store g.json).value = .ok (.document g.stored) ∧
      ∀ s, (g.emit s).value.warnings = [] := by
  obtain rfl := ofSchema_eq found
  have ids := Model.entity_ids (Model.all text)
  have distinct : ((Model.all text).map Model.name).Nodup := nodup_keys_latestByKey Model.name _
  have wellFormed := Model.diagram_wellFormed distinct (Model.all_named text)
  refine ⟨wellFormed, ids.trans (Model.names_all text), ?_, fun s => ?_⟩
  · refine (Operation.store_ok (accept_json _)).mpr ⟨wellFormed.sound_stored ?_ ?_, rfl⟩
    · intro e member
      have inNames : e.id ∈ (Model.all text).map Model.name := ids ▸ List.mem_map_of_mem member
      obtain ⟨m, known, same⟩ := List.mem_map.mp inNames
      exact same ▸ (Model.all_named text m known).1
    · exact fun r member => Model.relation_nonempty member
  · exact warnings_eq_nil wellFormed.resolved fun r member => Model.relation_known member

def draft : Text :=
  "model A \x7b b B[]\nx\n\x7d\nmodel B \x7b\n a A\n\x7d\n/* \x7d\n*/ model A \x7b\n b B?\n n Int"

def draftDiagram : Diagram where
  entities :=
    [ { id := "A", name := "A", position := ⟨.ofNat 0, .ofNat 0⟩, attributes :=
        [ { name := "n", type := .int, constraint := { required := true } } ] },
      { id := "B", name := "B", position := ⟨.ofNat 320, .ofNat 0⟩ } ]
  relations := [ { id := "A-B", source := "A", target := "B", type := "1-1" } ]

theorem draft_wellFormed : ofSchema draft = .ok draftDiagram ∧ draftDiagram.WellFormed ∧
    draftDiagram.entities.map Entity.id =
      ((SourceBlock.all draft).map SourceBlock.name).eraseDups ∧
    (Operation.store draftDiagram.json).value = .ok (.document draftDiagram.stored) ∧
    ∀ s, (draftDiagram.emit s).value.warnings = [] := by
  have found : ofSchema draft = .ok draftDiagram := by rfl
  exact ⟨found, recovered_wellFormed found⟩

end Diagram
end DiagramSchema
