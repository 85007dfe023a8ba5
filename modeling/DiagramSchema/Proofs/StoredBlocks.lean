import DiagramSchema.Proofs.AuditedDocument
import DiagramSchema.Proofs.ModelBlocks
import DiagramSchema.Proofs.NormalForm

/-! The blocks that a stored document becomes. A diagram has one block for each id of an entity, so
that of several stored models with one id the last one is shown, at the place of the first. -/
namespace DiagramSchema

structure StoredModel.ShownIn (m : StoredModel) (b : Block) : Prop where
  name : b.name = Naming.capitalized m.name
  fields : ∀ f ∈ m.fields, f.name ≠ "id" → ∃ a, f.loaded = .ok a ∧ a.line.text ∈ b.lines

namespace Diagram

theorem attribute_shown {d : Diagram} {e : Entity} {a : Attribute} (member : a ∈ e.attributes)
    (named : a.name ≠ "id") : a.line.text ∈ (d.block e).lines := by
  have shown : a.line ∈ e.attributeLines := by
    refine List.mem_map_of_mem (List.mem_filter.mpr ⟨member, ?_⟩)
    simpa [Attribute.isIdentity] using named
  rw [block, List.mem_eraseDups]
  exact List.mem_map_of_mem (List.mem_cons_of_mem _ (List.mem_append_left _ shown))

theorem block_shows {m : StoredModel} {e : Entity} (named : m.name ≠ [])
    (loads : m.loaded = .ok e) (d : Diagram) : m.ShownIn (d.block e) := by
  obtain ⟨-, name, -, attributes⟩ := StoredModel.loaded_eq_ok.mp loads
  constructor
  · show Naming.capitalized e.name = _
    rw [name, Text.orElse_of_ne_nil named]
  · intro f member notId
    obtain ⟨a, inside, loaded⟩ := Counterparts.of_mem attributes f member
    obtain ⟨same, -⟩ := StoredField.loaded_eq_ok.mp loaded
    exact ⟨a, loaded, attribute_shown inside (same ▸ notId)⟩

/-- The blocks of a document that passes the audit are those of the last models under each id. They
are those of all models, one after the other, if and only if the ids are distinct. -/
theorem blocks_of_stored {given : Json} {document : Document} {d : Diagram}
    (passes : (Audit.checkDocument given).isSound = true)
    (accepted : Document.accept given = .ok document) (loads : document.loaded = .ok d) :
    (d.emit {}).value.schema = List.intercalate "\n"
        (Settings.header {} :: d.blocks.map fun b => b.text ++ ("\n" : Text)) ∧
      List.Forall₂ StoredModel.ShownIn (latestByKey StoredModel.nodeId document.models) d.blocks ∧
      (List.Forall₂ StoredModel.ShownIn document.models d.blocks ↔
        (document.models.map StoredModel.nodeId).Nodup) := by
  have named : ∀ m ∈ document.models, m.name ≠ [] := fun m member =>
    ((Document.sound_of_accepted passes accepted).models m member).2
  have each : List.Forall₂ (fun m e => m.name ≠ [] ∧ m.loaded = .ok e)
      document.models d.entities :=
    (List.forall₂_and_left _ _).mpr ⟨named, (Document.loaded_eq_ok.mp loads).1⟩
  have ids (m : StoredModel) (e : Entity) (entry : m.name ≠ [] ∧ m.loaded = .ok e) :
      m.nodeId = e.id := (StoredModel.loaded_eq_ok.mp entry.2).1.symm
  have shown : List.Forall₂ StoredModel.ShownIn
      (latestByKey StoredModel.nodeId document.models) d.blocks := by
    rw [blocks, modelEntities, List.forall₂_map_right_iff]
    exact (Counterparts.latestByKey ids each).imp fun m e entry =>
      block_shows entry.1 entry.2 d
  refine ⟨rfl, shown, fun all => ?_, fun distinct => ?_⟩
  · rw [← Distinct.latestByKey_length_iff, shown.length_eq, all.length_eq]
  · rwa [Distinct.latestByKey_of_distinct distinct] at shown

def storedModel (nodeId name : Text) (fields : List Json) : Json :=
  .object
    [ ("nodeId", .text nodeId), ("name", .text name),
      ("position", .object [("x", .int 0), ("y", .float .zero)]), ("fields", .list fields) ]

def storedField (name type : Text) : Json := .object [("name", .text name), ("type", .text type)]

def archive : Json :=
  .object
    [ ("models", .list
        [ storedModel "1" "user" [storedField "id" "Int", storedField "mail" "String"],
          storedModel "2" "user" [storedField "mail" [], storedField "mail" "String"],
          storedModel "3" "Team" [] ]),
      ("relations", .list
        [ .object
            [ ("edgeId", .text "r"), ("sourceModelId", .text "3"), ("targetModelId", .text "1"),
              ("relationType", .text "1-m") ] ]) ]

def archiveDocument : Document where
  models :=
    [ { nodeId := "1", name := "user", position := ⟨.ofNat 0, .zero⟩, fields :=
          [{ name := "id", type := "Int" }, { name := "mail" }] },
      { nodeId := "2", name := "user", position := ⟨.ofNat 0, .zero⟩, fields :=
          [{ name := "mail", type := [] }, { name := "mail" }] },
      { nodeId := "3", name := "Team", position := ⟨.ofNat 0, .zero⟩ } ]
  relations := [ { edgeId := "r", source := "3", target := "1" } ]

def archiveDiagram : Diagram where
  entities :=
    [ { id := "1", name := "user", position := ⟨.ofNat 0, .zero⟩, attributes :=
          [{ name := "id", type := .int }, { name := "mail" }] },
      { id := "2", name := "user", position := ⟨.ofNat 0, .zero⟩, attributes :=
          [{ name := "mail" }, { name := "mail" }] },
      { id := "3", name := "Team", position := ⟨.ofNat 0, .zero⟩ } ]
  relations := [ { id := "r", source := "3", target := "1" } ]

theorem archive_blocks : (Audit.checkDocument archive).isSound = true ∧
    Document.accept archive = .ok archiveDocument ∧
    archiveDocument.loaded = .ok archiveDiagram ∧
    List.Forall₂ StoredModel.ShownIn archiveDocument.models archiveDiagram.blocks := by
  have passes : (Audit.checkDocument archive).isSound = true := by rfl
  have accepted : Document.accept archive = .ok archiveDocument := by rfl
  have loads : archiveDocument.loaded = .ok archiveDiagram := by rfl
  have distinct : (archiveDocument.models.map StoredModel.nodeId).Nodup := by decide
  exact ⟨passes, accepted, loads, (blocks_of_stored passes accepted loads).2.2.mpr distinct⟩

def twins : Json :=
  .object
    [ ("models", .list [storedModel "1" "user" [], storedModel "1" "Team" []]),
      ("relations", .list []) ]

/-- A document of two models that passes the audit, is loaded as two entities, and becomes one block
without a warning. -/
theorem twins_lost : (Audit.checkDocument twins).isSound = true ∧
    ((Document.accept twins).bind Document.loaded).toOption.map (fun d =>
      (d.entities.map Entity.name, d.blocks.map Block.name, d.warnings)) =
    some (["user".toList, "Team".toList], ["Team".toList], []) := by
  exact ⟨by rfl, by rfl⟩

end Diagram
end DiagramSchema
