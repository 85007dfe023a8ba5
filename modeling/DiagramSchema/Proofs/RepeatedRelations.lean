import DiagramSchema.Proofs.ModelBlocks

/-! Relations listed more than once. What a relation contributes depends on its edge alone, on its two
ends and its type, and each line of a block is written once, at its first place. So schema text
depends on the edges of a diagram in the order in which they first occur. -/
namespace DiagramSchema

namespace Distinct

variable {α β : Type} [BEq α] [LawfulBEq α] [BEq β] [LawfulBEq β]

theorem eraseDups_append_known {front known : List α} (before : ∀ a ∈ known, a ∈ front)
    (back : List α) : (front ++ (known ++ back)).eraseDups = (front ++ back).eraseDups := by
  have nothing : known.removeAll front = [] := by
    rw [List.removeAll, List.filter_eq_nil_iff]
    intro a member
    simpa using before a member
  have new : (known ++ back).removeAll front = back.removeAll front := by
    rw [List.removeAll, List.filter_append]
    rw [List.removeAll] at nothing
    rw [nothing, List.nil_append, List.removeAll]
  rw [List.eraseDups_append, List.eraseDups_append, new]

theorem eraseDups_flatMap_eraseDups (f : α → List β) (front : List β) (l : List α) :
    (front ++ l.eraseDups.flatMap f).eraseDups = (front ++ l.flatMap f).eraseDups := by
  -- the lines of the first item join the front, and so do not count again where it is repeated
  induction l using eraseDups_induction generalizing front with
  | nil => rfl
  | cons a rest ih =>
    have new : ((rest.filter fun b => !b == a).flatMap f).removeAll (front ++ f a) =
        (rest.flatMap f).removeAll (front ++ f a) := by
      refine filter_flatMap_filter fun b _ repeats => ?_
      obtain rfl : b = a := by simpa using repeats
      rw [List.filter_eq_nil_iff]
      intro c inside
      simp [inside]
    rw [List.eraseDups_cons, List.flatMap_cons, List.flatMap_cons, ← List.append_assoc,
      ← List.append_assoc, ih, List.eraseDups_append, new, ← List.eraseDups_append]

end Distinct

def Relation.edge (r : Relation) : Text × Text × Text := (r.source, r.target, r.type)

namespace Diagram

def textsOf (d : Diagram) (id : Text) (edge : Text × Text × Text) : List Text :=
  ((d.contributionsOf ⟨[], edge.1, edge.2.1, edge.2.2⟩).filter fun c => c.1 == id).map fun c => c.2.text

theorem contributed_texts (d : Diagram) (id : Text) :
    (d.contributedLines id).map Line.text =
      (d.relations.map Relation.edge).flatMap (d.textsOf id) := by
  rw [contributedLines, List.map_map, List.filter_flatMap, List.map_flatMap, List.flatMap_map]
  rfl

theorem block_lines (d : Diagram) (e : Entity) : (d.block e).lines =
    ((Line.identity :: e.attributeLines).map Line.text ++
      (d.relations.map Relation.edge).flatMap (d.textsOf e.id)).eraseDups := by
  rw [block, List.map_append, contributed_texts]

/-- Relations that give the same edges, in the order in which these first occur, give the same
schema text. -/
theorem schema_of_edges {d : Diagram} {relations : List Relation}
    (same : (relations.map Relation.edge).eraseDups = (d.relations.map Relation.edge).eraseDups)
    (s : Settings) : { d with relations }.schema s = d.schema s := by
  have block : { d with relations }.block = d.block := by
    funext e
    have lines : ({ d with relations }.block e).lines = (d.block e).lines := by
      rw [block_lines, block_lines, ← Distinct.eraseDups_flatMap_eraseDups, same,
        ← Distinct.eraseDups_flatMap_eraseDups _ _ (d.relations.map Relation.edge)]
      rfl
    exact congrArg (Block.mk e.modelName) lines
  exact schema_of_block block rfl s

/-- A relation with the edge of an earlier one leaves no trace in schema text, and neither does any
number of relations that repeat edges of the diagram at its end. -/
theorem repeated_edges_traceless (d : Diagram) (s : Settings) :
    (∀ before r after, d.relations = before ++ r :: after → (∃ q ∈ before, q.edge = r.edge) →
      ({ d with relations := before ++ after }.emit s).value.schema = (d.emit s).value.schema) ∧
    ∀ more : List Relation, (∀ r ∈ more, ∃ q ∈ d.relations, q.edge = r.edge) →
      ({ d with relations := d.relations ++ more }.emit s).value.schema =
        (d.emit s).value.schema := by
  constructor
  · intro before r after listed repeated
    refine schema_of_edges ?_ s
    have known : ∀ edge ∈ [r.edge], edge ∈ before.map Relation.edge := by
      simpa using repeated
    rw [listed, List.map_append, List.map_append, List.map_cons]
    exact (Distinct.eraseDups_append_known known _).symm
  · intro more repeated
    refine schema_of_edges ?_ s
    have known : ∀ edge ∈ more.map Relation.edge, edge ∈ d.relations.map Relation.edge := by
      simpa using repeated
    have left := Distinct.eraseDups_append_known known []
    rwa [List.append_nil, List.append_nil, ← List.map_append] at left

def crowd : Diagram where
  entities := [ { id := "1", name := "user" }, { id := "2", name := "User" } ]
  relations :=
    [ { id := "r", source := "1", target := "2", type := "1-m" },
      { id := "s", source := "2", target := "1", type := "n-n" },
      { id := "t", source := "1", target := "9", type := "m-n" },
      { id := "q", source := "1", target := "2", type := "1-m" },
      { id := "u", source := "1", target := "1", type := "1-1" } ]

def echoes : List Relation := crowd.relations.reverse.map fun r => { r with id := "e" ++ r.id }

theorem crowd_traceless :
    ({ crowd with relations := crowd.relations.take 3 ++ crowd.relations.drop 4 }.emit {}).value.schema =
        (crowd.emit {}).value.schema ∧
      (∀ r ∈ echoes, ∃ q ∈ crowd.relations, q.edge = r.edge) ∧
      ({ crowd with relations := crowd.relations ++ echoes }.emit {}).value.schema =
        (crowd.emit {}).value.schema := by
  have repeated : ∀ r ∈ echoes, ∃ q ∈ crowd.relations, q.edge = r.edge := by decide
  have traceless := repeated_edges_traceless crowd {}
  exact ⟨traceless.1 (crowd.relations.take 3) { id := "q", source := "1", target := "2" }
    (crowd.relations.drop 4) (by decide) (by decide), repeated, traceless.2 echoes repeated⟩

end Diagram
end DiagramSchema
