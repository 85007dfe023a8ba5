import DiagramSchema.Proofs.ModelBlocks
import Mathlib.Data.List.Perm.Lattice

/-! The order in which entities and relations are listed. Another order of the entities is the order
of their blocks and nothing else; another order of the relations leaves each block with the same
lines, those of the entity itself in front. -/
namespace DiagramSchema

namespace Distinct

variable {α κ : Type} [BEq κ] [LawfulBEq κ]

theorem findRev_of_perm {key : α → κ} {items others : List α} (distinct : (items.map key).Nodup)
    (perm : others.Perm items) (k : κ) :
    others.findRev? (fun a => key a == k) = items.findRev? fun a => key a == k := by
  have stillDistinct : (others.map key).Nodup := (perm.map key).nodup_iff.mpr distinct
  cases found : items.findRev? fun a => key a == k with
  | some item =>
    rw [List.findRev?_eq_find?_reverse] at found
    have member : item ∈ items := List.mem_reverse.mp (List.mem_of_find?_eq_some found)
    obtain rfl : key item = k := by simpa using List.find?_some found
    exact findRev_of_distinct stillDistinct (perm.mem_iff.mpr member)
  | none =>
    rw [List.findRev?_eq_find?_reverse, List.find?_eq_none] at found ⊢
    intro a member
    exact found a (List.mem_reverse.mpr (perm.mem_iff.mp (List.mem_reverse.mp member)))

theorem eraseDups_perm {α : Type} [BEq α] [LawfulBEq α] {l m : List α} (perm : l.Perm m) :
    l.eraseDups.Perm m.eraseDups := by
  rw [List.perm_ext_iff_of_nodup (nodup_eraseDups l) (nodup_eraseDups m)]
  intro a
  rw [List.mem_eraseDups, List.mem_eraseDups, perm.mem_iff]

end Distinct

def Entity.ownTexts (e : Entity) : List Text :=
  ((Line.identity :: e.attributeLines).map Line.text).eraseDups

/-- Two blocks for one entity that differ in the order of what relations contribute at most. -/
structure Entity.Shared (e : Entity) (b c : Block) : Prop where
  name : b.name = c.name
  lines : ∃ more others, b.lines = e.ownTexts ++ more ∧ c.lines = e.ownTexts ++ others ∧
    more.Perm others

def Settings.layout (s : Settings) (blocks : List Block) : Text :=
  List.intercalate "\n" (s.header :: blocks.map fun b => b.text ++ "\n")

namespace Diagram

variable {d : Diagram}

section
variable {entities : List Entity} (distinct : (d.entities.map Entity.id).Nodup)
  (perm : entities.Perm d.entities)

include distinct perm

theorem modelName_of_perm : { d with entities }.modelName? = d.modelName? := by
  funext id
  exact congrArg (Option.map Entity.modelName) (Distinct.findRev_of_perm distinct perm id)

theorem block_of_perm : { d with entities }.block = d.block := by
  have contributed : { d with entities }.contributedLines = d.contributedLines := by
    funext id
    rw [contributedLines, contributedLines, contributionsOf_of_names (modelName_of_perm distinct perm)]
  funext e
  rw [block, block, contributed]

theorem blocks_of_perm : { d with entities }.blocks = entities.map d.block := by
  have stillDistinct : (entities.map Entity.id).Nodup := (perm.map Entity.id).nodup_iff.mpr distinct
  rw [← block_of_perm distinct perm]
  exact blocks_of_distinct stillDistinct

end

section
variable {relations : List Relation} (perm : relations.Perm d.relations)

include perm

theorem contributedLines_perm (id : Text) :
    ({ d with relations }.contributedLines id).Perm (d.contributedLines id) := by
  have contributions : (relations.flatMap d.contributionsOf).Perm (d.relations.flatMap d.contributionsOf) :=
    perm.flatMap_right d.contributionsOf
  exact (contributions.filter fun c => c.1 == id).map Prod.snd

theorem block_shared (e : Entity) : e.Shared ({ d with relations }.block e) (d.block e) := by
  have lines (g : Diagram) : (g.block e).lines = e.ownTexts ++
      (((g.contributedLines e.id).map Line.text).removeAll
        ((Line.identity :: e.attributeLines).map Line.text)).eraseDups := by
    rw [block, List.map_append, List.eraseDups_append, Entity.ownTexts]
  refine ⟨rfl, _, _, lines _, lines _, Distinct.eraseDups_perm ?_⟩
  exact ((contributedLines_perm perm e.id).map Line.text).filter _

end

/-- Other orders of the entities and of the relations of a diagram whose ids are distinct. The
entities take their blocks along, which stay as they are. The relations take their warnings along,
and each block has the same lines, the first of them in the same order. -/
theorem order_immaterial (distinct : (d.entities.map Entity.id).Nodup) (s : Settings) :
    (d.emit s).value = ⟨s.layout (d.entities.map d.block), d.relations.filterMap d.warning?⟩ ∧
      (∀ entities : List Entity, entities.Perm d.entities →
        ({ d with entities }.emit s).value =
          ⟨s.layout (entities.map d.block), d.relations.filterMap d.warning?⟩) ∧
      ∀ relations : List Relation, relations.Perm d.relations →
        ({ d with relations }.emit s).value =
            ⟨s.layout (d.entities.map { d with relations }.block), relations.filterMap d.warning?⟩ ∧
          ∀ e ∈ d.entities, e.Shared ({ d with relations }.block e) (d.block e) := by
  have emitted (g : Diagram) : (g.emit s).value = ⟨s.layout g.blocks, g.relations.filterMap g.warning?⟩ :=
    rfl
  refine ⟨?_, ?_, ?_⟩
  · rw [emitted, blocks_of_distinct distinct]
  · intro entities perm
    rw [emitted, blocks_of_perm distinct perm, warning_of_names (modelName_of_perm distinct perm)]
  · intro relations perm
    have blocks : { d with relations }.blocks = d.entities.map { d with relations }.block :=
      blocks_of_distinct distinct
    rw [emitted, blocks]
    exact ⟨rfl, fun e _ => block_shared perm e⟩

def workshop : Diagram where
  entities :=
    [ { id := "1", name := "user" },
      { id := "2", name := "Task", attributes :=
        [ { name := "userId", constraint := { required := true, isId := true } },
          { name := "title" } ] },
      { id := "3", name := "Task" } ]
  relations :=
    [ { id := "r", source := "1", target := "2", type := "1-m" },
      { id := "s", source := "1", target := "1", type := "1-1" },
      { id := "t", source := "3", target := "9", type := "m-n" },
      { id := "u", source := "2", target := "1", type := "often" },
      { id := "v", source := "1", target := "3", type := "m-1" } ]

theorem workshop_reordered : (workshop.entities.map Entity.id).Nodup ∧
    ({ workshop with entities := workshop.entities.reverse }.emit {}).value =
      ⟨Settings.layout {} (workshop.entities.reverse.map workshop.block),
        workshop.relations.filterMap workshop.warning?⟩ ∧
    ∀ e ∈ workshop.entities,
      e.Shared ({ workshop with relations := workshop.relations.reverse }.block e)
        (workshop.block e) := by
  have distinct : (workshop.entities.map Entity.id).Nodup := by decide
  have reordered := order_immaterial distinct {}
  exact ⟨distinct, reordered.2.1 _ (List.reverse_perm _),
    (reordered.2.2 _ (List.reverse_perm _)).2⟩

end Diagram
end DiagramSchema
