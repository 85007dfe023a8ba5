import DiagramSchema.Proofs.DanglingRelations

/-! The fields that relations leave in the blocks of schema text. A relation of a known type links the
blocks at its two ends to each other, each link leads to a block of the text, and the key that a link
follows is a field beside it. -/
namespace DiagramSchema

namespace Line

def decorators : Line → List Text
  | .field _ _ _ decorators => decorators
  | .remark _ => []

/-- The model that a contributed field links to: its type, unless it is the field of a key. -/
def linked? : Line → Option Text
  | .field _ type _ decorators => if objectKey ∈ decorators then none else some type
  | .remark _ => none

def keyNamed (name mark : Text) : Line := .field name "String" mark [objectKey]

theorem follows_injective {key other : Text} (same : follows key = follows other) : key = other :=
  List.append_cancel_left (List.append_cancel_right same)

theorem objectKey_ne_follows (key : Text) : objectKey ≠ follows key := by
  intro same
  have second : 'd' = 'r' := Option.some.inj (congrArg (·[1]?) same)
  exact absurd second (by decide)

theorem linked_keyed (model mark : Text) : (keyed model mark).linked? = some model := by
  have apart : objectKey ∉ [follows (Naming.keyField model)] := by
    simpa using objectKey_ne_follows (Naming.keyField model)
  rw [keyed, linked?, if_neg apart]

/-- The lines that a relation of some type adds at one of its ends: they link to the model at the other
end if to any, and a key that one of them follows is in another. -/
structure IsSide (type model : Text) (lines : List Line) : Prop where
  links : ∀ line ∈ lines, ∀ other ∈ line.linked?, other = model
  keys : ∀ line ∈ lines, ∀ key, follows key ∈ line.decorators →
    (type = "1-m" ∧ keyNamed key [] ∈ lines) ∨ (type = "1-1" ∧ keyNamed key "?" ∈ lines)

variable {type model : Text}

theorem isSide_nil : IsSide type model [] := ⟨by simp, by simp⟩

theorem isSide_plain {line : Line} (links : ∀ other ∈ line.linked?, other = model)
    (plain : line.decorators = []) : IsSide type model [line] := by
  constructor
  · intro only member
    obtain rfl := List.mem_singleton.mp member
    exact links
  · intro only member key follows
    obtain rfl := List.mem_singleton.mp member
    rw [plain] at follows
    exact absurd follows List.not_mem_nil

theorem isSide_keyed {mark : Text} (marked : type = "1-m" ∧ mark = [] ∨ type = "1-1" ∧ mark = "?") :
    IsSide type model [key model mark, keyed model mark] := by
  constructor
  · intro line member other linked
    rcases List.mem_pair.mp member with rfl | rfl
    · exact absurd linked (by simp [key, linked?])
    · rw [linked_keyed] at linked
      exact (Option.some.inj linked).symm
  · intro line member name follows
    rcases List.mem_pair.mp member with rfl | rfl
    · exact absurd (List.mem_singleton.mp follows).symm (objectKey_ne_follows name)
    · obtain rfl := follows_injective (List.mem_singleton.mp follows)
      have beside : keyNamed (Naming.keyField model) mark ∈ [key model mark, keyed model mark] :=
        List.mem_cons_self
      rcases marked with ⟨named, rfl⟩ | ⟨named, rfl⟩
      · exact Or.inl ⟨named, beside⟩
      · exact Or.inr ⟨named, beside⟩

end Line

namespace Cardinality

variable (c : Cardinality) (source target : Text)

theorem isSide_lines : Line.IsSide c.text target (c.lines source target).1 ∧
    Line.IsSide c.text source (c.lines source target).2 := by
  have many (type model : Text) : Line.IsSide type model [.many model] :=
    Line.isSide_plain (fun other linked => (Option.some.inj linked).symm) rfl
  have opposite (type model : Text) : Line.IsSide type model [.opposite model] :=
    Line.isSide_plain (fun other linked => (Option.some.inj linked).symm) rfl
  cases c with
  | oneToMany => exact ⟨many _ _, Line.isSide_keyed (Or.inl ⟨rfl, rfl⟩)⟩
  | oneToOne => exact ⟨Line.isSide_keyed (Or.inr ⟨rfl, rfl⟩), opposite _ _⟩
  | manyToOne | manyToMany => exact ⟨many _ _, many _ _⟩

theorem linked_lines : (∃ line ∈ (c.lines source target).1, line.linked? = some target) ∧
    ∃ line ∈ (c.lines source target).2, line.linked? = some source := by
  cases c with
  | oneToMany => exact ⟨⟨.many target, by simp [lines], rfl⟩,
      .keyed source [], by simp [lines], Line.linked_keyed source []⟩
  | oneToOne => exact ⟨⟨.keyed target "?", by simp [lines], Line.linked_keyed target "?"⟩,
      .opposite source, by simp [lines], rfl⟩
  | manyToOne | manyToMany => exact ⟨⟨.many target, by simp [lines], rfl⟩,
      .many source, by simp [lines], rfl⟩

end Cardinality

theorem Relation.isSide_lines (r : Relation) (source target : Text) :
    Line.IsSide r.type target (r.lines source target).1 ∧
      Line.IsSide r.type source (r.lines source target).2 := by
  unfold lines
  split
  · rename_i c type
    obtain named : c.text = r.type := Cardinality.ofText?_eq_some_iff.mp type
    rw [← named]
    exact c.isSide_lines source target
  · exact ⟨Line.isSide_plain (by simp [Line.linked?]) rfl, Line.isSide_nil⟩

namespace Diagram

variable {d : Diagram} {r : Relation}

theorem contribution_shown (listed : r ∈ d.relations) {e : Entity} {line : Line}
    (contributed : (e.id, line) ∈ d.contributionsOf r) : line.text ∈ (d.block e).lines := by
  have inBlock : line ∈ d.contributedLines e.id := by
    refine List.mem_map_of_mem (f := Prod.snd) (a := (e.id, line)) (List.mem_filter.mpr ⟨?_, by simp⟩)
    exact List.mem_flatMap.mpr ⟨r, listed, contributed⟩
  rw [block, List.mem_eraseDups]
  exact List.mem_map_of_mem (List.mem_cons_of_mem _ (List.mem_append_right _ inBlock))

theorem ends_of_joins (joins : d.Joins r) : ∃ e ∈ d.modelEntities, ∃ f ∈ d.modelEntities,
    e.id = r.source ∧ f.id = r.target ∧ d.contributionsOf r =
      (r.lines e.modelName f.modelName).1.map (e.id, ·) ++
        (r.lines e.modelName f.modelName).2.map (f.id, ·) := by
  obtain ⟨source, target, atSource, atTarget⟩ := modelNames_of_joins joins
  obtain ⟨e, first, ownSource, rfl⟩ := modelEntity_of_name atSource
  obtain ⟨f, second, ownTarget, rfl⟩ := modelEntity_of_name atTarget
  refine ⟨e, first, f, second, ownSource, ownTarget, ?_⟩
  rw [contributionsOf, atSource, atTarget, ownSource, ownTarget]

def HasLink (d : Diagram) (r : Relation) (e f : Entity) : Prop :=
  ∃ line, (e.id, line) ∈ d.contributionsOf r ∧ line.linked? = some f.modelName ∧
    line.text ∈ (d.block e).lines

/-- Two entities whose blocks a relation links to each other. -/
structure AreLinked (d : Diagram) (r : Relation) (e f : Entity) : Prop where
  source : e ∈ d.modelEntities ∧ e.id = r.source
  target : f ∈ d.modelEntities ∧ f.id = r.target
  forth : d.HasLink r e f
  back : d.HasLink r f e

/-- A line that a relation contributes to the block of an entity. If it links to a model, then to one
of a block; if it follows a key, then one that a field of the block holds. -/
structure IsSound (d : Diagram) (r : Relation) (e : Entity) (line : Line) : Prop where
  shown : line.text ∈ (d.block e).lines
  links : ∀ model ∈ line.linked?, ∃ b ∈ d.blocks, b.name = model
  keys : ∀ key, Line.follows key ∈ line.decorators →
    (r.type = "1-m" ∧ (Line.keyNamed key []).text ∈ (d.block e).lines) ∨
      (r.type = "1-1" ∧ (Line.keyNamed key "?").text ∈ (d.block e).lines)

theorem IsSound.of_side {e f : Entity} {lines : List Line} (listed : r ∈ d.relations)
    (side : Line.IsSide r.type f.modelName lines) (within : f ∈ d.modelEntities)
    (contributed : ∀ line ∈ lines, (e.id, line) ∈ d.contributionsOf r)
    {line : Line} (member : line ∈ lines) : d.IsSound r e line := by
  have shown : ∀ line ∈ lines, line.text ∈ (d.block e).lines := fun line inside =>
    contribution_shown listed (contributed line inside)
  refine ⟨shown line member, ?_, ?_⟩
  · intro model linked
    exact ⟨d.block f, List.mem_map_of_mem within, (side.links line member model linked).symm⟩
  · intro key follows
    exact (side.keys line member key follows).imp (And.imp_right (shown _)) (And.imp_right (shown _))

theorem areLinked (listed : r ∈ d.relations) (joins : d.Joins r) (known : r.IsKnown) :
    ∃ e f, d.AreLinked r e f := by
  obtain ⟨e, first, f, second, ownSource, ownTarget, contributions⟩ := ends_of_joins joins
  obtain ⟨c, lines⟩ := Relation.lines_known known
  obtain ⟨⟨forth, inSource, toTarget⟩, back, inTarget, toSource⟩ :=
    c.linked_lines e.modelName f.modelName
  rw [lines] at contributions
  have goes : (e.id, forth) ∈ d.contributionsOf r := by
    rw [contributions]
    exact List.mem_append_left _ (List.mem_map_of_mem inSource)
  have comes : (f.id, back) ∈ d.contributionsOf r := by
    rw [contributions]
    exact List.mem_append_right _ (List.mem_map_of_mem inTarget)
  exact ⟨e, f, ⟨first, ownSource⟩, ⟨second, ownTarget⟩,
    ⟨forth, goes, toTarget, contribution_shown listed goes⟩,
    ⟨back, comes, toSource, contribution_shown listed comes⟩⟩

theorem contribution_sound (listed : r ∈ d.relations) {id : Text} {line : Line}
    (contributed : (id, line) ∈ d.contributionsOf r) :
    ∃ e ∈ d.modelEntities, e.id = id ∧ d.IsSound r e line := by
  have joins : d.Joins r := by
    by_contra dangling
    rw [contributionsOf_dangling dangling] at contributed
    exact absurd contributed List.not_mem_nil
  obtain ⟨e, first, f, second, -, -, contributions⟩ := ends_of_joins joins
  obtain ⟨atSource, atTarget⟩ := r.isSide_lines e.modelName f.modelName
  rw [contributions] at contributed
  rcases List.mem_append.mp contributed with start | stop
  · obtain ⟨_, member, same⟩ := List.mem_map.mp start
    obtain ⟨rfl, rfl⟩ := Prod.mk.inj same
    refine ⟨e, first, rfl, .of_side listed atSource second (fun other inside => ?_) member⟩
    rw [contributions]
    exact List.mem_append_left _ (List.mem_map_of_mem inside)
  · obtain ⟨_, member, same⟩ := List.mem_map.mp stop
    obtain ⟨rfl, rfl⟩ := Prod.mk.inj same
    refine ⟨f, second, rfl, .of_side listed atTarget first (fun other inside => ?_) member⟩
    rw [contributions]
    exact List.mem_append_right _ (List.mem_map_of_mem inside)

/-- A relation of a known type between two entities links their blocks to each other. Whatever a
relation contributes stands in its block, links to a model of the text if to any, and has the key that
it follows beside it. -/
theorem relations_mutual (listed : r ∈ d.relations) :
    (d.Joins r → r.IsKnown → ∃ e f, d.AreLinked r e f) ∧
      ∀ id line, (id, line) ∈ d.contributionsOf r →
        ∃ e ∈ d.modelEntities, e.id = id ∧ d.IsSound r e line :=
  ⟨areLinked listed, fun _ _ => contribution_sound listed⟩

def guild : Diagram where
  entities :=
    [ { id := "1", name := "member" },
      { id := "2", name := "Task", attributes :=
        [{ name := "userId", constraint := { required := true, isId := true } }] },
      { id := "1", name := "user" } ]
  relations :=
    [ { id := "r", source := "1", target := "9", type := "1-1" },
      { id := "s", source := "1", target := "1", type := "1-1" },
      { id := "t", source := "1", target := "2", type := "1-m" },
      { id := "u", source := "2", target := "1", type := "@relation(fields: [x])" } ]

theorem guild_mutual :
    ({ id := "t", source := "1", target := "2" } : Relation) ∈ guild.relations ∧
    (∃ e f, guild.AreLinked { id := "t", source := "1", target := "2" } e f) ∧
    (("2" : Text), Line.keyed "User" []) ∈ guild.contributionsOf { id := "t", source := "1", target := "2" } ∧
    ∃ e ∈ guild.modelEntities, e.id = "2" ∧
      guild.IsSound { id := "t", source := "1", target := "2" } e (Line.keyed "User" []) := by
  have listed : ({ id := "t", source := "1", target := "2" } : Relation) ∈ guild.relations := by decide
  have contributed : (("2" : Text), Line.keyed "User" []) ∈
      guild.contributionsOf { id := "t", source := "1", target := "2" } := by decide
  exact ⟨listed, (relations_mutual listed).1 (by decide) (by decide), contributed,
    (relations_mutual listed).2 _ _ contributed⟩

end Diagram
end DiagramSchema
