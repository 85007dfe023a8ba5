import DiagramSchema.Proofs.Distinct
import DiagramSchema.Schema.Emission

/-! What the blocks of a diagram are made from. Relations know the entities at their ends by id, and
of these entities a block shows the model names alone. -/
namespace DiagramSchema

theorem findRev_map {α β : Type} (f : α → β) (p : β → Bool) (items : List α) :
    (items.map f).findRev? p = (items.findRev? fun a => p (f a)).map f := by
  rw [List.findRev?_eq_find?_reverse, List.findRev?_eq_find?_reverse, ← List.map_reverse,
    List.find?_map]
  rfl

theorem latestByKey_map {α β κ : Type} [DecidableEq κ] (key : β → κ) (f : α → β) (items : List α) :
    latestByKey key (items.map f) = (latestByKey (fun a => key (f a)) items).map f := by
  simp only [latestByKey, List.map_map, List.map_filterMap, findRev_map]
  rfl

theorem mem_keys_latestByKey {α κ : Type} [DecidableEq κ] {key : α → κ} {items : List α} {k : κ} :
    k ∈ (latestByKey key items).map key ↔ k ∈ items.map key := by
  rw [map_key_latestByKey, List.mem_eraseDups]

theorem nodup_keys_latestByKey {α κ : Type} [DecidableEq κ] (key : α → κ) (items : List α) :
    ((latestByKey key items).map key).Nodup := by
  rw [map_key_latestByKey]
  exact Distinct.nodup_eraseDups _

theorem exists_findRev {α κ : Type} [DecidableEq κ] {key : α → κ} {items : List α} {k : κ}
    (listed : k ∈ items.map key) : ∃ item, items.findRev? (fun item => key item == k) = some item := by
  obtain ⟨item, member, rfl⟩ := List.mem_map.mp listed
  rw [← Option.isSome_iff_exists, List.findRev?_eq_find?_reverse, List.find?_isSome]
  exact ⟨item, List.mem_reverse.mpr member, by simp⟩

theorem mem_latestByKey {α κ : Type} [DecidableEq κ] {key : α → κ} {items : List α} {k : κ} {item : α}
    (found : items.findRev? (fun item => key item == k) = some item) :
    item ∈ latestByKey key items := by
  obtain rfl := findRev?_key found
  refine List.mem_filterMap.mpr ⟨key item, ?_, found⟩
  rw [List.findRev?_eq_find?_reverse] at found
  exact List.mem_eraseDups.mpr
    (List.mem_map_of_mem (List.mem_reverse.mp (List.mem_of_find?_eq_some found)))

theorem findRev_of_mem_latestByKey {α κ : Type} [DecidableEq κ] {key : α → κ} {items : List α}
    {item : α} (kept : item ∈ latestByKey key items) :
    items.findRev? (fun other => key other == key item) = some item := by
  obtain ⟨k, _, found⟩ := List.mem_filterMap.mp kept
  obtain rfl := findRev?_key found
  exact found

theorem find_latestByKey {α κ : Type} [DecidableEq κ] (key : α → κ) (items : List α) (k : κ) :
    (latestByKey key items).find? (fun item => key item == k) =
      items.findRev? fun item => key item == k := by
  have distinct := nodup_keys_latestByKey key items
  cases last : items.findRev? fun item => key item == k with
  | none =>
    rw [List.findRev?_eq_find?_reverse, List.find?_eq_none] at last
    rw [List.find?_eq_none]
    exact fun item kept => last item (List.mem_reverse.mpr (mem_of_mem_latestByKey kept))
  | some item =>
    have kept := mem_latestByKey last
    obtain rfl := findRev?_key last
    cases found : (latestByKey key items).find? fun other => key other == key item with
    | none =>
      rw [List.find?_eq_none] at found
      exact absurd (beq_self_eq_true (key item)) (found item kept)
    | some other =>
      have same : key other = key item := by simpa using List.find?_some found
      have inside := List.mem_of_find?_eq_some found
      rw [List.inj_on_of_nodup_map distinct inside kept same]

theorem mem_latestByKey_of_last {α κ : Type} [DecidableEq κ] {key : α → κ} {front back : List α}
    {item : α} (last : key item ∉ back.map key) :
    item ∈ latestByKey key (front ++ item :: back) := by
  have none : back.reverse.find? (fun other => key other == key item) = none := by
    rw [List.find?_eq_none]
    intro other member same
    rw [List.mem_reverse] at member
    exact last (List.mem_map.mpr ⟨other, member, beq_iff_eq.mp same⟩)
  refine mem_latestByKey (k := key item) ?_
  rw [List.findRev?_eq_find?_reverse, List.reverse_append, List.reverse_cons, List.append_assoc,
    List.find?_append, none]
  simp

theorem filter_flatMap_filter {α β : Type} {p : β → Bool} {q : α → Bool} {f : α → List β}
    {items : List α} (other : ∀ a ∈ items, q a = false → (f a).filter p = []) :
    ((items.filter q).flatMap f).filter p = (items.flatMap f).filter p := by
  induction items with
  | nil => rfl
  | cons a rest ih =>
    have later := ih fun b member => other b (by simp [member])
    rw [List.flatMap_cons, List.filter_append, ← later]
    cases kept : q a with
    | false => rw [List.filter_cons_of_neg (by simp [kept]), other a (by simp) kept, List.nil_append]
    | true => rw [List.filter_cons_of_pos kept, List.flatMap_cons, List.filter_append]

def Entity.label (e : Entity) : Text × Text := (e.id, e.modelName)

namespace Diagram

variable {d g : Diagram}

theorem blocks_of_distinct (distinct : (d.entities.map Entity.id).Nodup) :
    d.blocks = d.entities.map d.block := by
  rw [blocks, modelEntities, Distinct.latestByKey_of_distinct distinct]

theorem modelEntity_of_name {id name : Text} (found : d.modelName? id = some name) :
    ∃ e ∈ d.modelEntities, e.id = id ∧ e.modelName = name := by
  obtain ⟨e, last, shown⟩ := Option.map_eq_some_iff.mp found
  have found : d.entities.findRev? (fun e => decide (e.id = id)) = some e := by
    simpa only [beq_eq_decide] using last
  exact ⟨e, mem_latestByKey found, findRev?_key found, shown⟩

theorem mem_of_modelName {id name : Text} (found : d.modelName? id = some name) :
    ∃ e ∈ d.entities, e.id = id ∧ e.modelName = name := by
  obtain ⟨e, kept, own, shown⟩ := modelEntity_of_name found
  exact ⟨e, mem_of_mem_latestByKey kept, own, shown⟩

theorem modelName_isSome {id : Text} (known : id ∈ d.entities.map Entity.id) :
    ∃ name, d.modelName? id = some name := by
  obtain ⟨e, found⟩ := exists_findRev known
  have last : d.entities.findRev? (fun e => e.id == id) = some e := by
    simpa only [beq_eq_decide] using found
  exact ⟨e.modelName, by rw [modelName?, last, Option.map_some]⟩

theorem modelName_label (d : Diagram) (id : Text) : d.modelName? id =
    ((d.entities.map Entity.label).findRev? fun l => l.1 == id).map Prod.snd := by
  rw [findRev_map, Option.map_map]
  rfl

def Contributes (d : Diagram) (r : Relation) (id : Text) (line : Line) : Prop :=
  ∃ source target, d.modelName? r.source = some source ∧ d.modelName? r.target = some target ∧
    (r.source = id ∧ line ∈ (r.lines source target).1 ∨ r.target = id ∧ line ∈ (r.lines source target).2)

theorem mem_contributionsOf_iff {r : Relation} {id : Text} {line : Line} :
    (id, line) ∈ d.contributionsOf r ↔ d.Contributes r id line := by
  unfold contributionsOf Contributes
  cases d.modelName? r.source with
  | none => simp
  | some source =>
    cases d.modelName? r.target with
    | none => simp
    | some target =>
      simp [and_comm]

theorem mem_contributionsOf {r : Relation} {c : Text × Line} (member : c ∈ d.contributionsOf r) :
    ∃ source target, d.modelName? r.source = some source ∧ d.modelName? r.target = some target ∧
      c.2 ∈ (r.lines source target).1 ++ (r.lines source target).2 := by
  obtain ⟨source, target, atSource, atTarget, added⟩ := mem_contributionsOf_iff.mp member
  refine ⟨source, target, atSource, atTarget, List.mem_append.mpr ?_⟩
  exact added.imp And.right And.right

theorem contributed_iff {id : Text} {line : Line} :
    line ∈ d.contributedLines id ↔ ∃ r ∈ d.relations, d.Contributes r id line := by
  simp only [contributedLines, List.mem_map, List.mem_filter, List.mem_flatMap,
    ← mem_contributionsOf_iff]
  constructor
  · rintro ⟨⟨_, _⟩, ⟨⟨r, listed, given⟩, own⟩, rfl⟩
    obtain rfl := beq_iff_eq.mp own
    exact ⟨r, listed, given⟩
  · rintro ⟨r, listed, given⟩
    exact ⟨(id, line), ⟨⟨r, listed, given⟩, by simp⟩, rfl⟩

theorem mem_contributedLines {id : Text} {line : Line} (member : line ∈ d.contributedLines id) :
    ∃ r ∈ d.relations, ∃ c ∈ d.contributionsOf r, c.2 = line := by
  obtain ⟨r, listed, given⟩ := contributed_iff.mp member
  exact ⟨r, listed, _, mem_contributionsOf_iff.mpr given, rfl⟩

theorem schema_of_block (block : d.block = g.block) (entities : d.entities = g.entities) (s : Settings) :
    d.schema s = g.schema s := by
  rw [schema, schema, blocks, blocks, modelEntities, modelEntities, entities, block]

section
variable (names : d.modelName? = g.modelName?)

include names

theorem contributionsOf_of_names : d.contributionsOf = g.contributionsOf := by
  funext r
  rw [contributionsOf, contributionsOf, names]

theorem warning_of_names : d.warning? = g.warning? := by
  funext r
  rw [warning?, warning?, names]

end

variable (labels : d.entities.map Entity.label = g.entities.map Entity.label)

include labels

theorem modelName_of_labels : d.modelName? = g.modelName? := by
  funext id
  rw [modelName_label, modelName_label, labels]

theorem contributedLines_of_labels (relations : d.relations = g.relations) :
    d.contributedLines = g.contributedLines := by
  funext id
  rw [contributedLines, contributedLines, contributionsOf_of_names (modelName_of_labels labels), relations]

end Diagram
end DiagramSchema
