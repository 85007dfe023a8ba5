import DiagramSchema.Proofs.AttributeLine
import DiagramSchema.Proofs.Counterparts
import DiagramSchema.Proofs.ModelBlocks
import Mathlib.Data.List.Induction

/-! Blocks built line by line. The entities open the blocks, each with the identity line and the lines
of its attributes; then the relations add their lines one after another. A line that a block has is
not added again, so a block grows at its end and nowhere else. The blocks that come about in this way
are those of the diagram. -/
namespace DiagramSchema
open Text

section
variable {α κ : Type} [DecidableEq κ] (key : α → κ)

def place (items : List α) (item : α) : List α :=
  if key item ∈ items.map key then items.map fun other => if key other = key item then item else other
  else items ++ [item]

theorem findRev_append_singleton (items : List α) (item : α) (k : κ) :
    (items ++ [item]).findRev? (fun other => key other == k) =
      if key item = k then some item else items.findRev? fun other => key other == k := by
  rw [List.findRev?_eq_find?_reverse, List.findRev?_eq_find?_reverse, List.reverse_append,
    List.reverse_singleton, List.singleton_append]
  by_cases own : key item = k
  · rw [if_pos own, List.find?_cons_of_pos (by simpa using own)]
  · rw [if_neg own, List.find?_cons_of_neg (by simpa using own)]

theorem latestByKey_append_singleton (items : List α) (item : α) :
    latestByKey key (items ++ [item]) = place key (latestByKey key items) item := by
  have keys : ((items ++ [item]).map key).eraseDups =
      (items.map key).eraseDups ++ ([key item].removeAll (items.map key)).eraseDups := by
    rw [List.map_append, List.eraseDups_append]
    rfl
  have listed : key item ∈ (latestByKey key items).map key ↔ key item ∈ items.map key :=
    mem_keys_latestByKey
  by_cases known : key item ∈ items.map key
  · have nothing : [key item].removeAll (items.map key) = [] := by
      simpa [List.removeAll] using known
    rw [place, if_pos (listed.mpr known), latestByKey, latestByKey, keys, nothing, List.eraseDups_nil,
      List.append_nil, List.map_filterMap]
    refine List.filterMap_congr fun k member => ?_
    obtain ⟨other, last⟩ := exists_findRev (List.mem_eraseDups.mp member)
    obtain rfl := findRev?_key last
    rw [findRev_append_singleton, last, Option.map_some]
    by_cases own : key item = key other
    · rw [if_pos own, if_pos own.symm]
    · rw [if_neg own, if_neg (Ne.symm own)]
  · have new : [key item].removeAll (items.map key) = [key item] := by
      simpa [List.removeAll] using known
    have front : (items.map key).eraseDups.filterMap
        (fun k => (items ++ [item]).findRev? fun other => key other == k) = latestByKey key items := by
      refine List.filterMap_congr fun k member => ?_
      rw [findRev_append_singleton, if_neg]
      rintro rfl
      exact known (List.mem_eraseDups.mp member)
    have last : [key item].eraseDups.filterMap
        (fun k => (items ++ [item]).findRev? fun other => key other == k) = [item] := by
      simp [List.eraseDups_cons]
    rw [place, if_neg (fun kept => known (listed.mp kept)), latestByKey, keys, new,
      List.filterMap_append, front, last]

theorem latestByKey_eq_foldl (items : List α) : latestByKey key items = items.foldl (place key) [] := by
  induction items using List.reverseRecOn with
  | nil => rfl
  | append_singleton items item ih =>
    rw [latestByKey_append_singleton, ih, List.foldl_append]
    rfl
end

namespace Block

def add (b : Block) (line : Line) : Block :=
  if b.lines.contains line.text then b else ⟨b.name, b.lines ++ [line.text]⟩

def addAll (b : Block) (lines : List Line) : Block := lines.foldl add b

theorem addAll_append (b : Block) (first second : List Line) :
    b.addAll (first ++ second) = (b.addAll first).addAll second :=
  List.foldl_append

theorem addAll_eq (b : Block) (lines : List Line) : b.addAll lines =
    ⟨b.name, b.lines ++ ((lines.map Line.text).removeAll b.lines).eraseDups⟩ := by
  induction lines generalizing b with
  | nil => simp [addAll]
  | cons line rest ih =>
    have step : b.addAll (line :: rest) = (b.add line).addAll rest := rfl
    rw [step, ih, List.map_cons, List.cons_removeAll]
    by_cases known : b.lines.contains line.text = true
    · have kept : b.add line = b := if_pos known
      rw [kept, if_neg (by simpa using known)]
    · have added : b.add line = ⟨b.name, b.lines ++ [line.text]⟩ := if_neg known
      have others : (rest.map Line.text).removeAll (b.lines ++ [line.text]) =
          ((rest.map Line.text).removeAll b.lines).filter fun text => !text == line.text := by
        rw [List.removeAll, List.removeAll, List.filter_filter]
        refine List.filter_congr fun text _ => ?_
        simp [Bool.and_comm, beq_eq_decide]
      rw [added, if_pos (by simpa using known), List.eraseDups_cons, others]
      simp

theorem addAll_eraseDups (name : Text) (texts : List Text) (lines : List Line) :
    (Block.mk name texts.eraseDups).addAll lines = ⟨name, (texts ++ lines.map Line.text).eraseDups⟩ := by
  have same : (lines.map Line.text).removeAll texts.eraseDups = (lines.map Line.text).removeAll texts := by
    refine List.filter_congr fun text _ => ?_
    simp
  rw [addAll_eq, List.eraseDups_append, same]

end Block

structure Draft where
  id : Text
  block : Block

def Entity.draft (e : Entity) : Draft :=
  ⟨e.id, (Block.mk e.modelName [Line.identity.text]).addAll e.attributeLines⟩

namespace Draft

def receive (id : Text) (lines : List Line) (draft : Draft) : Draft :=
  { draft with block := draft.block.addAll (if draft.id = id then lines else []) }

def nameOf? (drafts : List Draft) (id : Text) : Option Text :=
  (drafts.find? fun draft => draft.id == id).map fun draft => draft.block.name

def relate (drafts : List Draft) (r : Relation) : List Draft :=
  match nameOf? drafts r.source, nameOf? drafts r.target with
  | some source, some target =>
    let (atSource, atTarget) := r.lines source target
    drafts.map fun draft => (draft.receive r.source atSource).receive r.target atTarget
  | _, _ => drafts

/-- Nothing of a block is removed or moved. -/
structure Grows (old new : Draft) : Prop where
  id : new.id = old.id
  name : new.block.name = old.block.name
  lines : old.block.lines <+: new.block.lines

theorem Grows.refl (draft : Draft) : draft.Grows draft := ⟨rfl, rfl, List.prefix_refl _⟩

theorem Grows.trans {a b c : Draft} (first : a.Grows b) (second : b.Grows c) : a.Grows c :=
  ⟨second.id.trans first.id, second.name.trans first.name, first.lines.trans second.lines⟩

theorem receive_grows (id : Text) (lines : List Line) (draft : Draft) :
    draft.Grows (draft.receive id lines) := by
  rw [receive, Block.addAll_eq]
  exact ⟨rfl, rfl, List.prefix_append _ _⟩

theorem relate_grows (drafts : List Draft) (r : Relation) :
    List.Forall₂ Grows drafts (relate drafts r) := by
  unfold relate
  split
  · rw [List.forall₂_map_right_iff, List.forall₂_same]
    exact fun draft _ => (receive_grows _ _ draft).trans (receive_grows _ _ _)
  · exact List.forall₂_same.mpr fun draft _ => .refl draft

theorem related_grow (drafts : List Draft) (relations : List Relation) :
    List.Forall₂ Grows drafts (relations.foldl relate drafts) := by
  induction relations generalizing drafts with
  | nil => exact List.forall₂_same.mpr fun draft _ => .refl draft
  | cons r rest ih =>
    have compose (a b c : Draft) : a.Grows b → b.Grows c → a.Grows c := Grows.trans
    exact Counterparts.trans compose (relate_grows drafts r) (ih (relate drafts r))

end Draft

namespace Diagram

variable (d : Diagram)

def opened : List Draft := (d.entities.map Entity.draft).foldl (place Draft.id) []

def drafts : List Draft := d.relations.foldl Draft.relate d.opened

def draftOf (e : Entity) : Draft := ⟨e.id, d.block e⟩

def addRelation (r : Relation) : Diagram := { d with relations := d.relations ++ [r] }

theorem opened_eq : d.opened = d.modelEntities.map Entity.draft := by
  rw [opened, ← latestByKey_eq_foldl, latestByKey_map]
  rfl

theorem draft_unrelated (e : Entity) : { d with relations := [] }.draftOf e = e.draft := by
  have one : [Line.identity.text] = [Line.identity.text].eraseDups := rfl
  rw [draftOf, Entity.draft, one, Block.addAll_eraseDups, block, contributedLines]
  simp

theorem nameOf_drafts (id : Text) :
    Draft.nameOf? (d.modelEntities.map d.draftOf) id = d.modelName? id := by
  have found : d.modelEntities.find? (fun e => e.id == id) = d.entities.findRev? fun e => e.id == id := by
    simpa only [modelEntities, beq_eq_decide] using find_latestByKey Entity.id d.entities id
  rw [Draft.nameOf?, modelName?, ← found, List.find?_map, Option.map_map]
  rfl

theorem block_addRelation (r : Relation) (e : Entity) : (d.addRelation r).block e =
    (d.block e).addAll (((d.contributionsOf r).filter fun c => c.1 == e.id).map Prod.snd) := by
  have contributed : (d.addRelation r).contributedLines e.id = d.contributedLines e.id ++
      ((d.contributionsOf r).filter fun c => c.1 == e.id).map Prod.snd := by
    rw [contributedLines, addRelation, List.flatMap_append, List.filter_append, List.map_append,
      List.flatMap_singleton]
    rfl
  rw [block, contributed, block, Block.addAll_eraseDups, ← List.map_append]
  simp

theorem own_lines (id own : Text) (lines : List Line) :
    ((lines.map (id, ·)).filter fun c => c.1 == own).map Prod.snd = if own = id then lines else [] := by
  by_cases same : own = id
  · subst same
    simp [List.filter_map, Function.comp_def]
  · simp [List.filter_map, Function.comp_def, same, Ne.symm same]

theorem relate_drafts (r : Relation) : Draft.relate (d.modelEntities.map d.draftOf) r =
    (d.addRelation r).modelEntities.map (d.addRelation r).draftOf := by
  have grown (e : Entity) : (d.addRelation r).draftOf e = { d.draftOf e with
      block := (d.block e).addAll (((d.contributionsOf r).filter fun c => c.1 == e.id).map Prod.snd) } := by
    rw [draftOf, block_addRelation]
    rfl
  have same : (d.addRelation r).modelEntities = d.modelEntities := rfl
  have unchanged (none : d.contributionsOf r = []) : (d.addRelation r).draftOf = d.draftOf := by
    funext e
    rw [grown, none]
    rfl
  rw [Draft.relate, nameOf_drafts, nameOf_drafts, same]
  cases atSource : d.modelName? r.source with
  | none => rw [unchanged (by simp [contributionsOf, atSource])]
  | some source =>
    cases atTarget : d.modelName? r.target with
    | none => rw [unchanged (by simp [contributionsOf, atSource, atTarget])]
    | some target =>
      have both : d.contributionsOf r = (r.lines source target).1.map (r.source, ·) ++
          (r.lines source target).2.map (r.target, ·) := by
        rw [contributionsOf, atSource, atTarget]
      show (d.modelEntities.map d.draftOf).map (fun draft =>
        (draft.receive r.source (r.lines source target).1).receive r.target (r.lines source target).2) = _
      rw [List.map_map]
      refine List.map_congr_left fun e _ => ?_
      rw [grown, both, List.filter_append, List.map_append, own_lines, own_lines, Block.addAll_append]
      rfl

theorem drafts_eq : d.drafts = d.modelEntities.map d.draftOf := by
  obtain ⟨entities, relations⟩ := d
  induction relations using List.reverseRecOn with
  | nil =>
    refine (opened_eq _).trans (List.map_congr_left fun e _ => ?_)
    exact (draft_unrelated ⟨entities, []⟩ e).symm
  | append_singleton relations r ih =>
    have step : drafts ⟨entities, relations ++ [r]⟩ = Draft.relate (drafts ⟨entities, relations⟩) r :=
      List.foldl_append
    rw [step, ih, relate_drafts]
    rfl

theorem attributeLines_texts (e : Entity) : e.attributeLines.map Line.text =
    (e.attributes.filter fun a => a.name ≠ "id".toList).map fun a => a.line.text := by
  have kept : (fun a : Attribute => !a.isIdentity) = fun a => decide (a.name ≠ "id".toList) := by
    funext a
    rw [Attribute.isIdentity, decide_not, beq_eq_decide]
  rw [Entity.attributeLines, kept, List.map_map]
  rfl

theorem eraseDups_first_lines (e : Entity) :
    ((Line.identity :: e.attributeLines).map Line.text).eraseDups =
      Line.identity.text :: (e.attributeLines.map Line.text).eraseDups := by
  have others : (e.attributeLines.map Line.text).filter (fun text => !text == Line.identity.text) =
      e.attributeLines.map Line.text := by
    refine List.filter_eq_self.mpr fun text member => ?_
    obtain ⟨line, inside, rfl⟩ := List.mem_map.mp member
    obtain ⟨a, kept, rfl⟩ := List.mem_map.mp inside
    have noIdentity : a.isIdentity = false := by simpa using (List.mem_filter.mp kept).2
    simpa using (Attribute.identity_ne noIdentity).symm
  rw [List.map_cons, List.eraseDups_cons, others]

theorem block_lines_parts (e : Entity) : ∃ added, (d.block e).lines =
    Line.identity.text :: (e.attributeLines.map Line.text).eraseDups ++ added ∧
      ∀ text ∈ added, ∃ r ∈ d.relations, ∃ line, line.text = text ∧ d.Contributes r e.id line := by
  have lines : (d.block e).lines = ((Line.identity :: e.attributeLines).map Line.text).eraseDups ++
      (((d.contributedLines e.id).map Line.text).removeAll
        ((Line.identity :: e.attributeLines).map Line.text)).eraseDups := by
    rw [block, List.map_append, List.eraseDups_append]
  rw [lines, eraseDups_first_lines]
  refine ⟨_, rfl, fun text member => ?_⟩
  have contributed := (List.mem_filter.mp (List.mem_eraseDups.mp member)).1
  obtain ⟨line, inside, shown⟩ := List.mem_map.mp contributed
  obtain ⟨r, listed, given⟩ := contributed_iff.mp inside
  exact ⟨r, listed, line, shown, given⟩

/-- There is a block for each id. It starts with the identity line, goes on with the distinct lines of
the attributes of its entity, the last one of its id, and ends with lines of relations that have this
entity at an end. No line stands in it twice, and relations leave what stands in it where it is. -/
theorem blocks_built : d.drafts.map Draft.block = d.blocks ∧
    ((d.drafts.map Draft.id).Nodup ∧
      ∀ id, id ∈ d.drafts.map Draft.id ↔ id ∈ d.entities.map Entity.id) ∧
    (∀ draft ∈ d.drafts, ∃ e added, d.entities.findRev? (fun e => e.id == draft.id) = some e ∧
      draft.block.name = e.modelName ∧ draft.block.lines.Nodup ∧
      draft.block.lines = "  id String @id @default(auto()) @map(\"_id\") @db.ObjectId".toList ::
        ((e.attributes.filter fun a => a.name ≠ "id".toList).map fun a => a.line.text).eraseDups
          ++ added ∧
      ∀ text ∈ added, ∃ r ∈ d.relations, ∃ line, line.text = text ∧ d.Contributes r draft.id line) ∧
    ∀ (drafts : List Draft) (relations : List Relation),
      List.Forall₂ Draft.Grows drafts (relations.foldl Draft.relate drafts) := by
  refine ⟨?_, ?_, ?_, Draft.related_grow⟩
  · rw [drafts_eq, List.map_map]
    rfl
  · have ids : d.drafts.map Draft.id = d.modelEntities.map Entity.id := by
      rw [drafts_eq, List.map_map]
      rfl
    rw [ids]
    exact ⟨nodup_keys_latestByKey Entity.id d.entities, fun id => mem_keys_latestByKey⟩
  · rw [drafts_eq]
    intro draft member
    obtain ⟨e, kept, rfl⟩ := List.mem_map.mp member
    obtain ⟨added, lines, contributed⟩ := d.block_lines_parts e
    have last : d.entities.findRev? (fun other => other.id == e.id) = some e := by
      simpa only [beq_eq_decide] using findRev_of_mem_latestByKey kept
    rw [attributeLines_texts] at lines
    exact ⟨e, added, last, rfl, Distinct.nodup_eraseDups _, lines, contributed⟩

end Diagram
end DiagramSchema
