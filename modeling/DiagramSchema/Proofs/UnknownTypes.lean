import DiagramSchema.Proofs.DanglingRelations
import DiagramSchema.Proofs.ModelSeparation
import DiagramSchema.Proofs.RelationFields
import DiagramSchema.Proofs.ShownModels

/-! Relations of unknown types. Such a type is free text in a remark. As long as every comment ends in
its line, and nothing that the remark is read as closes the block or shows in the diagram, the relation
might as well not be there. A remark on one line is read as nothing. -/
namespace DiagramSchema
open Text

namespace Comment

theorem withoutLines_remark {s : Text} (oneLine : '\n' ∉ s) :
    withoutLines false (' ' :: ' ' :: '/' :: '/' :: s) = [' ', ' '] := by
  have margin : withoutLines false ([' ', ' '] ++ '/' :: '/' :: s) =
      [' ', ' '] ++ withoutLines false ('/' :: '/' :: s) := withoutLines_append (by decide) _
  rw [withoutLines, withoutLines_inside oneLine] at margin
  exact margin

theorem isWithinLines_of_unmarked {ls : List Text} (unmarked : ∀ line ∈ ls, ¬ ['/', '*'] <:+: line) :
    IsWithinLines ls := by
  have whole := withoutBlocks_unlines unmarked []
  have each : ls.map withoutBlocks = ls :=
    (List.map_congr_left fun line member => withoutBlocks_unmarked (unmarked line member)).trans
      (List.map_id ls)
  rw [List.append_nil, withoutBlocks, List.append_nil] at whole
  rw [IsWithinLines, each, whole]

end Comment

namespace Line

def isRemark : Line → Bool
  | .field .. => false
  | .remark _ => true

def isRemarkText (s : Text) : Bool := List.isPrefixOf "  //" s

theorem remark_text (s : Text) : (remark s).text = ' ' :: ' ' :: '/' :: '/' :: ' ' :: s := rfl

theorem isRemarkText_remark (s : Text) : isRemarkText (remark s).text = true := rfl

theorem Reads.isRemarkText {line : Line} {f : Field} (reads : Reads line f) :
    isRemarkText line.text = false := by
  cases begins : Line.isRemarkText line.text with
  | false => rfl
  | true =>
    obtain ⟨rest, shape⟩ := List.isPrefixOf_iff_prefix.mp begins
    have oneLine : '\n' ∉ rest := fun inside => reads.oneLine.no_feed (by simp [← shape, inside])
    have read := reads.read
    have text : line.text = ' ' :: ' ' :: '/' :: '/' :: rest := shape.symm
    have nothing : Field.read? (trim [' ', ' ']) = none := by decide
    rw [Field.ofLine?, text, Comment.withoutLines_remark oneLine, nothing] at read
    exact absurd read (by simp)

end Line

namespace SourceBlock

theorem pieces_inner {line : Text} (inner : IsInner line) : pieces line = [bare line] := by
  have oneLine : IsOneLine (Comment.withoutLines false line) := fun c inside =>
    inner.oneLine c (Comment.withoutLines_subset false line inside)
  rw [pieces, Comment.strip, Comment.withoutBlocks_unmarked inner.unmarked, lines_cons_feed oneLine]
  rfl

theorem pieces_remark {s : Text} (oneLine : '\n' ∉ s) : pieces (Line.remark s).text = [[]] := by
  -- block comments go first, and none of them begins before the two slashes
  have kept : Comment.withoutBlocks (Line.remark s).text =
      ' ' :: ' ' :: '/' :: '/' :: ' ' :: Comment.withoutBlocks s := by
    rw [Line.remark_text]
    iterate 5 rw [Comment.withoutBlocks_cons (by simp)]
  have still : '\n' ∉ ' ' :: Comment.withoutBlocks s := by
    intro inside
    rcases List.mem_cons.mp inside with blank | within
    · exact absurd blank (by decide)
    · exact oneLine ((Comment.withoutBlocks_sublist s).subset within)
  rw [pieces, Comment.strip, kept, Comment.withoutLines_remark still]
  decide

/-- A line of schema text that shows nothing among models of the given names: it neither closes its
block nor is a field that shows. -/
structure IsMute (names : List Text) (line : Text) : Prop where
  closesNot : line ≠ ['\x7d']
  showsNot : ∀ f ∈ Field.read? line, f.isShown names = false

instance (names : List Text) (line : Text) : Decidable (IsMute names line) :=
  decidable_of_iff (line ≠ ['\x7d'] ∧ ∀ f ∈ Field.read? line, f.isShown names = false)
    ⟨fun ⟨closesNot, showsNot⟩ => ⟨closesNot, showsNot⟩, fun mute => ⟨mute.closesNot, mute.showsNot⟩⟩

theorem isMute_nil (names : List Text) : IsMute names [] := ⟨by simp, by simp [Field.read?]⟩

end SourceBlock

theorem Cardinality.isRemark_lines (c : Cardinality) (source target : Text) :
    ∀ line ∈ (c.lines source target).1 ++ (c.lines source target).2, line.isRemark = false := by
  cases c <;> simp [lines, Line.many, Line.key, Line.keyed, Line.opposite, Line.isRemark]

namespace Relation

variable {r : Relation}

def remark (r : Relation) (target : Text) : Text :=
  "relation to " ++ target ++ " (" ++ r.typeWord ++ ")"

theorem lines_unknown (unknown : ¬r.IsKnown) (source target : Text) :
    r.lines source target = ([.remark (r.remark target)], []) := by
  rw [lines, ofText_unknown unknown]
  rfl

theorem typeWord_of {p : Text → Prop} (own : p r.type) (empty : p "unknown") : p r.typeWord := by
  rw [typeWord, orElse]
  split
  · exact empty
  · exact own

theorem remark_oneLine {target : Text} (isName : target.IsName) (oneLine : '\n' ∉ r.type) :
    '\n' ∉ r.remark target := by
  have inName : '\n' ∉ target := isName.lacks (isWord_of_isBlank (by decide))
  have inWord : '\n' ∉ r.typeWord := typeWord_of (p := fun s => '\n' ∉ s) oneLine (by decide)
  have around : '\n' ∉ ("relation to ".toList : Text) ∧ '\n' ∉ (" (".toList : Text) ∧
      '\n' ∉ (")".toList : Text) := by decide
  unfold remark
  simp only [List.mem_append, not_or]
  exact ⟨⟨⟨⟨around.1, inName⟩, around.2.1⟩, inWord⟩, around.2.2⟩

theorem remark_unmarked {target : Text} (isName : target.IsName) (unmarked : ¬ ['/', '*'] <:+: r.type) :
    ¬ ['/', '*'] <:+: (Line.remark (r.remark target)).text := by
  have inWord : ¬ ['/', '*'] <:+: r.typeWord :=
    typeWord_of (p := fun s => ¬ ['/', '*'] <:+: s) unmarked (by decide)
  have shape : (Line.remark (r.remark target)).text =
      ("  // relation to ".toList ++ target ++ [' ']) ++ '(' :: (r.typeWord ++ ')' :: []) := by
    unfold remark
    rw [Line.remark_text]
    simp
  have other : isWord '*' = false := by decide
  have inName : '*' ∉ target := isName.lacks other
  intro inside
  rw [shape] at inside
  -- the mark reaches across neither bracket
  rcases infix_append_cons (by simp) (by decide) inside with front | back
  · have star := front.subset (by simp : '*' ∈ ['/', '*'])
    simp [inName] at star
  · rcases infix_append_cons (by simp) (by decide) back with word | nothing
    · exact inWord word
    · simp at nothing

end Relation

namespace Diagram

def withoutUnknown (d : Diagram) : Diagram :=
  { d with relations := d.relations.filter fun r => r.IsKnown }

/-- Names that are identifiers, and attributes that schema text can hold. Relations may be any. -/
structure Drafted (d : Diagram) : Prop where
  named : ∀ e ∈ d.entities, isIdentifier e.name = true
  attributeNamed : ∀ e ∈ d.entities, ∀ a ∈ e.attributes, isIdentifier a.name = true
  plainDefault : ∀ e ∈ d.entities, ∀ a ∈ e.attributes, a.HasPlainDefault

instance (d : Diagram) : Decidable d.Drafted :=
  decidable_of_iff
    ((∀ e ∈ d.entities, isIdentifier e.name = true) ∧
      (∀ e ∈ d.entities, ∀ a ∈ e.attributes, isIdentifier a.name = true) ∧
      ∀ e ∈ d.entities, ∀ a ∈ e.attributes, a.HasPlainDefault)
    ⟨fun ⟨names, attributes, defaults⟩ => ⟨names, attributes, defaults⟩,
      fun h => ⟨h.named, h.attributeNamed, h.plainDefault⟩⟩

variable {d : Diagram}

theorem isRemark_contribution {r : Relation} {c : Text × Line} (member : c ∈ d.contributionsOf r) :
    c.2.isRemark = true ↔ ¬r.IsKnown := by
  obtain ⟨source, target, _, _, inside⟩ := mem_contributionsOf member
  by_cases known : r.IsKnown
  · obtain ⟨cardinality, lines⟩ := Relation.lines_known known
    rw [lines] at inside
    simp [known, cardinality.isRemark_lines source target _ inside]
  · rw [Relation.lines_unknown known, List.append_nil, List.mem_singleton] at inside
    simp [known, inside, Line.isRemark]

theorem contributedLines_withoutUnknown (d : Diagram) (id : Text) :
    d.withoutUnknown.contributedLines id = (d.contributedLines id).filter fun line => !line.isRemark := by
  have fields : (d.relations.filter fun r => r.IsKnown).flatMap d.contributionsOf =
      (d.relations.flatMap d.contributionsOf).filter fun c => !c.2.isRemark := by
    rw [← filter_flatMap_filter, eq_comm, List.filter_eq_self]
    · intro c member
      obtain ⟨r, listed, contributed⟩ := List.mem_flatMap.mp member
      have known : r.IsKnown := of_decide_eq_true (List.mem_filter.mp listed).2
      simpa [known] using isRemark_contribution contributed
    · intro r _ unknown
      rw [List.filter_eq_nil_iff]
      intro c contributed
      simpa [of_decide_eq_false unknown] using isRemark_contribution contributed
  show ((((d.relations.filter fun r => r.IsKnown).flatMap d.contributionsOf).filter
    fun c => c.1 == id).map Prod.snd) = _
  rw [fields, contributedLines, List.filter_map, List.filter_comm]
  rfl

/-- Every comment of the schema text ends in the line that it begins in, and nothing that the remark
of a relation is read as closes the block or shows. -/
structure IsQuiet (d : Diagram) : Prop where
  comments : Comment.IsWithinLines d.sourceLines
  mute : ∀ r ∈ d.relations, ¬r.IsKnown → ∀ c ∈ d.contributionsOf r,
    ∀ piece ∈ SourceBlock.pieces c.2.text, SourceBlock.IsMute (d.blocks.map Block.name) piece

instance (d : Diagram) : Decidable d.IsQuiet :=
  decidable_of_iff
    (Comment.IsWithinLines d.sourceLines ∧ ∀ r ∈ d.relations, ¬r.IsKnown → ∀ c ∈ d.contributionsOf r,
      ∀ piece ∈ SourceBlock.pieces c.2.text, SourceBlock.IsMute (d.blocks.map Block.name) piece)
    ⟨fun ⟨comments, mute⟩ => ⟨comments, mute⟩, fun quiet => ⟨quiet.comments, quiet.mute⟩⟩

theorem names_withoutUnknown (d : Diagram) :
    d.withoutUnknown.blocks.map Block.name = d.blocks.map Block.name := by
  rw [blocks, blocks, List.map_map, List.map_map]
  rfl

namespace Drafted

variable (drafted : d.Drafted)

include drafted

theorem without : d.withoutUnknown.Drafted :=
  ⟨drafted.named, drafted.attributeNamed, drafted.plainDefault⟩

theorem model_identifier {id name : Text} (found : d.modelName? id = some name) :
    isIdentifier name = true := by
  obtain ⟨e, member, _, rfl⟩ := mem_of_modelName found
  exact Naming.capitalized_identifier (drafted.named e member)

theorem block_isName : ∀ b ∈ d.blocks, b.name.IsName := by
  intro b member
  obtain ⟨e, known, rfl⟩ := List.mem_map.mp member
  exact isName_of_identifier
    (Naming.capitalized_identifier (drafted.named e (mem_of_mem_latestByKey known)))

theorem contribution_reads {r : Relation} (known : r.IsKnown) {c : Text × Line}
    (contributed : c ∈ d.contributionsOf r) : ∃ f, Line.Reads c.2 f := by
  obtain ⟨source, target, atSource, atTarget, inLines⟩ := mem_contributionsOf contributed
  obtain ⟨cardinality, lines⟩ := Relation.lines_known known
  rw [lines] at inLines
  rcases List.mem_append.mp inLines with start | stop
  · obtain ⟨f, _, reads⟩ := Counterparts.of_mem
      (cardinality.source_lines_read (drafted.model_identifier atTarget)) c.2 start
    exact ⟨f, reads⟩
  · obtain ⟨f, _, reads⟩ := Counterparts.of_mem
      (cardinality.target_lines_read (drafted.model_identifier atSource)) c.2 stop
    exact ⟨f, reads⟩

theorem line_cases {e : Entity} (member : e ∈ d.entities) {line : Line}
    (inside : line ∈ Line.identity :: e.attributeLines ++ d.contributedLines e.id) :
    (∃ f, Line.Reads line f) ∨
      ∃ r ∈ d.relations, ¬r.IsKnown ∧ ∃ c ∈ d.contributionsOf r, c.2 = line := by
  rw [List.cons_append] at inside
  rcases List.mem_cons.mp inside with rfl | later
  · exact Or.inl ⟨_, Line.identity_reads⟩
  rcases List.mem_append.mp later with own | shared
  · obtain ⟨a, written, rfl⟩ := List.mem_map.mp own
    have listed := (List.mem_filter.mp written).1
    exact Or.inl ⟨_, Attribute.line_reads
      (isName_of_identifier (drafted.attributeNamed e member a listed))
      (drafted.plainDefault e member a listed)⟩
  · obtain ⟨r, listed, c, contributed, rfl⟩ := mem_contributedLines shared
    by_cases known : r.IsKnown
    · exact Or.inl (drafted.contribution_reads known contributed)
    · exact Or.inr ⟨r, listed, known, c, contributed, rfl⟩

theorem block_line_cases {e : Entity} (member : e ∈ d.entities) {s : Text}
    (inside : s ∈ (d.block e).lines) : (∃ line f, Line.Reads line f ∧ line.text = s) ∨
      ∃ r ∈ d.relations, ¬r.IsKnown ∧ ∃ c ∈ d.contributionsOf r, c.2.text = s := by
  obtain ⟨line, written, rfl⟩ := List.mem_map.mp (List.mem_eraseDups.mp inside)
  rcases drafted.line_cases member written with ⟨f, reads⟩ | ⟨r, listed, unknown, c, contributed, rfl⟩
  · exact Or.inl ⟨line, f, reads, rfl⟩
  · exact Or.inr ⟨r, listed, unknown, c, contributed, rfl⟩

theorem isRemarkText_line {e : Entity} (member : e ∈ d.entities) {line : Line}
    (inside : line ∈ Line.identity :: e.attributeLines ++ d.contributedLines e.id) :
    Line.isRemarkText line.text = line.isRemark := by
  cases line with
  | remark s => exact Line.isRemarkText_remark s
  | field name type mark decorators =>
    rcases drafted.line_cases member inside with ⟨f, reads⟩ | ⟨r, _, unknown, c, contributed, same⟩
    · exact reads.isRemarkText
    · have isRemark := (isRemark_contribution contributed).mpr unknown
      rw [same] at isRemark
      exact absurd isRemark (by simp [Line.isRemark])

theorem block_withoutUnknown {e : Entity} (member : e ∈ d.entities) :
    (d.withoutUnknown.block e).lines =
      (d.block e).lines.filter fun s => !Line.isRemarkText s := by
  have fields : (Line.identity :: e.attributeLines ++ d.contributedLines e.id).filter
      (fun line => !line.isRemark) =
        Line.identity :: e.attributeLines ++ d.withoutUnknown.contributedLines e.id := by
    have own : e.attributeLines.filter (fun line => !line.isRemark) = e.attributeLines := by
      refine List.filter_eq_self.mpr fun line written => ?_
      obtain ⟨a, _, rfl⟩ := List.mem_map.mp written
      rfl
    rw [List.cons_append, List.filter_cons_of_pos rfl, List.filter_append, own,
      contributedLines_withoutUnknown, List.cons_append]
  have kept : (Line.identity :: e.attributeLines ++ d.contributedLines e.id).filter
      ((fun s => !Line.isRemarkText s) ∘ Line.text) =
        Line.identity :: e.attributeLines ++ d.withoutUnknown.contributedLines e.id := by
    rw [← fields]
    refine List.filter_congr fun line inside => ?_
    rw [Function.comp_apply, drafted.isRemarkText_line member inside]
  -- repeated lines are left out by their texts, and so are remarks
  show _ = ((_ : List Text).eraseDups).filter _
  rw [Distinct.filter_eraseDups, List.filter_map, kept]
  rfl

theorem contribution_remark {r : Relation} (unknown : ¬r.IsKnown) {c : Text × Line}
    (contributed : c ∈ d.contributionsOf r) :
    ∃ target : Text, target.IsName ∧ c.2 = .remark (r.remark target) := by
  obtain ⟨source, target, _, atTarget, inside⟩ := mem_contributionsOf contributed
  rw [Relation.lines_unknown unknown, List.append_nil, List.mem_singleton] at inside
  exact ⟨target, isName_of_identifier (drafted.model_identifier atTarget), inside⟩

/-- A type is quiet unless it holds a line feed or the mark that a comment begins with. -/
theorem isQuiet_of_plain (plain : ∀ r ∈ d.relations, ¬r.IsKnown →
    '\n' ∉ r.type ∧ ¬ ['/', '*'] <:+: r.type) : d.IsQuiet := by
  constructor
  · refine Comment.isWithinLines_of_unmarked fun s member => ?_
    obtain ⟨b, known, within⟩ := List.mem_flatMap.mp member
    rcases SourceBlock.source_cases (drafted.block_isName b known) within with body | inert
    · obtain ⟨e, inModels, rfl⟩ := List.mem_map.mp known
      rcases drafted.block_line_cases (mem_of_mem_latestByKey inModels) body with
        ⟨line, f, reads, rfl⟩ | ⟨r, listed, unknown, c, contributed, rfl⟩
      · exact reads.unmarked
      · obtain ⟨target, isName, same⟩ := drafted.contribution_remark unknown contributed
        rw [same]
        exact Relation.remark_unmarked isName (plain r listed unknown).2
    · exact inert.2
  · intro r listed unknown c contributed piece member
    obtain ⟨target, isName, same⟩ := drafted.contribution_remark unknown contributed
    rw [same, SourceBlock.pieces_remark (Relation.remark_oneLine isName (plain r listed unknown).1),
      List.mem_singleton] at member
    rw [member]
    exact SourceBlock.isMute_nil _

theorem without_isQuiet : d.withoutUnknown.IsQuiet :=
  drafted.without.isQuiet_of_plain fun _ listed unknown =>
    absurd (of_decide_eq_true (List.mem_filter.mp listed).2) unknown

variable (quiet : d.IsQuiet)

include quiet

theorem all_read : Model.all (d.schema {}) = latestByKey Model.name (d.blocks.map Model.ofBlock) := by
  refine Model.all_blocks drafted.block_isName quiet.comments fun b member s inside => ?_
  obtain ⟨e, known, rfl⟩ := List.mem_map.mp member
  rcases drafted.block_line_cases (mem_of_mem_latestByKey known) inside with
    ⟨line, f, reads, rfl⟩ | ⟨r, listed, unknown, c, contributed, rfl⟩
  · rw [SourceBlock.pieces_inner reads.inner, List.mem_singleton]
    exact reads.inner.closesNot.symm
  · intro closes
    exact (quiet.mute r listed unknown c contributed _ closes).closesNot rfl

theorem shown_withoutUnknown {e : Entity} (member : e ∈ d.entities) :
    (Model.ofBlock (d.withoutUnknown.block e)).shown (d.blocks.map Block.name) =
      (Model.ofBlock (d.block e)).shown (d.blocks.map Block.name) := by
  have silent : ∀ s ∈ (d.block e).lines, (!Line.isRemarkText s) = false →
      (SourceBlock.fieldsOf s).filter (Field.isShown (d.blocks.map Block.name)) = [] := by
    intro s inside remark
    rcases drafted.block_line_cases member inside with
      ⟨line, f, reads, rfl⟩ | ⟨r, listed, unknown, c, contributed, rfl⟩
    · exact absurd remark (by simp [reads.isRemarkText])
    · rw [List.filter_eq_nil_iff]
      intro f read
      obtain ⟨piece, known, found⟩ := List.mem_filterMap.mp read
      simp [(quiet.mute r listed unknown c contributed piece known).showsNot f found]
  have fields := filter_flatMap_filter silent
  rw [← drafted.block_withoutUnknown member] at fields
  exact congrArg (Model.mk e.modelName) fields

theorem isNameAmong_read (type : Text) :
    Model.isNameAmong (Model.all (d.schema {})) type = (d.blocks.map Block.name).contains type := by
  rw [drafted.all_read quiet, Model.isNameAmong_blocks]

theorem read_shown : (Model.all (d.withoutUnknown.schema {})).map (Model.shown (d.blocks.map Block.name)) =
    (Model.all (d.schema {})).map (Model.shown (d.blocks.map Block.name)) := by
  let shown (m : Model) : Model := m.shown (d.blocks.map Block.name)
  have each : ((d.modelEntities.map d.withoutUnknown.block).map Model.ofBlock).map shown =
      ((d.modelEntities.map d.block).map Model.ofBlock).map shown := by
    rw [List.map_map, List.map_map, List.map_map, List.map_map]
    exact List.map_congr_left fun e member =>
      drafted.shown_withoutUnknown quiet (mem_of_mem_latestByKey member)
  rw [drafted.all_read quiet, drafted.without.all_read drafted.without_isQuiet, Model.shown_latest,
    Model.shown_latest]
  exact congrArg (latestByKey Model.name) each

theorem diagram_read : Model.diagram (Model.all (d.withoutUnknown.schema {})) =
    Model.diagram (Model.all (d.schema {})) := by
  have named := drafted.without.isNameAmong_read drafted.without_isQuiet
  rw [names_withoutUnknown] at named
  rw [← Model.diagram_shown named, drafted.read_shown quiet,
    Model.diagram_shown (drafted.isNameAmong_read quiet)]

end Drafted

/-- Relations of unknown types make no difference to what is read of schema text. -/
theorem unknown_types_inert (drafted : d.Drafted) (inhabited : d.entities ≠ []) (quiet : d.IsQuiet) :
    ∃ g, ofSchema (d.schema {}) = .ok g ∧ ofSchema (d.withoutUnknown.schema {}) = .ok g := by
  have some : d.modelEntities ≠ [] := Distinct.latestByKey_nonempty inhabited
  have found : Model.all (d.schema {}) ≠ [] :=
    Model.all_nonempty drafted.block_isName fun none => some (List.map_eq_nil_iff.mp none)
  have still : Model.all (d.withoutUnknown.schema {}) ≠ [] :=
    Model.all_nonempty drafted.without.block_isName fun none => some (List.map_eq_nil_iff.mp none)
  refine ⟨_, ofSchema_nonempty found, ?_⟩
  rw [ofSchema_nonempty still, drafted.diagram_read quiet]

def sketch : Diagram where
  entities := [ { id := "1", name := "a", attributes := [{ name := "b" }] }, { id := "2", name := "B" } ]
  relations :=
    [ { id := "r", source := "1", target := "2", type := "1-m" },
      { id := "s", source := "2", target := "2", type := "\x7d // 1-1 */ model C \x7b" },
      { id := "t", source := "1", target := "2", type := "a /* b B */ c" },
      { id := "u", source := "1", target := "1", type := "\n\x7d \x7d\nmodel C \x7b\nc C" },
      { id := "v", source := "1", target := "3", type := "\n\x7d/*" } ]

theorem sketch_inert : sketch.Drafted ∧ sketch.entities ≠ [] ∧ sketch.IsQuiet ∧
    ∃ g, ofSchema (sketch.schema {}) = .ok g ∧ ofSchema (sketch.withoutUnknown.schema {}) = .ok g := by
  have drafted : sketch.Drafted := by decide
  have inhabited : sketch.entities ≠ [] := by decide
  have quiet : sketch.IsQuiet := by decide +kernel
  exact ⟨drafted, inhabited, quiet, unknown_types_inert drafted inhabited quiet⟩

/-- Types that add a model, a field or a relation to what is read, and two that take a model away. -/
def loud : List Diagram :=
  [ { entities := [{ id := "1", name := "A" }],
      relations := [{ id := "r", source := "1", target := "1", type := "\n\x7d\nmodel C \x7b" }] },
    { entities := [{ id := "1", name := "A" }],
      relations := [{ id := "r", source := "1", target := "1", type := "\n  secret Int\n" }] },
    { entities := [{ id := "1", name := "A" }],
      relations := [{ id := "r", source := "1", target := "1", type := "\n  a A\n" }] },
    { entities := [{ id := "1", name := "A" }, { id := "2", name := "B" }],
      relations :=
        [ { id := "r", source := "1", target := "2", type := "/*" },
          { id := "s", source := "2", target := "1", type := "*/" } ] } ]

theorem loud_heard : loud.Forall fun d => d.entities ≠ [] ∧ (d.entities.map Entity.id).Nodup ∧
    (∀ e ∈ d.entities, isIdentifier e.name = true ∧ ScalarType.ofName? e.modelName = none) ∧
    (d.entities.map Entity.modelName).Nodup ∧ (∀ e ∈ d.entities, e.attributes = []) ∧
    ofSchema (d.schema {}) ≠ ofSchema (d.withoutUnknown.schema {}) := by
  have heard {d : Diagram} (differ : (ofSchema (unlines d.sourceLines)).toOption ≠
      (ofSchema (unlines d.withoutUnknown.sourceLines)).toOption) :
      ofSchema (d.schema {}) ≠ ofSchema (d.withoutUnknown.schema {}) := by
    rw [ofSchema_body, ofSchema_body]
    exact fun same => differ (congrArg Except.toOption same)
  simp only [loud, List.Forall]
  refine ⟨?_, ?_, ?_, ?_⟩ <;>
    exact ⟨by decide, by decide, by decide, by decide, by decide, heard (by decide +kernel)⟩

end Diagram
end DiagramSchema
