import DiagramSchema.Proofs.ModelHeaders
import DiagramSchema.Proofs.Respacing

/-! Schema text put together from models and from lines between them. Each model is read with the
fields of its body, whatever braces stand in the lines of the body; of several with one name the last
counts. The last one need not be closed. -/
namespace DiagramSchema
open Text

/-- A part of a schema text: a line outside of all models, or a model with the lines of its body. -/
inductive Segment where
  | aside (line : Text)
  | model (b : Block)

namespace Segment

def lines : Segment → List Text
  | aside line => [line]
  | model b => Block.opener b.name :: (b.lines ++ [['\x7d']])

structure IsPlain (line : Text) : Prop where
  oneLine : IsOneLine line
  noLineMark : ¬ ['/', '/'] <:+: line
  noBlockMark : ¬ ['/', '*'] <:+: line

/-- A line that opens no model, or a model that none of its lines closes. -/
inductive IsWritten : Segment → Prop where
  | aside {line : Text} (plain : IsPlain line) (opensNot : ¬SourceBlock.IsHeader (trim line)) :
      IsWritten (aside line)
  | model {b : Block} (isName : b.name.IsName) (plain : ∀ line ∈ b.lines, IsPlain line)
      (closesNot : ∀ line ∈ b.lines, trim line ≠ ['\x7d']) : IsWritten (model b)

instance (line : Text) : Decidable (IsPlain line) :=
  decidable_of_iff (IsOneLine line ∧ ¬ ['/', '/'] <:+: line ∧ ¬ ['/', '*'] <:+: line)
    ⟨fun ⟨one, line, block⟩ => ⟨one, line, block⟩, fun ⟨one, line, block⟩ => ⟨one, line, block⟩⟩

instance : DecidablePred IsWritten
  | aside line =>
    decidable_of_iff (IsPlain line ∧ ¬SourceBlock.IsHeader (trim line))
      ⟨fun ⟨plain, opensNot⟩ => .aside plain opensNot, fun
        | .aside plain opensNot => ⟨plain, opensNot⟩⟩
  | model b =>
    decidable_of_iff (b.name.IsName ∧ (∀ line ∈ b.lines, IsPlain line) ∧
        ∀ line ∈ b.lines, trim line ≠ ['\x7d'])
      ⟨fun ⟨isName, plain, closesNot⟩ => .model isName plain closesNot, fun
        | .model isName plain closesNot => ⟨isName, plain, closesNot⟩⟩

def name? : Segment → Option Text
  | aside _ => none
  | model b => some b.name

/-- What is read of a part: the fields in the lines of the body. -/
def model? : Segment → Option Model
  | aside _ => none
  | model b => some ⟨b.name, SourceBlock.fields ⟨b.name, b.lines, true⟩⟩

/-- One model for each name, in the order in which the names first occur, with the fields of the last
body under that name. -/
structure Recovered (segments : List Segment) (models : List Model) : Prop where
  names : models.map Model.name = (segments.filterMap name?).eraseDups
  last : ∀ front b back, segments = front ++ model b :: back → b.name ∉ back.filterMap name? →
    ⟨b.name, SourceBlock.fields ⟨b.name, b.lines, true⟩⟩ ∈ models

theorem bare_plain {line : Text} (plain : IsPlain line) : SourceBlock.bare line = trim line := by
  rw [SourceBlock.bare, Comment.withoutLines_unmarked plain.noLineMark]

theorem inner_of_plain {line : Text} (plain : IsPlain line) (closesNot : trim line ≠ ['\x7d']) :
    SourceBlock.IsInner line := by
  refine ⟨plain.oneLine, plain.noBlockMark, ?_⟩
  rw [bare_plain plain]
  exact closesNot

theorem inner_of_written {b : Block} (plain : ∀ line ∈ b.lines, IsPlain line)
    (closesNot : ∀ line ∈ b.lines, trim line ≠ ['\x7d']) :
    ∀ line ∈ b.lines, SourceBlock.IsInner line :=
  fun line inside => inner_of_plain (plain line inside) (closesNot line inside)

theorem IsWritten.inert {s : Segment} (written : s.IsWritten) :
    ∀ line ∈ s.lines, IsOneLine line ∧ ¬ ['/', '*'] <:+: line := by
  intro line member
  cases written with
  | aside plain =>
    obtain rfl := List.mem_singleton.mp member
    exact ⟨plain.oneLine, plain.noBlockMark⟩
  | model isName plain closesNot =>
    have inner := inner_of_written plain closesNot
    exact SourceBlock.source_inert isName inner line (List.mem_cons_of_mem _ member)

def block? : Segment → Option SourceBlock
  | aside _ => none
  | model b => some ⟨b.name, b.lines.map SourceBlock.bare, true⟩

theorem scan_segment {s : Segment} (written : s.IsWritten) (rest : List Text) :
    SourceBlock.scan none (s.lines.map SourceBlock.bare ++ rest) =
      s.block?.toList ++ SourceBlock.scan none rest := by
  cases written with
  | @aside line plain opensNot =>
    have none : SourceBlock.header? (trim line) = none := SourceBlock.header_eq_none_iff.mpr opensNot
    rw [lines, List.map_singleton, bare_plain plain, List.singleton_append, SourceBlock.scan, none]
    rfl
  | model isName plain closesNot =>
    exact SourceBlock.scan_source isName (inner_of_written plain closesNot) rest

theorem scan_segments {segments : List Segment} (written : ∀ s ∈ segments, s.IsWritten)
    (rest : List Text) :
    SourceBlock.scan none ((segments.flatMap lines).map SourceBlock.bare ++ rest) =
      segments.filterMap block? ++ SourceBlock.scan none rest := by
  induction segments with
  | nil => rfl
  | cons s segments ih =>
    obtain ⟨first, later⟩ := List.forall_mem_cons.mp written
    rw [List.flatMap_cons, List.map_append, List.append_assoc, scan_segment first, ih later]
    cases s <;> rfl

theorem scan_unclosed {name : Text} {ls : List Text} (inside : ∀ line ∈ ls, line ≠ ['\x7d'])
    (body : List Text) : SourceBlock.scan (some (name, body)) ls = [⟨name, body ++ ls, false⟩] := by
  induction ls generalizing body with
  | nil => rw [SourceBlock.scan, List.append_nil]
  | cons line ls ih =>
    obtain ⟨first, later⟩ := List.forall_mem_cons.mp inside
    rw [SourceBlock.scan, if_neg first, ih later, List.append_assoc, List.singleton_append]

theorem scan_last {front : List Segment} {b : Block} (written : ∀ s ∈ front, s.IsWritten)
    (last : (model b).IsWritten) :
    SourceBlock.scan none
        ((front.flatMap lines ++ Block.opener b.name :: b.lines).map SourceBlock.bare) =
      front.filterMap block? ++ [⟨b.name, b.lines.map SourceBlock.bare, false⟩] := by
  cases last with
  | model isName plain closesNot =>
    have inside : ∀ line ∈ b.lines.map SourceBlock.bare, line ≠ ['\x7d'] := by
      intro line member
      obtain ⟨source, known, rfl⟩ := List.mem_map.mp member
      rw [bare_plain (plain source known)]
      exact closesNot source known
    rw [List.map_append, List.map_cons, scan_segments written, SourceBlock.bare_opener isName,
      SourceBlock.scan, SourceBlock.header_opener isName]
    exact congrArg _ (scan_unclosed inside [])

theorem model_of_body {b : Block} (plain : ∀ line ∈ b.lines, IsPlain line) (closed : Bool) :
    SourceBlock.model ⟨b.name, b.lines.map SourceBlock.bare, closed⟩ =
      ⟨b.name, SourceBlock.fields ⟨b.name, b.lines, true⟩⟩ := by
  rw [SourceBlock.model, SourceBlock.fields_bare, SourceBlock.fields_body]
  congr 1
  refine List.filterMap_congr fun line member => ?_
  rw [Field.ofLine?, Comment.withoutLines_unmarked (plain line member).noLineMark]

theorem models_of_blocks {segments : List Segment} (written : ∀ s ∈ segments, s.IsWritten) :
    (segments.filterMap block?).map SourceBlock.model = segments.filterMap model? := by
  rw [List.map_filterMap]
  refine List.filterMap_congr fun s member => ?_
  cases written s member with
  | aside => rfl
  | model isName plain closesNot => exact congrArg some (model_of_body plain true)

theorem name_model (s : Segment) : s.model?.map Model.name = s.name? := by
  cases s <;> rfl

theorem recovered_of_models {segments : List Segment} {text : Text}
    (read : (SourceBlock.all text).map SourceBlock.model = segments.filterMap model?) :
    Recovered segments (Model.all text) := by
  have names : (SourceBlock.all text).map SourceBlock.name = segments.filterMap name? := by
    have shown := congrArg (List.map Model.name) read
    rw [List.map_map, List.map_filterMap] at shown
    simp only [name_model] at shown
    exact shown
  constructor
  · rw [Model.names_all, names]
  · intro front b back split absent
    have later : b.name ∉ (back.filterMap model?).map Model.name := by
      rw [List.map_filterMap]
      simp only [name_model]
      exact absent
    have parts : segments.filterMap model? = front.filterMap model? ++
        ⟨b.name, SourceBlock.fields ⟨b.name, b.lines, true⟩⟩ :: back.filterMap model? := by
      rw [split, List.filterMap_append]
      rfl
    rw [Model.all, read, parts]
    exact mem_latestByKey_of_last later

end Segment

def joined (ls : List Text) : Text := List.intercalate ['\n'] ls

namespace Segment

theorem all_joined (ls : List Text) : Model.all (joined ls) = Model.all (unlines ls) := by
  cases ls with
  | nil => rfl
  | cons line ls =>
    have respaced : Respaced (joined (line :: ls)) (joined (line :: ls) ++ ['\n']) :=
      respaced_append (by decide) _
    rw [joined, Block.intercalate_feed (List.cons_ne_nil line ls)] at respaced
    have nothing : IsGap [] := by decide
    exact (Diagram.models_respaced nothing respaced).symm

theorem lines_inert {segments : List Segment} (written : ∀ s ∈ segments, s.IsWritten) :
    ∀ line ∈ segments.flatMap lines, IsOneLine line ∧ ¬ ['/', '*'] <:+: line := by
  intro line member
  obtain ⟨s, known, inside⟩ := List.mem_flatMap.mp member
  exact (written s known).inert line inside

/-- Text put together from segments is read segment by segment, whether the last model is closed or
not. -/
theorem segments_recovered {segments : List Segment} (written : ∀ s ∈ segments, s.IsWritten) :
    Recovered segments (Model.all (joined (segments.flatMap lines))) ∧
      ∀ front b, segments = front ++ [model b] →
        Recovered segments (Model.all (joined (segments.flatMap lines).dropLast)) := by
  constructor
  · have scanned := scan_segments written []
    rw [List.append_nil, SourceBlock.scan, List.append_nil] at scanned
    rw [all_joined]
    refine recovered_of_models ?_
    rw [SourceBlock.all_unlines (lines_inert written), scanned, models_of_blocks written]
  · rintro front b rfl
    obtain ⟨before, last⟩ := List.forall_mem_append.mp written
    have isLast : (model b).IsWritten := last _ (List.mem_singleton_self _)
    have cut : ((front ++ [model b]).flatMap lines).dropLast =
        front.flatMap lines ++ Block.opener b.name :: b.lines := by
      rw [List.flatMap_append, List.flatMap_singleton, lines, ← List.cons_append, ← List.append_assoc,
        List.dropLast_concat]
    have inert : ∀ line ∈ front.flatMap lines ++ Block.opener b.name :: b.lines,
        IsOneLine line ∧ ¬ ['/', '*'] <:+: line := by
      rw [← cut]
      exact fun line member => lines_inert written line (List.dropLast_subset _ member)
    rw [all_joined, cut]
    refine recovered_of_models ?_
    rw [SourceBlock.all_unlines inert, scan_last before isLast, List.map_append, models_of_blocks before,
      List.filterMap_append]
    cases isLast with
    | model isName plain closesNot =>
      rw [List.map_singleton, model_of_body plain false]
      rfl

def album : List Segment :=
  [ aside "datasource db \x7b".toList, aside "\x7d".toList,
    model ⟨"Photo".toList, ["  title String".toList, "model Album \x7b".toList,
      "  size Int @default(\"\x7d\")".toList]⟩,
    aside [], aside "  model Album".toList,
    model ⟨"Album".toList, [[], "  photos Photo[]".toList, "\x7d  x".toList]⟩ ]

def lastPhoto : Block := ⟨"Photo".toList, ["  taken DateTime? @default(now())".toList]⟩

theorem album_recovered : (∀ s ∈ album ++ [model lastPhoto], s.IsWritten) ∧
    (Model.all (joined ((album ++ [model lastPhoto]).flatMap lines).dropLast)).map Model.name =
      ["Photo".toList, "Album".toList] ∧
    ⟨"Photo".toList, SourceBlock.fields ⟨"Photo".toList, lastPhoto.lines, true⟩⟩ ∈
      Model.all (joined ((album ++ [model lastPhoto]).flatMap lines).dropLast) := by
  have written : ∀ s ∈ album ++ [model lastPhoto], s.IsWritten := by decide +kernel
  have read := (segments_recovered written).2 album lastPhoto rfl
  refine ⟨written, ?_, ?_⟩
  · rw [read.names]
    decide +kernel
  · exact read.last album lastPhoto [] rfl (by decide)

end Segment
end DiagramSchema
