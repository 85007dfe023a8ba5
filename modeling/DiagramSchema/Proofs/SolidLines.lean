import DiagramSchema.Proofs.BlockLayout
import DiagramSchema.Schema.Recovery

/-! The lines of schema text that count. Which models are read from a text depends on its lines that
are not blank, without the blanks around them; and of these, blanks at a line break or at an end of
the text make no difference. -/
namespace DiagramSchema
open Text

namespace Text

def solids (ls : List Text) : List Text := (ls.map trim).filter fun line => !line.isEmpty

/-- The lines of a text that are not blank, trimmed. -/
def solidLines (s : Text) : List Text := solids (lines s)

theorem solids_append (ls more : List Text) : solids (ls ++ more) = solids ls ++ solids more := by
  simp [solids]

theorem solids_cons (line : Text) (ls : List Text) : solids (line :: ls) = solids [line] ++ solids ls :=
  solids_append [line] ls

theorem solids_empty (ls : List Text) : solids ([] :: ls) = solids ls := by
  rw [solids_cons]
  rfl

theorem solids_of_trim {line other : Text} (same : trim line = trim other) :
    solids [line] = solids [other] := by
  rw [solids, solids, List.map_singleton, List.map_singleton, same]

/-- Lines that begin with the given one and go on with others; there may be none, if that is empty. -/
def Begin (ls : List Text) (first : Text) (more : List Text) : Prop :=
  ls = first :: more ∨ ls = [] ∧ first = [] ∧ more = []

theorem Begin.solids_eq {ls more : List Text} {first : Text} (begins : Begin ls first more) :
    solids ls = solids (first :: more) := by
  rcases begins with rfl | ⟨rfl, rfl, rfl⟩
  · rfl
  · rfl

theorem lines_pieces (s : Text) : ∃ first pieces more, s.splitOnP isLineBreak = first :: pieces ∧
    Begin (lines s) first more ∧ solids pieces = solids more := by
  fun_induction lines s with
  | case1 => exact ⟨[], [], [], List.splitOnP_nil, Or.inr ⟨rfl, rfl, rfl⟩, rfl⟩
  | case2 rest ih =>
    obtain ⟨first, pieces, more, divided, begins, same⟩ := ih
    have ends : isLineBreak '\r' = true ∧ isLineBreak '\n' = true := by decide
    refine ⟨[], [] :: first :: pieces, lines rest, ?_, Or.inl rfl, ?_⟩
    · rw [List.splitOnP_cons_eq_if_modifyHead, if_pos ends.1, List.splitOnP_cons_eq_if_modifyHead,
        if_pos ends.2, divided]
    · rw [solids_empty, solids_cons, same, ← solids_cons, begins.solids_eq]
  | case3 c rest _ ends ih =>
    obtain ⟨first, pieces, more, divided, begins, same⟩ := ih
    refine ⟨[], first :: pieces, lines rest, ?_, Or.inl rfl, ?_⟩
    · rw [List.splitOnP_cons_eq_if_modifyHead, if_pos ends, divided]
    · rw [solids_cons, same, ← solids_cons, begins.solids_eq]
  | case4 c rest _ ends none ih =>
    obtain ⟨first, pieces, more, divided, begins, same⟩ := ih
    rcases begins with some | ⟨-, rfl, rfl⟩
    · exact absurd (none.symm.trans some) (by simp)
    · refine ⟨[c], pieces, [], ?_, Or.inl rfl, same⟩
      rw [List.splitOnP_cons_eq_if_modifyHead, if_neg ends, divided]
      rfl
  | case5 c rest _ ends line others split ih =>
    obtain ⟨first, pieces, more, divided, begins, same⟩ := ih
    rcases begins with some | ⟨none, -, -⟩
    · obtain ⟨rfl, rfl⟩ := List.cons.inj (split.symm.trans some)
      refine ⟨c :: line, pieces, others, ?_, Or.inl rfl, same⟩
      rw [List.splitOnP_cons_eq_if_modifyHead, if_neg ends, divided]
      rfl
    · exact absurd (split.symm.trans none) (by simp)

theorem solidLines_pieces (s : Text) : solidLines s = solids (s.splitOnP isLineBreak) := by
  obtain ⟨first, pieces, more, divided, begins, same⟩ := lines_pieces s
  rw [solidLines, divided, solids_cons, same, ← solids_cons, begins.solids_eq]

theorem solidLines_nil : solidLines [] = [] := rfl

theorem solidLines_append_break {c : Char} (ends : isLineBreak c = true) (s t : Text) :
    solidLines (s ++ c :: t) = solidLines s ++ solidLines t := by
  rw [solidLines_pieces, List.splitOnP_append_cons s t ends, solids_append, ← solidLines_pieces,
    ← solidLines_pieces]

theorem solidLines_blank {c : Char} (blank : isBlank c = true) (s : Text) :
    solidLines (c :: s) = solidLines s := by
  cases ends : isLineBreak c with
  | true => exact solidLines_append_break ends [] s
  | false =>
    obtain ⟨first, pieces, divided⟩ := List.exists_cons_of_ne_nil (List.splitOnP_ne_nil isLineBreak s)
    rw [solidLines_pieces, List.splitOnP_cons_eq_if_modifyHead, if_neg (by simp [ends]),
      solidLines_pieces, divided, List.modifyHead_cons, solids_cons, solids_cons first,
      solids_of_trim (trim_blank blank first)]

theorem splitOnP_append_last {c : Char} (inside : isLineBreak c = false) (s : Text) :
    ∃ front last, s.splitOnP isLineBreak = front ++ [last] ∧
      (s ++ [c]).splitOnP isLineBreak = front ++ [last ++ [c]] := by
  induction s with
  | nil =>
    refine ⟨[], [], by simp [List.splitOnP_nil], ?_⟩
    rw [List.nil_append, List.splitOnP_cons_eq_if_modifyHead, if_neg (by simp [inside])]
    simp [List.splitOnP_nil]
  | cons d s ih =>
    obtain ⟨front, last, divided, longer⟩ := ih
    rw [List.cons_append, List.splitOnP_cons_eq_if_modifyHead, List.splitOnP_cons_eq_if_modifyHead,
      divided, longer]
    split
    · exact ⟨[] :: front, last, rfl, rfl⟩
    · cases front with
      | nil => exact ⟨[], d :: last, rfl, rfl⟩
      | cons first front => exact ⟨(d :: first) :: front, last, rfl, rfl⟩

theorem solidLines_append_blank {c : Char} (blank : isBlank c = true) (s : Text) :
    solidLines (s ++ [c]) = solidLines s := by
  cases ends : isLineBreak c with
  | true => rw [solidLines_append_break ends, solidLines_nil, List.append_nil]
  | false =>
    obtain ⟨front, last, divided, longer⟩ := splitOnP_append_last ends s
    have same : trim (last ++ [c]) = trim last := trim_append_blanks (by simpa using blank) last
    rw [solidLines_pieces, solidLines_pieces, divided, longer, solids_append, solids_append,
      solids_of_trim same]

theorem solidLines_blanks_append {gap : Text} (blank : ∀ c ∈ gap, isBlank c = true) (s : Text) :
    solidLines (gap ++ s) = solidLines s := by
  induction gap with
  | nil => rfl
  | cons c gap ih =>
    obtain ⟨first, later⟩ := List.forall_mem_cons.mp blank
    rw [List.cons_append, solidLines_blank first, ih later]

theorem solidLines_append_blanks {gap : Text} (blank : ∀ c ∈ gap, isBlank c = true) (s : Text) :
    solidLines (s ++ gap) = solidLines s := by
  induction gap generalizing s with
  | nil => rw [List.append_nil]
  | cons c gap ih =>
    obtain ⟨first, later⟩ := List.forall_mem_cons.mp blank
    rw [List.append_cons, ih later, solidLines_append_blank first]

end Text

namespace SourceBlock

theorem scan_filter (state : Option (Text × List Text)) (ls : List Text) :
    scan (state.map fun b => (b.1, b.2.filter fun line => !line.isEmpty))
        (ls.filter fun line => !line.isEmpty) =
      (scan state ls).map fun b => { b with body := b.body.filter fun line => !line.isEmpty } := by
  induction ls generalizing state with
  | nil =>
    cases state with
    | none => rfl
    | some block => rfl
  | cons line rest ih =>
    cases line with
    | nil =>
      cases state with
      | none => exact ih none
      | some block =>
        obtain ⟨name, body⟩ := block
        have same : (body ++ [[]]).filter (fun line => !line.isEmpty) =
            body.filter fun line => !line.isEmpty := by simp
        have later := ih (some (name, body ++ [[]]))
        rw [Option.map_some, same] at later
        rw [scan, if_neg (by simp)]
        exact later
    | cons c line =>
      rw [List.filter_cons_of_pos rfl]
      cases state with
      | none =>
        rw [Option.map_none, scan, scan]
        cases header? (c :: line) with
        | none => exact ih none
        | some found =>
          obtain ⟨name, inline⟩ := found
          dsimp only
          split
          · rw [List.map_cons, ← ih none]
            rfl
          · rw [← ih]
            cases inline <;> rfl
      | some block =>
        obtain ⟨name, body⟩ := block
        rw [Option.map_some, scan, scan]
        split
        · rw [List.map_cons, ← ih none]
          rfl
        · rw [← ih, Option.map_some, List.filter_append]
          rfl

theorem model_filter (b : SourceBlock) :
    model { b with body := b.body.filter fun line => !line.isEmpty } = b.model := by
  obtain ⟨name, body, closed⟩ := b
  rw [model, model, fields_body, fields_body, List.filterMap_filter]
  congr 1
  refine List.filterMap_congr fun line _ => ?_
  cases line <;> rfl

end SourceBlock

theorem Model.all_solid (text : Text) : all text =
    latestByKey Model.name
      ((SourceBlock.scan none (solidLines (Comment.strip text))).map SourceBlock.model) := by
  have filtered := SourceBlock.scan_filter none ((lines (Comment.strip text)).map trim)
  rw [Option.map_none] at filtered
  have same : SourceBlock.model ∘ (fun b : SourceBlock =>
      { b with body := b.body.filter fun line => !line.isEmpty }) = SourceBlock.model :=
    funext SourceBlock.model_filter
  rw [all, SourceBlock.all, solidLines, solids, filtered, List.map_map, same]

variable {s t : Text}

theorem Model.all_of_solidLines (same : solidLines (Comment.strip s) = solidLines (Comment.strip t)) :
    all s = all t := by
  rw [all_solid, all_solid, same]

theorem Diagram.ofSchema_of_models (same : Model.all s = Model.all t) : ofSchema s = ofSchema t := by
  rw [ofSchema, ofSchema, same]

end DiagramSchema
