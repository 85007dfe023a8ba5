import DiagramSchema.Proofs.RecoveredDiagram
import Mathlib.Data.Char
import Mathlib.Data.List.Lex

/-! Which fields give the relations between models. Of all fields that link two models, whichever of
the two declares them, the first one gives the one relation between the two. To tell whether a field
is the first, it is enough to keep a key for each pair of models seen so far. -/
namespace DiagramSchema
open Text

structure Declaration where
  model : Text
  field : Field
deriving DecidableEq, Repr

namespace Declaration

def Links (a b : Text) (d : Declaration) : Prop :=
  (d.model = a ∧ d.field.type = b) ∨ (d.model = b ∧ d.field.type = a)

instance (a b : Text) : DecidablePred (Links a b) := fun d =>
  inferInstanceAs (Decidable ((d.model = a ∧ d.field.type = b) ∨ (d.model = b ∧ d.field.type = a)))

def relation (d : Declaration) : Relation :=
  ⟨d.model ++ "-" ++ d.field.type, d.model, d.field.type, if d.field.isList then "1-m" else "1-1"⟩

/-- The type is one of the names, and no field declared before links the same two models. -/
def IsNew (names : List Text) (before : List Declaration) (d : Declaration) : Prop :=
  d.field.type ∈ names ∧ ∀ e ∈ before, ¬e.Links d.model d.field.type

instance (names : List Text) (before : List Declaration) : DecidablePred (IsNew names before) :=
  fun d => inferInstanceAs
    (Decidable (d.field.type ∈ names ∧ ∀ e ∈ before, ¬e.Links d.model d.field.type))

def firsts (names : List Text) (before : List Declaration) : List Declaration → List Declaration
  | [] => []
  | d :: rest =>
    let later := firsts names (before ++ [d]) rest
    if d.IsNew names before then d :: later else later

/-- The key of a pair of names: the smaller one, a bar, and the other. -/
def pairKey (a b : Text) : Text := if a ≤ b then a ++ '|' :: b else b ++ '|' :: a

def unseen (names seen : List Text) : List Declaration → List Relation
  | [] => []
  | d :: rest =>
    if names.contains d.field.type && !seen.contains (pairKey d.model d.field.type) then
      d.relation :: unseen names (pairKey d.model d.field.type :: seen) rest
    else unseen names seen rest

theorem pairKey_comm (a b : Text) : pairKey a b = pairKey b a := by
  unfold pairKey
  by_cases below : a ≤ b
  · by_cases above : b ≤ a
    · rw [le_antisymm below above]
    · rw [if_pos below, if_neg above]
  · have above : b ≤ a := (le_total a b).resolve_left below
    rw [if_neg below, if_pos above]

theorem pairKey_eq_iff {a b c d : Text} (ha : a.IsName) (hb : b.IsName) (hc : c.IsName)
    (hd : d.IsName) : pairKey a b = pairKey c d ↔ (a = c ∧ b = d) ∨ (a = d ∧ b = c) := by
  have bar : isWord '|' = false := by decide
  constructor
  · intro same
    unfold pairKey at same
    split at same
    · split at same
      · exact Or.inl (ha.append_inj hc bar same)
      · exact Or.inr (ha.append_inj hd bar same)
    · split at same
      · exact Or.inr (hb.append_inj hc bar same).symm
      · exact Or.inl (hb.append_inj hd bar same).symm
  · rintro (⟨rfl, rfl⟩ | ⟨rfl, rfl⟩)
    · rfl
    · exact pairKey_comm a b

theorem links_iff {a b : Text} {d e : Declaration} (links : d.Links a b) :
    e.Links d.model d.field.type ↔ e.Links a b := by
  rcases links with ⟨rfl, rfl⟩ | ⟨rfl, rfl⟩
  · exact Iff.rfl
  · exact or_comm

theorem samePair_iff {d e : Declaration} :
    e.relation.samePair d.relation = true ↔ d.Links e.model e.field.type := by
  rw [Relation.samePair_iff]
  constructor
  · rintro (⟨source, target⟩ | ⟨source, target⟩)
    · exact Or.inl ⟨source.symm, target.symm⟩
    · exact Or.inr ⟨target.symm, source.symm⟩
  · rintro (⟨model, type⟩ | ⟨model, type⟩)
    · exact Or.inl ⟨model.symm, type.symm⟩
    · exact Or.inr ⟨type.symm, model.symm⟩

section
variable {names : List Text} {before ds : List Declaration} {d : Declaration} {a b : Text}

theorem known_of_links (first : a ∈ names) (second : b ∈ names) (links : d.Links a b) :
    d.field.type ∈ names := by
  rcases links with ⟨-, rfl⟩ | ⟨-, rfl⟩
  · exact second
  · exact first

theorem exists_links_append :
    (∃ e ∈ before ++ [d], e.Links a b) ↔ (∃ e ∈ before, e.Links a b) ∨ d.Links a b := by
  simp only [List.mem_append, List.mem_singleton, or_and_right, exists_or, exists_eq_left]

theorem exists_links_of_not_new (first : a ∈ names) (second : b ∈ names)
    (old : ¬d.IsNew names before) :
    (∃ e ∈ before ++ [d], e.Links a b) ↔ ∃ e ∈ before, e.Links a b := by
  rw [exists_links_append, or_iff_left_iff_imp]
  intro links
  by_contra none
  refine old ⟨known_of_links first second links, fun e member same => none ⟨e, member, ?_⟩⟩
  exact (links_iff links).mp same

theorem isNew_append {e : Declaration} :
    e.IsNew names (before ++ [d]) ↔ e.IsNew names before ∧ ¬d.Links e.model e.field.type := by
  unfold IsNew
  rw [List.forall_mem_append, List.forall_mem_singleton, and_assoc]

theorem filter_firsts (first : a ∈ names) (second : b ∈ names) (before ds : List Declaration) :
    (firsts names before ds).filter (fun d => d.Links a b) =
      if ∃ e ∈ before, e.Links a b then [] else (ds.find? fun d => d.Links a b).toList := by
  induction ds generalizing before with
  | nil => simp [firsts]
  | cons d rest ih =>
    by_cases new : d.IsNew names before
    · by_cases links : d.Links a b
      · have none : ¬∃ e ∈ before, e.Links a b := by
          rintro ⟨e, member, same⟩
          exact new.2 e member ((links_iff links).mpr same)
        rw [firsts, if_pos new, List.filter_cons_of_pos (by simpa using links), ih,
          if_pos (exists_links_append.mpr (Or.inr links)), if_neg none,
          List.find?_cons_of_pos (by simpa using links)]
        rfl
      · rw [firsts, if_pos new, List.filter_cons_of_neg (by simpa using links), ih,
          List.find?_cons_of_neg (by simpa using links)]
        simp only [exists_links_append, links, or_false]
    · rw [firsts, if_neg new, ih]
      simp only [exists_links_of_not_new first second new]
      by_cases done : ∃ e ∈ before, e.Links a b
      · rw [if_pos done, if_pos done]
      · have links : ¬d.Links a b := fun links => done
          ((exists_links_of_not_new first second new).mp (exists_links_append.mpr (Or.inr links)))
        rw [if_neg done, if_neg done, List.find?_cons_of_neg (by simpa using links)]

theorem eraseDupsBy_relations (declared : ∀ d ∈ ds, d.model ∈ names) (before : List Declaration) :
    ((ds.filter fun d => d.IsNew names before).map relation).eraseDupsBy Relation.samePair =
      (firsts names before ds).map relation := by
  induction ds generalizing before with
  | nil => rfl
  | cons d rest ih =>
    obtain ⟨-, later⟩ := List.forall_mem_cons.mp declared
    by_cases new : d.IsNew names before
    · have others : (((rest.filter fun e => e.IsNew names before).map relation).filter fun r =>
          !r.samePair d.relation) =
            (rest.filter fun e => e.IsNew names (before ++ [d])).map relation := by
        rw [List.filter_map, List.filter_filter]
        congr 1
        refine List.filter_congr fun e _ => ?_
        rw [Bool.eq_iff_iff]
        simp only [Function.comp_apply, Bool.and_eq_true, Bool.not_eq_true', ← Bool.not_eq_true,
          samePair_iff, decide_eq_true_eq, isNew_append]
        exact and_comm
      rw [firsts, if_pos new, List.filter_cons_of_pos (by simpa using new), List.map_cons,
        Distinct.eraseDupsBy_cons, others, ih later, List.map_cons]
    · have others : (rest.filter fun e => e.IsNew names before) =
          rest.filter fun e => e.IsNew names (before ++ [d]) := by
        refine List.filter_congr fun e member => ?_
        rw [Bool.eq_iff_iff, decide_eq_true_eq, decide_eq_true_eq, isNew_append,
          Iff.comm, and_iff_left_iff_imp]
        rintro ⟨known, none⟩ links
        obtain ⟨f, inside, same⟩ := (exists_links_of_not_new (later e member) known new).mp
          (exists_links_append.mpr (Or.inr links))
        exact none f inside same
      rw [firsts, if_neg new, List.filter_cons_of_neg (by simpa using new), others, ih later]

/-- The keys that have been seen are those of the pairs of models that some field has linked. -/
theorem unseen_eq (named : ∀ name ∈ names, name.IsName) (declared : ∀ d ∈ ds, d.model ∈ names)
    (before : List Declaration) (seen : List Text)
    (keys : ∀ a ∈ names, ∀ b ∈ names, pairKey a b ∈ seen ↔ ∃ e ∈ before, e.Links a b) :
    unseen names seen ds = (firsts names before ds).map relation := by
  -- the keys seen are kept in step with the fields declared before
  induction ds generalizing before seen with
  | nil => rfl
  | cons d rest ih =>
    obtain ⟨own, later⟩ := List.forall_mem_cons.mp declared
    have new_iff : (names.contains d.field.type && !seen.contains (pairKey d.model d.field.type)) =
        true ↔ d.IsNew names before := by
      rw [Bool.and_eq_true, List.contains_iff_mem, Bool.not_eq_true', ← Bool.not_eq_true,
        List.contains_iff_mem]
      refine and_congr_right fun known => ?_
      rw [keys d.model own d.field.type known]
      simp
    by_cases new : d.IsNew names before
    · have next : ∀ a ∈ names, ∀ b ∈ names,
          pairKey a b ∈ pairKey d.model d.field.type :: seen ↔
            ∃ e ∈ before ++ [d], e.Links a b := by
        intro a first b second
        rw [List.mem_cons, keys a first b second, exists_links_append, or_comm,
          pairKey_eq_iff (named a first) (named b second) (named d.model own)
            (named d.field.type new.1)]
        refine or_congr_right ?_
        rw [Links, eq_comm (a := a), eq_comm (a := b), eq_comm (a := a), eq_comm (a := b),
          and_comm (a := d.field.type = a)]
      rw [unseen, if_pos (new_iff.mpr new), firsts, if_pos new, List.map_cons, ih later _ _ next]
    · have next : ∀ a ∈ names, ∀ b ∈ names, pairKey a b ∈ seen ↔
          ∃ e ∈ before ++ [d], e.Links a b := by
        intro a first b second
        rw [keys a first b second, exists_links_of_not_new first second new]
      rw [unseen, if_neg (mt new_iff.mp new), firsts, if_neg new, ih later _ _ next]

end
end Declaration

namespace Model

variable {models : List Model}

def declarations (models : List Model) : List Declaration :=
  models.flatMap fun m => m.fields.map fun f => ⟨m.name, f⟩

theorem declared (models : List Model) : ∀ d ∈ declarations models, d.model ∈ models.map name := by
  intro d member
  obtain ⟨m, known, inside⟩ := List.mem_flatMap.mp member
  obtain ⟨f, _, rfl⟩ := List.mem_map.mp inside
  exact List.mem_map_of_mem known

theorem isNameAmong_iff {type : Text} :
    isNameAmong models type = true ↔ type ∈ models.map name := by
  simp [isNameAmong, List.mem_map]

theorem relation_eq (m : Model) (f : Field) : m.relation f = Declaration.relation ⟨m.name, f⟩ := by
  unfold relation Declaration.relation
  cases f.isList <;> rfl

theorem links_eq (models : List Model) : links models =
    ((declarations models).filter fun d => d.IsNew (models.map name) []).map
      Declaration.relation := by
  have new (m : Model) (f : Field) :
      decide (Declaration.IsNew (models.map name) [] ⟨m.name, f⟩) = isNameAmong models f.type := by
    rw [Bool.eq_iff_iff, decide_eq_true_eq, isNameAmong_iff, Declaration.IsNew]
    simp
  rw [links, declarations, List.filter_flatMap, List.map_flatMap]
  refine List.flatMap_congr fun m _ => ?_
  rw [List.filter_map, List.map_map]
  simp only [Function.comp_def, new, ← relation_eq]

theorem relations_eq_firsts (models : List Model) : relations models =
    (Declaration.firsts (models.map name) [] (declarations models)).map Declaration.relation := by
  rw [relations, links_eq, Declaration.eraseDupsBy_relations (declared models)]

/-- The relations of models, by the fields that they come from. -/
structure Inferred (models : List Model) (found : List Relation) : Prop where
  /-- Each field that is the first to link two models gives a relation, in the order of the fields. -/
  ordered : found = (Declaration.firsts (models.map name) [] (declarations models)).map
    Declaration.relation
  /-- Keys of pairs tell which fields these are. -/
  keyed : found = Declaration.unseen (models.map name) [] (declarations models)
  /-- Two models, or a model and itself, have the relation of the first field that links them, and
  no other; none if no field does. -/
  pairs : ∀ a ∈ models.map name, ∀ b ∈ models.map name,
    found.filter (fun r => (r.source = a ∧ r.target = b) ∨ (r.source = b ∧ r.target = a)) =
      ((declarations models).find? fun d => d.Links a b).toList.map Declaration.relation
  known : ∀ r ∈ found, r.source ∈ models.map name ∧ r.target ∈ models.map name
  distinct : (found.map Relation.id).Nodup

/-- The relations of models with different names are those of the first fields to link them. -/
theorem relations_inferred (distinct : (models.map name).Nodup)
    (named : ∀ m ∈ models, m.name.IsName) : Inferred models (relations models) := by
  have isName : ∀ n ∈ models.map name, n.IsName := List.forall_mem_map.mpr named
  have ordered := relations_eq_firsts models
  constructor
  · exact ordered
  · rw [ordered, Declaration.unseen_eq isName (declared models) [] []]
    simp
  · intro a first b second
    have single := Declaration.filter_firsts first second [] (declarations models)
    rw [if_neg (by simp)] at single
    rw [ordered, List.filter_map, ← single]
    rfl
  · intro r member
    obtain ⟨m, known, f, _, linked, rfl⟩ := mem_relations member
    exact ⟨List.mem_map_of_mem known, linked⟩
  · exact (diagram_wellFormed distinct named).distinctRelations

def clinic : List Model :=
  [ ⟨"Ward", [⟨"beds", "Bed", true, false, []⟩, ⟨"floor", "Int", false, false, []⟩,
      ⟨"annex", "Ward", false, true, []⟩]⟩,
    ⟨"Nurse", [⟨"head", "Nurse", true, false, []⟩, ⟨"ward", "Ward", false, false, []⟩,
      ⟨"badge", "Badge", false, false, []⟩, ⟨"former", "Ward", true, false, []⟩]⟩,
    ⟨"Bed", [⟨"ward", "Ward", false, false, []⟩]⟩ ]

theorem clinic_inferred : (clinic.map name).Nodup ∧ (∀ m ∈ clinic, m.name.IsName) ∧
    Inferred clinic (relations clinic) ∧
    (relations clinic).map (fun r => (r.id, r.type)) =
      [("Ward-Bed".toList, "1-m".toList), ("Ward-Ward".toList, "1-1".toList),
        ("Nurse-Nurse".toList, "1-m".toList), ("Nurse-Ward".toList, "1-1".toList)] := by
  have distinct : (clinic.map name).Nodup := by decide
  have named : ∀ m ∈ clinic, m.name.IsName := by decide
  exact ⟨distinct, named, relations_inferred distinct named, by decide⟩

end Model
end DiagramSchema
