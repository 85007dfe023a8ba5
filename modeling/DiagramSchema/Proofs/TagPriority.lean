import DiagramSchema.Proofs.LoadedDocument

/-! The tag that a stored field collapses to: the first in order of priority that its constraints have,
in whatever order and however often, and otherwise one for its flags. Of several default constraints
it is the last whose value the attribute carries. -/
namespace DiagramSchema

def StoredConstraint.kind : StoredConstraint → Tag
  | .id => .id
  | .unique => .unique
  | .updatedAt => .updatedAt
  | .default _ => .default

def Tag.priority : List Tag := [.id, .unique, .updatedAt, .default]

theorem Tag.constraint_flags (tag : Tag) (value : Option Text) :
    ((tag.constraint value).isId = true ↔ tag = .id) ∧
      ((tag.constraint value).unique = true ↔ tag = .unique) ∧
      ((tag.constraint value).updatedAt = true ↔ tag = .updatedAt) ∧
      ((tag.constraint value).required = true ↔ tag = .required) := by
  cases tag <;> simp [Tag.constraint]

namespace StoredField

def Has (f : StoredField) (tag : Tag) : Prop := ∃ c ∈ f.constraints, c.kind = tag

/-- The tags of the constraints come before those of the flags. -/
inductive CollapsesTo (f : StoredField) : Tag → Prop
  | first {before after : List Tag} {tag : Tag} (listed : Tag.priority = before ++ tag :: after)
      (has : f.Has tag) (lacks : ∀ other ∈ before, ¬f.Has other) : CollapsesTo f tag
  | list (bare : ∀ tag ∈ Tag.priority, ¬f.Has tag) (isList : f.isList = true) : CollapsesTo f .list
  | required (bare : ∀ tag ∈ Tag.priority, ¬f.Has tag) (notList : f.isList = false)
      (notOptional : f.isOptional = false) : CollapsesTo f .required
  | optional (bare : ∀ tag ∈ Tag.priority, ¬f.Has tag) (notList : f.isList = false)
      (isOptional : f.isOptional = true) : CollapsesTo f .optional

/-- The value of the default constraint before which there is none. -/
def HasFirstDefault (f : StoredField) (value : Text) : Prop :=
  ∃ before after, f.constraints = before ++ .default value :: after ∧
    ∀ c ∈ before, c.kind ≠ .default

/-- The value of the default constraint after which there is none. -/
def HasLastDefault (f : StoredField) (value : Text) : Prop :=
  ∃ before after, f.constraints = before ++ .default value :: after ∧
    ∀ c ∈ after, c.kind ≠ .default

/-- The flag of the tag and the list flag are set, and the default is the one of the tag or the one
that stands beside the constraints. -/
structure CarriedBy (f : StoredField) (c : Constraint) : Prop where
  isId : c.isId = true ↔ f.CollapsesTo .id
  unique : c.unique = true ↔ f.CollapsesTo .unique
  updatedAt : c.updatedAt = true ↔ f.CollapsesTo .updatedAt
  required : c.required = true ↔ f.CollapsesTo .required
  list : c.list = f.isList
  value : ∀ value, f.CollapsesTo .default → f.HasLastDefault value → c.defaultValue = some value
  kept : ¬f.CollapsesTo .default → c.defaultValue = f.defaultValue

theorem value_eq_none {c : StoredConstraint} : c.value? = none ↔ c.kind ≠ .default := by
  cases c <;> simp [StoredConstraint.value?, StoredConstraint.kind]

theorem value_eq_some {c : StoredConstraint} {value : Text} :
    c.value? = some value ↔ c = .default value := by
  cases c <;> simp [StoredConstraint.value?]

theorem hasFirstDefault_iff {f : StoredField} {value : Text} : f.HasFirstDefault value ↔
    (f.constraints.filterMap StoredConstraint.value?).head? = some value := by
  rw [List.head?_eq_some_iff]
  simp only [List.filterMap_eq_cons_iff, value_eq_none, value_eq_some]
  constructor
  · rintro ⟨before, after, split, lacks⟩
    exact ⟨_, before, .default value, after, split, lacks, rfl, rfl⟩
  · rintro ⟨_, before, _, after, split, lacks, rfl, -⟩
    exact ⟨before, after, split, lacks⟩

theorem hasLastDefault_iff {f : StoredField} {value : Text} :
    f.HasLastDefault value ↔ f.lastDefault? = some value := by
  rw [lastDefault?, List.getLast?_eq_some_iff]
  simp only [List.filterMap_eq_append_iff, List.filterMap_eq_cons_iff, List.filterMap_eq_nil_iff,
    value_eq_none, value_eq_some]
  constructor
  · rintro ⟨before, after, split, lacks⟩
    exact ⟨_, before, _, split, rfl, [], .default value, after, rfl, by simp, rfl, lacks⟩
  · rintro ⟨_, before, _, split, -, middle, _, after, rfl, -, rfl, lacks⟩
    exact ⟨before ++ middle, after, by rw [split, List.append_assoc], lacks⟩

instance (f : StoredField) (tag : Tag) : Decidable (f.Has tag) :=
  inferInstanceAs (Decidable (∃ c ∈ f.constraints, c.kind = tag))

def foremost? (f : StoredField) : Option Tag := Tag.priority.find? fun tag => f.Has tag

theorem foremost_eq_some {f : StoredField} {tag : Tag} : f.foremost? = some tag ↔
    f.Has tag ∧ ∃ before after, Tag.priority = before ++ tag :: after ∧
      ∀ other ∈ before, ¬f.Has other := by
  rw [foremost?, List.find?_eq_some_iff_append]
  simp

theorem foremost_eq_none {f : StoredField} :
    f.foremost? = none ↔ ∀ tag ∈ Tag.priority, ¬f.Has tag := by
  rw [foremost?, List.find?_eq_none]
  simp

theorem bare_iff {f : StoredField} :
    (∀ tag ∈ Tag.priority, ¬f.Has tag) ↔ f.constraints = [] := by
  constructor
  · intro bare
    refine List.eq_nil_iff_forall_not_mem.mpr fun c member => ?_
    have listed : c.kind ∈ Tag.priority := by
      cases c <;> simp [StoredConstraint.kind, Tag.priority]
    exact bare c.kind listed ⟨c, member, rfl⟩
  · rintro none tag - ⟨c, member, -⟩
    rw [none] at member
    exact List.not_mem_nil member

theorem has_iff_contains (f : StoredField) {c : StoredConstraint}
    (alone : ∀ d : StoredConstraint, d.kind = c.kind → d = c) :
    f.Has c.kind ↔ f.constraints.contains c = true := by
  rw [List.contains_iff_mem]
  constructor
  · rintro ⟨d, member, same⟩
    exact alone d same ▸ member
  · exact fun member => ⟨c, member, rfl⟩

theorem has_default_iff (f : StoredField) : f.Has .default ↔ f.lastDefault? ≠ none := by
  rw [lastDefault?, Ne, List.getLast?_eq_none_iff, List.filterMap_eq_nil_iff]
  simp only [value_eq_none, not_forall, not_not]
  exact ⟨fun ⟨c, member, kind⟩ => ⟨c, member, kind⟩, fun ⟨c, member, kind⟩ => ⟨c, member, kind⟩⟩

def flagTag (f : StoredField) : Tag :=
  if f.isList then .list else if f.isOptional then .optional else .required

theorem flagTag_ne_default (f : StoredField) : f.flagTag ≠ .default := by
  rw [flagTag]
  cases f.isList <;> cases f.isOptional <;> simp

theorem tag_cases (f : StoredField) :
    (∃ tag, f.foremost? = some tag ∧ tag ≠ .default ∧ f.tag = (tag, none)) ∨
      (∃ value, f.foremost? = some .default ∧ f.lastDefault? = some value ∧
        f.tag = (.default, some value)) ∨
      (f.foremost? = none ∧ f.tag = (f.flagTag, none)) := by
  have hasId : f.Has .id ↔ f.constraints.contains .id = true :=
    f.has_iff_contains (c := .id) fun d => by cases d <;> simp [StoredConstraint.kind]
  have hasUnique : f.Has .unique ↔ f.constraints.contains .unique = true :=
    f.has_iff_contains (c := .unique) fun d => by cases d <;> simp [StoredConstraint.kind]
  have hasUpdatedAt : f.Has .updatedAt ↔ f.constraints.contains .updatedAt = true :=
    f.has_iff_contains (c := .updatedAt) fun d => by cases d <;> simp [StoredConstraint.kind]
  have hasDefault := f.has_default_iff
  -- Both search in the same order, so each answer settles one case of the search and of the tag.
  simp only [foremost?, Tag.priority, List.find?_cons, List.find?_nil, hasId, hasUnique,
    hasUpdatedAt, hasDefault, tag]
  cases f.constraints.contains .id with
  | true => exact .inl ⟨.id, by simp⟩
  | false =>
    cases f.constraints.contains .unique with
    | true => exact .inl ⟨.unique, by simp⟩
    | false =>
      cases f.constraints.contains .updatedAt with
      | true => exact .inl ⟨.updatedAt, by simp⟩
      | false =>
        cases f.lastDefault? with
        | some value => exact .inr (.inl ⟨value, by simp⟩)
        | none =>
          refine .inr (.inr ⟨by simp, ?_⟩)
          simp only [flagTag]
          cases f.isList <;> cases f.isOptional <;> simp

theorem collapsesTo_iff {f : StoredField} {tag : Tag} :
    f.CollapsesTo tag ↔ f.foremost?.getD f.flagTag = tag := by
  constructor
  · rintro (⟨listed, has, lacks⟩ | ⟨bare, isList⟩ | ⟨bare, notList, notOptional⟩ |
      ⟨bare, notList, isOptional⟩)
    · rw [foremost_eq_some.mpr ⟨has, _, _, listed, lacks⟩, Option.getD_some]
    · rw [foremost_eq_none.mpr bare, Option.getD_none, flagTag, if_pos isList]
    · simp [foremost_eq_none.mpr bare, flagTag, notList, notOptional]
    · simp [foremost_eq_none.mpr bare, flagTag, notList, isOptional]
  · rintro rfl
    cases found : f.foremost? with
    | some tag =>
      obtain ⟨has, before, after, listed, lacks⟩ := foremost_eq_some.mp found
      exact .first listed has lacks
    | none =>
      have bare := foremost_eq_none.mp found
      rw [Option.getD_none, flagTag]
      cases isList : f.isList with
      | true => exact .list bare isList
      | false =>
        cases isOptional : f.isOptional with
        | true => exact .optional bare isList isOptional
        | false => exact .required bare isList isOptional

theorem tag_iff {f : StoredField} {tag : Tag} : f.CollapsesTo tag ↔ f.tag.1 = tag := by
  rw [collapsesTo_iff]
  rcases f.tag_cases with ⟨first, found, -, shown⟩ | ⟨value, found, -, shown⟩ | ⟨found, shown⟩ <;>
    rw [found, shown] <;> rfl

theorem required_iff {f : StoredField} : f.CollapsesTo .required ↔
    f.constraints = [] ∧ f.isList = false ∧ f.isOptional = false := by
  constructor
  · rintro (⟨-, ⟨c, -, kind⟩, -⟩ | - | ⟨bare, notList, notOptional⟩)
    · cases c <;> simp [StoredConstraint.kind] at kind
    · exact ⟨bare_iff.mp bare, notList, notOptional⟩
  · rintro ⟨none, notList, notOptional⟩
    exact .required (bare_iff.mpr none) notList notOptional

theorem value_iff {f : StoredField} {value : Text} :
    f.tag.2 = some value ↔ f.CollapsesTo .default ∧ f.HasLastDefault value := by
  rw [tag_iff, hasLastDefault_iff]
  rcases f.tag_cases with ⟨first, -, other, shown⟩ | ⟨last, -, given, shown⟩ | ⟨found, shown⟩
  · simp [shown, other]
  · simp [shown, given]
  · simp [shown, f.flagTag_ne_default]

theorem exists_last_default {f : StoredField} (collapses : f.CollapsesTo .default) :
    ∃ value, f.HasLastDefault value := by
  rw [tag_iff] at collapses
  rcases f.tag_cases with ⟨first, -, other, shown⟩ | ⟨value, -, last, -⟩ | ⟨-, shown⟩
  · rw [shown] at collapses
    exact absurd collapses other
  · exact ⟨value, hasLastDefault_iff.mpr last⟩
  · rw [shown] at collapses
    exact absurd collapses f.flagTag_ne_default

theorem valueless {f : StoredField} (other : ¬f.CollapsesTo .default) : f.tag.2 = none :=
  Option.eq_none_iff_forall_ne_some.mpr fun _ given => other (value_iff.mp given).1

theorem carriedBy_constraint (f : StoredField) : f.CarriedBy f.constraint := by
  obtain ⟨isId, unique, updatedAt, required⟩ := f.tag.1.constraint_flags f.tag.2
  have carried (value : Text) (collapses : f.CollapsesTo .default) (last : f.HasLastDefault value) :
      f.tag.2 = some value := value_iff.mpr ⟨collapses, last⟩
  exact {
    isId := isId.trans tag_iff.symm
    unique := unique.trans tag_iff.symm
    updatedAt := updatedAt.trans tag_iff.symm
    required := required.trans tag_iff.symm
    list := rfl
    value := fun value collapses last => by
      simp only [constraint, carried value collapses last, Option.some_or]
    kept := fun other => by simp only [constraint, valueless other, Option.none_or] }

theorem first_iff (f : StoredField) :
    (∀ value, f.tag.2 = some value ↔ f.CollapsesTo .default ∧ f.HasFirstDefault value) ↔
      (f.CollapsesTo .default → ∃ value, f.HasFirstDefault value ∧ f.HasLastDefault value) := by
  constructor
  · intro first collapses
    obtain ⟨value, last⟩ := exists_last_default collapses
    have counts := value_iff.mpr ⟨collapses, last⟩
    exact ⟨value, ((first value).mp counts).2, last⟩
  · intro same value
    rw [value_iff]
    refine and_congr_right fun collapses => ?_
    obtain ⟨only, first, last⟩ := same collapses
    simp only [hasFirstDefault_iff, hasLastDefault_iff] at first last ⊢
    rw [first, last]

/-- A field collapses to the first tag in order of priority, and to a default with the value of the
last default constraint; the attribute carries what it collapses to. The value is that of the first
default constraint as well if and only if the first and the last have the same one. -/
theorem collapsed_by_priority (f : StoredField) :
    (∀ tag, f.tag.1 = tag ↔ f.CollapsesTo tag) ∧
      (∀ value, f.tag.2 = some value ↔ f.CollapsesTo .default ∧ f.HasLastDefault value) ∧
      ((∃ a, f.loaded = .ok a) ↔ f.type = [] ∨ ∃ type : ScalarType, f.type = type.name) ∧
      (∀ a, f.loaded = .ok a → f.CarriedBy a.constraint) ∧
      ((∀ value, f.tag.2 = some value ↔ f.CollapsesTo .default ∧ f.HasFirstDefault value) ↔
        (f.CollapsesTo .default → ∃ value, f.HasFirstDefault value ∧ f.HasLastDefault value)) := by
  refine ⟨fun tag => tag_iff.symm, fun value => value_iff, f.loads_iff, fun a loads => ?_, f.first_iff⟩
  obtain ⟨-, -, same⟩ := loaded_eq_ok.mp loads
  rw [same]
  exact f.carriedBy_constraint

def tally : StoredField where
  name := "tally"
  type := "Int"
  isOptional := false
  isList := true
  constraints := [.default "1", .updatedAt, .default "2", .updatedAt]
  defaultValue := some "0"

theorem tally_collapsed : ∃ a, tally.loaded = .ok a ∧ a.constraint.defaultValue = some "0" ∧
    tally.CollapsesTo .updatedAt ∧ tally.CarriedBy a.constraint := by
  obtain ⟨collapses, -, -, carried, -⟩ := collapsed_by_priority tally
  have loads : tally.loaded = .ok ⟨"tally", .int, tally.constraint⟩ := rfl
  exact ⟨_, loads, rfl, (collapses .updatedAt).mp rfl, carried _ loads⟩

def rivals : StoredField where
  name := "title"
  constraints := [.default "a", .default "b"]

theorem first_default_lost : rivals.HasFirstDefault "a" ∧
    rivals.loaded = .ok ⟨"title", .string, { defaultValue := some "b" }⟩ ∧
    ¬ ∀ f : StoredField, ∀ value, f.tag.2 = some value ↔
      f.CollapsesTo .default ∧ f.HasFirstDefault value := by
  have first : rivals.HasFirstDefault "a" := ⟨[], [.default "b"], rfl, by simp⟩
  refine ⟨first, rfl, fun priority => ?_⟩
  exact absurd ((priority rivals "a").mpr ⟨tag_iff.mpr rfl, first⟩) (by decide)

end StoredField
end DiagramSchema
