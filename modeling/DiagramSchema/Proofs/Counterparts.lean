import DiagramSchema.Keyed
import Mathlib.Data.List.Forall2

/-! Lists whose items correspond one by one, and the functions on lists that keep them so. -/
namespace DiagramSchema.Counterparts

variable {α β ε κ : Type} {R : α → β → Prop} {items : List α} {values : List β}

theorem exists_iff : (∃ values, List.Forall₂ R items values) ↔ ∀ a ∈ items, ∃ b, R a b := by
  induction items with
  | nil => simp
  | cons a rest ih =>
    rw [List.forall_mem_cons, ← ih]
    simp only [List.forall₂_cons_left_iff]
    constructor
    · rintro ⟨_, b, others, first, later, rfl⟩
      exact ⟨⟨b, first⟩, others, later⟩
    · rintro ⟨⟨b, first⟩, others, later⟩
      exact ⟨_, b, others, first, later, rfl⟩

theorem of_mem (related : List.Forall₂ R items values) : ∀ a ∈ items, ∃ b ∈ values, R a b := by
  induction related with
  | nil => simp
  | @cons _ b _ _ first _ ih =>
    intro a member
    rcases List.mem_cons.mp member with rfl | later
    · exact ⟨b, by simp, first⟩
    · obtain ⟨c, inside, found⟩ := ih a later
      exact ⟨c, by simp [inside], found⟩

theorem trans {γ : Type} {S : β → γ → Prop} {T : α → γ → Prop} {more : List γ}
    (compose : ∀ a b c, R a b → S b c → T a c) (first : List.Forall₂ R items values)
    (second : List.Forall₂ S values more) : List.Forall₂ T items more := by
  induction first generalizing more with
  | nil =>
    cases second with
    | nil => exact .nil
  | cons start _ ih =>
    cases second with
    | cons next later => exact .cons (compose _ _ _ start next) (ih later)

theorem flatMap {γ : Type} {f : γ → List α} {g : γ → List β} {l : List γ}
    (each : ∀ c ∈ l, List.Forall₂ R (f c) (g c)) :
    List.Forall₂ R (l.flatMap f) (l.flatMap g) := by
  induction l with
  | nil => exact .nil
  | cons c rest ih =>
    rw [List.flatMap_cons, List.flatMap_cons]
    exact List.rel_append (each c (by simp)) (ih fun d member => each d (by simp [member]))

theorem zipWith {γ : Type} {f : α → γ → β} {more : List γ} (enough : items.length ≤ more.length)
    (each : ∀ a ∈ items, ∀ c, R a (f a c)) : List.Forall₂ R items (List.zipWith f items more) := by
  induction items generalizing more with
  | nil => exact .nil
  | cons a rest ih =>
    cases more with
    | nil => simp at enough
    | cons c more =>
      obtain ⟨first, later⟩ := List.forall_mem_cons.mp each
      exact .cons (first c) (ih (by simpa using enough) later)

theorem map_eq_self_iff {f : β → β} {P : α → Prop} (related : List.Forall₂ R items values)
    (each : ∀ a b, R a b → (f b = b ↔ P a)) : values.map f = values ↔ ∀ a ∈ items, P a := by
  induction related with
  | nil => simp
  | cons first _ ih => rw [List.map_cons, List.cons.injEq, each _ _ first, ih, List.forall_mem_cons]

theorem mapM_eq_ok {f : α → Except ε β} :
    items.mapM f = .ok values ↔ List.Forall₂ (fun a b => f a = .ok b) items values := by
  induction items generalizing values with
  | nil =>
    have empty : ([] : List α).mapM f = .ok [] := rfl
    rw [empty, List.forall₂_nil_left_iff, Except.ok.injEq]
    exact eq_comm
  | cons a rest ih =>
    rw [List.mapM_cons, List.forall₂_cons_left_iff]
    simp only [← ih]
    cases f a with
    | error cause => simp [bind, Except.bind]
    | ok b =>
      cases rest.mapM f with
      | error cause => simp [bind, Except.bind]
      | ok others => simp [bind, Except.bind, pure, Except.pure, eq_comm]

section
variable {key : α → κ} {keyOf : β → κ}

theorem map_key (same : ∀ a b, R a b → key a = keyOf b) (related : List.Forall₂ R items values) :
    items.map key = values.map keyOf := by
  induction related with
  | nil => rfl
  | cons first _ ih => rw [List.map_cons, List.map_cons, same _ _ first, ih]

variable [DecidableEq κ]

theorem find_key (same : ∀ a b, R a b → key a = keyOf b) (related : List.Forall₂ R items values)
    (k : κ) : Option.Rel R (items.find? fun a => key a == k) (values.find? fun b => keyOf b == k) := by
  induction related with
  | nil => exact .none
  | cons first _ ih =>
    rw [List.find?_cons, List.find?_cons, same _ _ first]
    split
    · exact .some first
    · exact ih

theorem latestByKey (same : ∀ a b, R a b → key a = keyOf b)
    (related : List.Forall₂ R items values) :
    List.Forall₂ R (latestByKey key items) (latestByKey keyOf values) := by
  have found (k : κ) : Option.Rel R (items.findRev? fun a => key a == k)
      (values.findRev? fun b => keyOf b == k) := by
    rw [List.findRev?_eq_find?_reverse, List.findRev?_eq_find?_reverse]
    exact find_key same (List.rel_reverse related) k
  have keys : List.Forall₂ Eq (items.map key).eraseDups (values.map keyOf).eraseDups := by
    rw [map_key same related, List.forall₂_eq_eq_eq]
  refine List.rel_filterMap ?_ keys
  rintro k _ rfl
  exact found k

end
end DiagramSchema.Counterparts
