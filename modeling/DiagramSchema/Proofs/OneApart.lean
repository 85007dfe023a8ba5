import DiagramSchema.Proofs.Distinct

/-! Lists that differ in one place at most, and the functions on lists that keep them so. -/
namespace DiagramSchema

/-- Two lists are equal but for one place, where related items stand. -/
def OneApart {α : Type} (R : α → α → Prop) (l m : List α) : Prop :=
  l = m ∨ ∃ front a b back, R a b ∧ l = front ++ a :: back ∧ m = front ++ b :: back

namespace OneApart

variable {α β γ : Type} {R : α → α → Prop} {S : β → β → Prop} {l m : List α}

theorem refl (l : List α) : OneApart R l l := Or.inl rfl

theorem at_place {a b : α} (related : R a b) (front back : List α) :
    OneApart R (front ++ a :: back) (front ++ b :: back) :=
  Or.inr ⟨front, a, b, back, related, rfl, rfl⟩

theorem append_left (apart : OneApart R l m) (front : List α) :
    OneApart R (front ++ l) (front ++ m) := by
  rcases apart with rfl | ⟨start, a, b, back, related, rfl, rfl⟩
  · exact refl _
  · rw [← List.append_assoc, ← List.append_assoc]
    exact at_place related _ back

theorem map_eq (apart : OneApart R l m) {f : α → β} (same : ∀ a b, R a b → f a = f b) :
    l.map f = m.map f := by
  rcases apart with rfl | ⟨front, a, b, back, related, rfl, rfl⟩
  · rfl
  · simp [same a b related]

theorem flatMap_eq (apart : OneApart R l m) {f : α → List β} (same : ∀ a b, R a b → f a = f b) :
    l.flatMap f = m.flatMap f := by
  rw [List.flatMap_def, List.flatMap_def, apart.map_eq same]

theorem map (apart : OneApart R l m) {f : α → β} (kept : ∀ a b, R a b → S (f a) (f b)) :
    OneApart S (l.map f) (m.map f) := by
  rcases apart with rfl | ⟨front, a, b, back, related, rfl, rfl⟩
  · exact refl _
  · rw [List.map_append, List.map_append, List.map_cons, List.map_cons]
    exact at_place (kept a b related) _ _

theorem filterMap (apart : OneApart R l m) {f : α → Option β}
    (kept : ∀ a b, R a b → f a = f b ∨ ∃ x y, f a = some x ∧ f b = some y ∧ S x y) :
    OneApart S (l.filterMap f) (m.filterMap f) := by
  rcases apart with rfl | ⟨front, a, b, back, related, rfl, rfl⟩
  · exact refl _
  · rw [List.filterMap_append, List.filterMap_append, List.filterMap_cons, List.filterMap_cons]
    rcases kept a b related with same | ⟨x, y, first, second, close⟩
    · rw [same]
      exact refl _
    · rw [first, second]
      exact at_place close _ _

theorem filter (apart : OneApart R l m) {p : α → Bool} (same : ∀ a b, R a b → p a = p b) :
    OneApart R (l.filter p) (m.filter p) := by
  rcases apart with rfl | ⟨front, a, b, back, related, rfl, rfl⟩
  · exact refl _
  · rw [List.filter_append, List.filter_append, List.filter_cons, List.filter_cons,
      same a b related]
    split
    · exact at_place related _ _
    · exact refl _

theorem zipWith (apart : OneApart R l m) {f : α → γ → β} (more : List γ)
    (kept : ∀ a b c, R a b → S (f a c) (f b c)) :
    OneApart S (List.zipWith f l more) (List.zipWith f m more) := by
  rcases apart with rfl | ⟨front, a, b, back, related, rfl, rfl⟩
  · exact refl _
  · induction front generalizing more with
    | nil =>
      cases more with
      | nil => exact refl _
      | cons c more => exact at_place (kept a b c related) [] _
    | cons d front ih =>
      cases more with
      | nil => exact refl _
      | cons c more => exact (ih more).append_left [f d c]

theorem findRev_place (front back : List α) {a b : α} {p : α → Bool} (same : p a = p b) :
    (front ++ a :: back).findRev? p = (front ++ b :: back).findRev? p ∨
      p a = true ∧ (front ++ a :: back).findRev? p = some a ∧
        (front ++ b :: back).findRev? p = some b := by
  simp only [List.findRev?_eq_find?_reverse, List.reverse_append, List.reverse_cons,
    List.append_assoc, List.find?_append, List.cons_append, List.nil_append, List.find?_cons,
    ← same]
  cases back.reverse.find? p with
  | some item => exact Or.inl rfl
  | none =>
    cases found : p a with
    | false => exact Or.inl rfl
    | true => exact Or.inr ⟨rfl, rfl, rfl⟩

theorem filterMap_keys {κ : Type} {keys : List κ} (distinct : keys.Nodup) {f g : κ → Option α}
    {k : κ} (others : ∀ other, other ≠ k → f other = g other)
    (here : f k = g k ∨ ∃ a b, f k = some a ∧ g k = some b ∧ R a b) :
    OneApart R (keys.filterMap f) (keys.filterMap g) := by
  by_cases inside : k ∈ keys
  · obtain ⟨before, after, rfl⟩ := List.append_of_mem inside
    obtain ⟨absent, _⟩ := List.nodup_cons.mp (List.nodup_middle.mp distinct)
    have earlier : before.filterMap f = before.filterMap g :=
      List.filterMap_congr fun other member =>
        others other fun same => absent (same ▸ List.mem_append_left _ member)
    have later : after.filterMap f = after.filterMap g :=
      List.filterMap_congr fun other member =>
        others other fun same => absent (same ▸ List.mem_append_right _ member)
    rw [List.filterMap_append, List.filterMap_append, List.filterMap_cons, List.filterMap_cons,
      earlier, later]
    rcases here with same | ⟨a, b, first, second, related⟩
    · rw [same]
      exact refl _
    · rw [first, second]
      exact at_place related _ _
  · rw [List.filterMap_congr fun other member => others other fun same => inside (same ▸ member)]
    exact refl _

theorem latestByKey {κ : Type} [DecidableEq κ] (apart : OneApart R l m) {key : α → κ}
    (same : ∀ a b, R a b → key a = key b) :
    OneApart R (DiagramSchema.latestByKey key l) (DiagramSchema.latestByKey key m) := by
  have keys := apart.map_eq same
  rcases apart with rfl | ⟨front, a, b, back, related, rfl, rfl⟩
  · exact refl _
  · have kept := same a b related
    rw [DiagramSchema.latestByKey, DiagramSchema.latestByKey, ← keys]
    have place (k : κ) := findRev_place (p := fun item => key item == k) front back
      (show (key a == k) = (key b == k) by rw [kept])
    refine filterMap_keys (k := key a) (Distinct.nodup_eraseDups _) ?_ ?_
    · intro k differs
      rcases place k with equal | ⟨found, _⟩
      · exact equal
      · exact absurd (beq_iff_eq.mp found) differs.symm
    · rcases place (key a) with equal | ⟨_, first, second⟩
      · exact Or.inl equal
      · exact Or.inr ⟨a, b, first, second, related⟩

theorem modify_place (f : α → α) (front back : List α) (a : α) :
    (front ++ a :: back).modify front.length f = front ++ f a :: back := by
  induction front with
  | nil => rfl
  | cons b front ih => rw [List.cons_append, List.length_cons, List.modify_succ_cons, ih]; rfl

theorem split_at_place {i : Nat} {a : α} (found : l[i]? = some a) :
    ∃ front back, l = front ++ a :: back ∧ front.length = i := by
  obtain ⟨inside, rfl⟩ := List.getElem?_eq_some_iff.mp found
  refine ⟨l.take i, l.drop (i + 1), ?_, List.length_take_of_le (Nat.le_of_lt inside)⟩
  rw [← List.drop_eq_getElem_cons inside, List.take_append_drop]

theorem of_modify (f : α → α) (l : List α) (i : Nat) :
    OneApart (fun a b => b = f a) l (l.modify i f) := by
  induction l generalizing i with
  | nil =>
    rw [List.modify_nil]
    exact refl _
  | cons a rest ih =>
    cases i with
    | zero =>
      rw [List.modify_zero_cons]
      exact Or.inr ⟨[], a, f a, rest, rfl, rfl, rfl⟩
    | succ i =>
      rw [List.modify_succ_cons]
      exact (ih i).append_left [a]

theorem modify {ι : Type} [Inhabited ι] {f : ι → α → α} {T : ι → α → Prop} (apart : OneApart R l m)
    (each : ∀ a b, R a b → ∃ v, b = f v a ∧ T v a) :
    ∃ i v, m = l.modify i (f v) ∧ ∀ a, l[i]? = some a → T v a := by
  rcases apart with rfl | ⟨front, a, b, back, related, rfl, rfl⟩
  · refine ⟨l.length, default, ?_, ?_⟩
    · rw [List.modify_eq_self (Nat.le_refl _)]
    · simp
  · obtain ⟨v, rfl, holds⟩ := each a b related
    refine ⟨front.length, v, ?_, ?_⟩
    · rw [modify_place]
    · simp [holds]

end OneApart
end DiagramSchema
