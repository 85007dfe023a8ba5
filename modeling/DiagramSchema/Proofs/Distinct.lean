import DiagramSchema.Keyed
import Mathlib.Data.List.Nodup

/-! Lists without repetitions: what erasing repetitions does to lists that have none, to joined,
filtered and renamed ones. -/
namespace DiagramSchema.Distinct

section
variable {α : Type} {r : α → α → Bool}

theorem eraseDupsBy_induction {P : List α → Prop} (nil : P [])
    (cons : ∀ a rest, P (rest.filter fun b => !r b a) → P (a :: rest)) (l : List α) : P l := by
  induction size : l.length using Nat.strongRecOn generalizing l with
  | ind n ih =>
    cases l with
    | nil => exact nil
    | cons a rest =>
      refine cons a rest (ih _ ?_ _ rfl)
      rw [← size, List.length_cons]
      exact Nat.lt_succ_of_le (List.length_filter_le _ _)

theorem eraseDupsBy_cons (a : α) (rest : List α) :
    (a :: rest).eraseDupsBy r = a :: (rest.filter fun b => !r b a).eraseDupsBy r := by
  have negated : (fun b => decide (r b a = false)) = fun b => !r b a := by
    funext b
    cases r b a <;> rfl
  rw [List.eraseDupsBy_cons, negated]

theorem mem_of_mem_eraseDupsBy {l : List α} {b : α} (member : b ∈ l.eraseDupsBy r) : b ∈ l := by
  induction l using eraseDupsBy_induction (r := r) with
  | nil => exact member
  | cons a rest ih =>
    rw [eraseDupsBy_cons, List.mem_cons] at member
    rcases member with rfl | later
    · simp
    · exact List.mem_cons_of_mem _ (List.mem_filter.mp (ih later)).1

theorem pairwise_eraseDupsBy (l : List α) : (l.eraseDupsBy r).Pairwise fun a b => r b a = false := by
  induction l using eraseDupsBy_induction (r := r) with
  | nil => exact .nil
  | cons a rest ih =>
    rw [eraseDupsBy_cons, List.pairwise_cons]
    refine ⟨fun b later => ?_, ih⟩
    simpa using (List.mem_filter.mp (mem_of_mem_eraseDupsBy later)).2

theorem eraseDupsBy_of_pairwise {l : List α}
    (apart : l.Pairwise fun a b => r b a = false) : l.eraseDupsBy r = l := by
  induction l with
  | nil => rfl
  | cons a rest ih =>
    obtain ⟨head, tail⟩ := List.pairwise_cons.mp apart
    have kept : (rest.filter fun b => !r b a) = rest :=
      List.filter_eq_self.mpr fun b member => by simp [head b member]
    rw [eraseDupsBy_cons, kept, ih tail]

theorem eraseDupsBy_append (trans : ∀ a b c, r a b = true → r b c = true → r a c = true)
    (l more : List α) : (l ++ more).eraseDupsBy r =
      l.eraseDupsBy r ++ (more.filter fun b => !l.any (r b)).eraseDupsBy r := by
  -- an item of the rest that repeats one already erased is related to what that one repeats
  induction l using eraseDupsBy_induction (r := r) generalizing more with
  | nil => simp
  | cons a rest ih =>
    have new : ((more.filter fun b => !r b a).filter fun b =>
        !(rest.filter fun c => !r c a).any (r b)) = more.filter fun b => !(a :: rest).any (r b) := by
      rw [List.filter_filter]
      refine List.filter_congr fun b _ => ?_
      rw [Bool.eq_iff_iff]
      simp only [Bool.and_eq_true, Bool.not_eq_true', List.any_eq_false, List.mem_filter,
        List.mem_cons, forall_eq_or_imp, Bool.not_eq_true]
      constructor
      · rintro ⟨apart, first⟩
        refine ⟨first, fun c member => ?_⟩
        cases near : r c a with
        | false => exact apart c ⟨member, near⟩
        | true =>
          cases related : r b c with
          | false => rfl
          | true => exact absurd (trans b c a related near) (by simp [first])
      · rintro ⟨first, apart⟩
        exact ⟨fun c member => apart c member.1, first⟩
    rw [List.cons_append, eraseDupsBy_cons, eraseDupsBy_cons, List.filter_append, ih, new,
      List.cons_append]

theorem eraseDupsBy_flatMap {β : Type} {f : β → List α}
    (trans : ∀ a b c, r a b = true → r b c = true → r a c = true) {l : List β}
    (apart : l.Pairwise fun a b => ∀ x ∈ f a, ∀ y ∈ f b, r y x = false) :
    (l.flatMap f).eraseDupsBy r = l.flatMap fun a => (f a).eraseDupsBy r := by
  induction l with
  | nil => rfl
  | cons a rest ih =>
    obtain ⟨head, tail⟩ := List.pairwise_cons.mp apart
    have new : ((rest.flatMap f).filter fun y => !(f a).any (r y)) = rest.flatMap f := by
      refine List.filter_eq_self.mpr fun y member => ?_
      obtain ⟨b, known, inside⟩ := List.mem_flatMap.mp member
      simp only [Bool.not_eq_true', List.any_eq_false, Bool.not_eq_true]
      exact fun x within => head b known x within y inside
    rw [List.flatMap_cons, eraseDupsBy_append trans, new, ih tail, List.flatMap_cons]

theorem filter_eraseDupsBy {p : α → Bool} (l : List α) :
    (∀ a b, r a b = true → p a = p b) →
      (l.eraseDupsBy r).filter p = (l.filter p).eraseDupsBy r := by
  intro respects
  induction l using eraseDupsBy_induction (r := r) with
  | nil => rfl
  | cons a rest ih =>
    have swap : ((rest.filter fun b => !r b a).filter p) =
        (rest.filter p).filter fun b => !r b a := List.filter_comm _ _ _
    rw [eraseDupsBy_cons, List.filter_cons, List.filter_cons]
    cases kept : p a with
    | true => rw [if_pos rfl, if_pos rfl, eraseDupsBy_cons, ih, swap]
    | false =>
      have apart : ((rest.filter p).filter fun b => !r b a) = rest.filter p := by
        refine List.filter_eq_self.mpr fun b member => ?_
        have passes := (List.mem_filter.mp member).2
        cases related : r b a with
        | false => rfl
        | true =>
          have same := respects b a related
          rw [passes, kept] at same
          exact absurd same (by decide)
      rw [if_neg (by decide), if_neg (by decide), ih, swap, apart]

end

section
variable {α β : Type} [BEq α] [LawfulBEq α]

omit [LawfulBEq α] in
theorem eraseDups_induction {P : List α → Prop} (nil : P [])
    (cons : ∀ a rest, P (rest.filter fun b => !b == a) → P (a :: rest)) (l : List α) : P l :=
  eraseDupsBy_induction nil cons l

theorem eraseDups_of_nodup {l : List α} (distinct : l.Nodup) : l.eraseDups = l := by
  refine eraseDupsBy_of_pairwise (List.Pairwise.imp ?_ distinct)
  intro a b apart
  simpa using Ne.symm apart

theorem nodup_eraseDups (l : List α) : l.eraseDups.Nodup := by
  induction l using eraseDups_induction with
  | nil => exact List.nodup_nil
  | cons a rest ih =>
    rw [List.eraseDups_cons, List.nodup_cons]
    refine ⟨?_, ih⟩
    rw [List.mem_eraseDups]
    simp

omit [LawfulBEq α] in
theorem eraseDups_sublist (l : List α) : l.eraseDups.Sublist l := by
  induction l using eraseDups_induction with
  | nil => exact List.nil_sublist _
  | cons a rest ih =>
    rw [List.eraseDups_cons]
    exact (ih.trans List.filter_sublist).cons_cons a

theorem eraseDups_place (front back : List α) : ∃ after, ∀ a, a ∉ front → a ∉ back →
    (front ++ a :: back).eraseDups = front.eraseDups ++ a :: after := by
  refine ⟨(back.removeAll front).eraseDups, fun a before behind => ?_⟩
  have first : (a :: back).removeAll front = a :: back.removeAll front := by
    rw [List.cons_removeAll, if_pos (by simpa using before)]
  have others : (back.removeAll front).filter (fun b => !b == a) = back.removeAll front := by
    refine List.filter_eq_self.mpr fun b member => ?_
    have inside : b ∈ back := (List.mem_filter.mp member).1
    have differs : b ≠ a := fun same => behind (same ▸ inside)
    simp [differs]
  rw [List.eraseDups_append, first, List.eraseDups_cons, others]

theorem filter_eraseDups (p : α → Bool) (l : List α) :
    l.eraseDups.filter p = (l.filter p).eraseDups := by
  refine filter_eraseDupsBy l ?_
  intro a b same
  rw [beq_iff_eq.mp same]

theorem eraseDups_map [BEq β] [LawfulBEq β] {f : α → β} {l : List α}
    (injective : ∀ a ∈ l, ∀ b ∈ l, f a = f b → a = b) : (l.map f).eraseDups = l.eraseDups.map f := by
  induction l using eraseDups_induction with
  | nil => rfl
  | cons a rest ih =>
    have within : ∀ b ∈ rest.filter (fun b => !b == a), b ∈ rest := fun b member =>
      (List.mem_filter.mp member).1
    have later := ih fun b member c other =>
      injective b (List.mem_cons_of_mem _ (within b member)) c
        (List.mem_cons_of_mem _ (within c other))
    have renamed : (rest.map f).filter (fun b => !b == f a) =
        (rest.filter fun b => !b == a).map f := by
      rw [List.filter_map]
      congr 1
      refine List.filter_congr fun b member => ?_
      have iff : f b = f a ↔ b = a :=
        ⟨injective b (List.mem_cons_of_mem _ member) a (by simp), fun equal => by rw [equal]⟩
      simp [Function.comp, iff]
    rw [List.map_cons, List.eraseDups_cons, List.eraseDups_cons, List.map_cons, renamed, later]

theorem eraseDupsBy_eraseDups {f : α → β} {r : β → β → Bool} (reflexive : ∀ b, r b b = true)
    (l : List α) : (l.eraseDups.map f).eraseDupsBy r = (l.map f).eraseDupsBy r := by
  induction l using eraseDupsBy_induction (r := fun b a => r (f b) (f a)) with
  | nil => rfl
  | cons a rest ih =>
    have renamed (l : List α) : (l.map f).filter (fun b => !r b (f a)) =
        (l.filter fun b => !r (f b) (f a)).map f := by
      rw [List.filter_map]
      rfl
    have apart : ((rest.filter fun b => !b == a).filter fun b => !r (f b) (f a)) =
        rest.filter fun b => !r (f b) (f a) := by
      rw [List.filter_filter]
      refine List.filter_congr fun b _ => ?_
      by_cases same : b = a
      · simp [same, reflexive]
      · simp [same]
    rw [List.eraseDups_cons, List.map_cons, List.map_cons, eraseDupsBy_cons, eraseDupsBy_cons,
      renamed, renamed, filter_eraseDups, apart, ih]

end

section
variable {α κ : Type}

theorem filter_flatMap_of_distinct {β : Type} [BEq κ] [LawfulBEq κ] {key : α → κ} {keyOf : β → κ}
    {f : α → List β} {items : List α} (distinct : (items.map key).Nodup)
    (own : ∀ a ∈ items, ∀ b ∈ f a, keyOf b = key a) {item : α} (member : item ∈ items) :
    (items.flatMap f).filter (fun b => keyOf b == key item) = f item := by
  induction items with
  | nil => simp at member
  | cons a rest ih =>
    obtain ⟨apart, later⟩ := List.nodup_cons.mp distinct
    have others := ih later fun b inside => own b (List.mem_cons_of_mem _ inside)
    rw [List.flatMap_cons, List.filter_append]
    rcases List.mem_cons.mp member with rfl | inside
    · have whole : (f item).filter (fun b => keyOf b == key item) = f item :=
        List.filter_eq_self.mpr fun b found => by simp [own item member b found]
      have none : (rest.flatMap f).filter (fun b => keyOf b == key item) = [] := by
        rw [List.filter_eq_nil_iff]
        intro b found
        obtain ⟨c, known, within⟩ := List.mem_flatMap.mp found
        have differs : key c ≠ key item := fun same => apart (same ▸ List.mem_map_of_mem known)
        simp [own c (List.mem_cons_of_mem _ known) b within, differs]
      rw [whole, none, List.append_nil]
    · have none : (f a).filter (fun b => keyOf b == key item) = [] := by
        rw [List.filter_eq_nil_iff]
        intro b found
        have differs : key a ≠ key item := fun same => apart (same ▸ List.mem_map_of_mem inside)
        simp [own a (by simp) b found, differs]
      rw [none, List.nil_append, others inside]

theorem findRev_of_distinct [BEq κ] [LawfulBEq κ] {key : α → κ} {items : List α} (distinct : (items.map key).Nodup)
    {item : α} (member : item ∈ items) :
    items.findRev? (fun other => key other == key item) = some item := by
  rw [List.findRev?_eq_find?_reverse]
  cases found : items.reverse.find? fun other => key other == key item with
  | none =>
    rw [List.find?_eq_none] at found
    exact absurd (found item (List.mem_reverse.mpr member)) (by simp)
  | some other =>
    have inside := List.mem_reverse.mp (List.mem_of_find?_eq_some found)
    have same : key other = key item := by simpa using List.find?_some found
    rw [List.inj_on_of_nodup_map distinct inside member same]

theorem latestByKey_nonempty [DecidableEq κ] {key : α → κ} {items : List α} (some : items ≠ []) :
    latestByKey key items ≠ [] := by
  intro none
  have keys := map_key_latestByKey key items
  cases items with
  | nil => exact some rfl
  | cons item rest =>
    rw [none, List.map_cons, List.eraseDups_cons] at keys
    exact absurd keys (by simp)

theorem latestByKey_of_distinct [DecidableEq κ] {key : α → κ} {items : List α}
    (distinct : (items.map key).Nodup) : latestByKey key items = items := by
  have each : ∀ item ∈ items,
      (items.findRev? fun other => key other == key item) = some item :=
    fun item member => findRev_of_distinct distinct member
  rw [latestByKey, eraseDups_of_nodup distinct, List.filterMap_map]
  exact (List.filterMap_congr each).trans List.filterMap_some

theorem latestByKey_length_iff [DecidableEq κ] {key : α → κ} {items : List α} :
    (latestByKey key items).length = items.length ↔ (items.map key).Nodup := by
  constructor
  · intro same
    have kept : ((items.map key).eraseDups).length = (items.map key).length := by
      rw [← map_key_latestByKey, List.length_map, List.length_map, same]
    rw [← (eraseDups_sublist _).eq_of_length kept]
    exact nodup_eraseDups _
  · intro distinct
    rw [latestByKey_of_distinct distinct]

end
end DiagramSchema.Distinct
