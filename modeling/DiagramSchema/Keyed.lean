/-! Items with keys, where a later item takes the place of an earlier one with its key. -/
namespace DiagramSchema

variable {α κ : Type} [DecidableEq κ]

/-- The last item under each key, in the order in which the keys first occur. -/
def latestByKey (key : α → κ) (items : List α) : List α :=
  (items.map key).eraseDups.filterMap fun k => items.findRev? fun item => key item == k

theorem findRev?_key {key : α → κ} {items : List α} {k : κ} {item : α}
    (found : items.findRev? (fun item => key item == k) = some item) : key item = k := by
  rw [List.findRev?_eq_find?_reverse] at found
  simpa using List.find?_some found

/-- Every key is kept, once and at its first place. -/
theorem map_key_latestByKey (key : α → κ) (items : List α) :
    (latestByKey key items).map key = (items.map key).eraseDups := by
  have present : ∀ k ∈ (items.map key).eraseDups,
      ((items.findRev? fun item => key item == k).map key) = some k := by
    intro k member
    obtain ⟨item, inItems, same⟩ := List.mem_map.1 (List.mem_eraseDups.1 member)
    cases found : items.findRev? fun item => key item == k with
    | none =>
      rw [List.findRev?_eq_find?_reverse, List.find?_eq_none] at found
      exact absurd same (by simpa using found item (List.mem_reverse.2 inItems))
    | some latest => simp [findRev?_key found]
  simp only [latestByKey, List.map_filterMap]
  generalize (items.map key).eraseDups = keys at present
  induction keys with
  | nil => rfl
  | cons k rest ih =>
    rw [List.filterMap_cons, present k (by simp)]
    simp only [ih fun other member => present other (by simp [member])]

theorem mem_of_mem_latestByKey {key : α → κ} {items : List α} {item : α}
    (h : item ∈ latestByKey key items) : item ∈ items := by
  simp only [latestByKey, List.mem_filterMap] at h
  obtain ⟨k, _, found⟩ := h
  rw [List.findRev?_eq_find?_reverse] at found
  exact List.mem_reverse.1 (List.mem_of_find?_eq_some found)

example : latestByKey Prod.fst [(1, 'a'), (2, 'b'), (1, 'c')] = [(1, 'c'), (2, 'b')] := by decide

end DiagramSchema
