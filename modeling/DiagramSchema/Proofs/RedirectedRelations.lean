import DiagramSchema.Stored.References

/-! Relations whose ends get other ids, and their own ids back. A one-to-one map and its inverse undo
each other on the relations that have both ends among the keys, in either order; the other relations
are dropped by the first of the two. -/
namespace DiagramSchema

namespace IdMap

/-- No two ids have the same counterpart, and neither an id nor a counterpart is empty. -/
structure IsOneToOne (ids : IdMap) : Prop where
  keys : ∀ {id other}, ids id = some other → id ≠ []
  values : ∀ {id other}, ids id = some other → other ≠ []
  injective : ∀ {id another other}, ids id = some other → ids another = some other → id = another

def IsInverse (back there : IdMap) : Prop := ∀ id other, back other = some id ↔ there id = some other

def isKey (ids : IdMap) (id : Text) : Bool := (ids id).isSome

namespace IsInverse
variable {there back : IdMap} (inverse : back.IsInverse there)
include inverse

theorem symm : there.IsInverse back := fun id other => (inverse other id).symm

theorem injective {id another other : Text} (found : there id = some other)
    (same : there another = some other) : id = another := by
  have first : back other = some id := (inverse id other).mpr found
  have second : back other = some another := (inverse another other).mpr same
  exact Option.some.inj (first.symm.trans second)

theorem isOneToOne (oneToOne : there.IsOneToOne) : back.IsOneToOne where
  keys found := oneToOne.values ((inverse _ _).mp found)
  values found := oneToOne.keys ((inverse _ _).mp found)
  injective := inverse.symm.injective

end IsInverse

def ofPairs (pairs : List (Text × Text)) : IdMap := fun id => pairs.lookup id

section
variable {pairs : List (Text × Text)} (keys : (pairs.map Prod.fst).Nodup)
include keys

theorem ofPairs_eq_some_iff {id other : Text} : ofPairs pairs id = some other ↔ (id, other) ∈ pairs := by
  rw [ofPairs, List.lookup_eq_some_iff]
  constructor
  · rintro ⟨front, rest, rfl, _⟩
    exact List.mem_append_right front List.mem_cons_self
  · intro member
    obtain ⟨front, rest, rfl⟩ := List.append_of_mem member
    refine ⟨front, rest, rfl, fun pair earlier => ?_⟩
    rw [List.map_append, List.map_cons, List.nodup_append] at keys
    have apart := keys.2.2 pair.1 (List.mem_map_of_mem earlier) id List.mem_cons_self
    exact bne_iff_ne.mpr apart.symm

theorem isInverse_ofPairs (values : (pairs.map Prod.snd).Nodup) :
    (ofPairs (pairs.map Prod.swap)).IsInverse (ofPairs pairs) := by
  intro id other
  have swapped : ((pairs.map Prod.swap).map Prod.fst).Nodup := by rwa [List.map_map]
  rw [ofPairs_eq_some_iff swapped, ofPairs_eq_some_iff keys, List.mem_map]
  constructor
  · rintro ⟨⟨first, second⟩, member, same⟩
    obtain ⟨rfl, rfl⟩ := Prod.mk.inj same
    exact member
  · exact fun member => ⟨(id, other), member, rfl⟩

theorem isOneToOne_ofPairs (values : (pairs.map Prod.snd).Nodup)
    (nonempty : ∀ pair ∈ pairs, pair.1 ≠ [] ∧ pair.2 ≠ []) : (ofPairs pairs).IsOneToOne where
  keys found := (nonempty _ ((ofPairs_eq_some_iff keys).mp found)).1
  values found := (nonempty _ ((ofPairs_eq_some_iff keys).mp found)).2
  injective := (isInverse_ofPairs keys values).injective

end

end IdMap

namespace StoredRelation

def isBetween (ids : IdMap) (r : StoredRelation) : Bool := ids.isKey r.source && ids.isKey r.target

variable {there back : IdMap}

theorem counterpart_eq (oneToOne : there.IsOneToOne) (id : Text) :
    counterpart? there id = there id := by
  rw [counterpart?]
  cases found : there id with
  | none => rfl
  | some other => simp [oneToOne.values found]

theorem redirect_back (oneToOne : there.IsOneToOne) (inverse : back.IsInverse there)
    (r : StoredRelation) :
    (r.redirect? there).bind (redirect? back) = Option.guard (isBetween there) r := by
  have isBack := inverse.isOneToOne oneToOne
  rw [Option.guard, isBetween, IdMap.isKey, IdMap.isKey, redirect?, counterpart_eq oneToOne,
    counterpart_eq oneToOne]
  cases source : there r.source with
  | none => rfl
  | some newSource =>
    cases target : there r.target with
    | none => rfl
    | some newTarget =>
      have sourceBack : back newSource = some r.source := (inverse _ _).mpr source
      have targetBack : back newTarget = some r.target := (inverse _ _).mpr target
      simp [redirect?, counterpart_eq isBack, sourceBack, targetBack]

theorem filterMap_redirect_back (oneToOne : there.IsOneToOne) (inverse : back.IsInverse there)
    (relations : List StoredRelation) :
    (relations.filterMap (redirect? there)).filterMap (redirect? back) =
      relations.filter (isBetween there) := by
  have each : (fun r => (redirect? there r).bind (redirect? back)) = Option.guard (isBetween there) :=
    funext (redirect_back oneToOne inverse)
  rw [List.filterMap_filterMap, each, List.filterMap_eq_filter]

/-- With a one-to-one map and its inverse, the relations that are resolved and restored are those
between keys of the map, in order and as they were. Relations between its values are all there, as they
were, when they are restored and resolved. -/
theorem restore_inverts (oneToOne : there.IsOneToOne) (inverse : back.IsInverse there) :
    (∀ relations, restore back (resolve there relations) = relations.filter (isBetween there)) ∧
      ∀ relations, (∀ r ∈ relations, r.isBetween back = true) →
        resolve there (restore back relations) = relations := by
  refine ⟨filterMap_redirect_back oneToOne inverse, fun relations between => ?_⟩
  calc resolve there (restore back relations)
      = relations.filter (isBetween back) :=
        filterMap_redirect_back (inverse.isOneToOne oneToOne) inverse.symm relations
    _ = relations := List.filter_eq_self.mpr between

def assigned : List (Text × Text) := [("1", "b2"), ("2", "1"), ("3", "c7")]

def assignedIds : IdMap := .ofPairs assigned

def assignedBack : IdMap := .ofPairs (assigned.map Prod.swap)

def drawn : List StoredRelation :=
  [ { edgeId := "r", source := "1", target := "1" }, { edgeId := "s", source := "2", target := "4" },
    { edgeId := "t", source := "2", target := "1", type := "m-n" },
    { edgeId := "u", source := "2", target := "1", type := "often" } ]

theorem drawn_restored : assignedIds.IsOneToOne ∧ assignedBack.IsInverse assignedIds ∧
    restore assignedBack (resolve assignedIds drawn) = drawn.eraseIdx 1 ∧
    (∀ r ∈ resolve assignedIds drawn, r.isBetween assignedBack = true) ∧
    resolve assignedIds (restore assignedBack (resolve assignedIds drawn)) =
      resolve assignedIds drawn := by
  have keys : (assigned.map Prod.fst).Nodup := by decide
  have values : (assigned.map Prod.snd).Nodup := by decide
  have oneToOne : assignedIds.IsOneToOne := IdMap.isOneToOne_ofPairs keys values (by decide)
  have inverse : assignedBack.IsInverse assignedIds := IdMap.isInverse_ofPairs keys values
  obtain ⟨restored, resolved⟩ := restore_inverts oneToOne inverse
  have between : ∀ r ∈ resolve assignedIds drawn, r.isBetween assignedBack = true := by decide
  exact ⟨oneToOne, inverse, (restored drawn).trans (by decide), between, resolved _ between⟩

end StoredRelation
end DiagramSchema
