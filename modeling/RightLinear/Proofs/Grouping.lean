import RightLinear.Grouping

/-! # Members of groupings

Which values stand under a key. A key has at most one group, so looking it up and
going through the groups find the same values. Merging some steps inserts their keys
in order, and under each key the values that they list under it in order, and nothing
else.
-/

namespace RightLinear

namespace OrderedSet

variable {α : Type} {first second : OrderedSet α}

theorem Same.refl (set : OrderedSet α) : set.Same set :=
  same_iff.2 fun _ => Iff.rfl

theorem Same.symm (same : first.Same second) : second.Same first :=
  ⟨same.2, same.1⟩

theorem Same.length_eq (same : first.Same second) :
    first.toList.length = second.toList.length := by
  have permuted : first.toList.Perm second.toList :=
    (List.perm_ext_iff_of_nodup first.nodup second.nodup).2 (same_iff.1 same)
  exact permuted.length_eq

variable [DecidableEq α]

theorem Same.insert (same : first.Same second) (member : α) :
    (first.insert member).Same (second.insert member) := by
  rw [same_iff]
  intro other
  rw [mem_insert, mem_insert, same_iff.1 same other]

theorem insertAll_append (set : OrderedSet α) (first second : List α) :
    set.insertAll (first ++ second) = (set.insertAll first).insertAll second :=
  List.foldl_append

end OrderedSet

namespace Grouping

/-- The keys as a set, in the order of their first use. -/
def keySet {κ ν : Type} (grouping : Grouping κ ν) : OrderedSet κ :=
  ⟨grouping.keys, grouping.nodup_keys⟩

section Groups

variable {κ ν : Type} [DecidableEq κ]

theorem lookup_eq_some_iff {groups : List (κ × OrderedSet ν)} {key : κ}
    {members : OrderedSet ν} (distinct : (groups.map Prod.fst).Nodup) :
    groups.lookup key = some members ↔ (key, members) ∈ groups := by
  induction groups with
  | nil => simp
  | cons group groups induction =>
      obtain ⟨first, values⟩ := group
      rw [List.map_cons, List.nodup_cons] at distinct
      by_cases same : key = first
      · subst same
        rw [List.lookup_cons_self, List.mem_cons]
        constructor
        · intro found
          cases found
          exact Or.inl rfl
        · intro member
          rcases member with head | tail
          · cases head
            rfl
          · exact absurd (List.mem_map.2 ⟨_, tail, rfl⟩) distinct.1
      · have apart : (key == first) = false := beq_false_of_ne same
        rw [List.lookup_cons, apart, List.mem_cons]
        simp only [Prod.mk.injEq, same, false_and, false_or]
        exact induction distinct.2

variable {grouping : Grouping κ ν} {key : κ} {value : ν}

theorem find?_eq_some_iff {members : OrderedSet ν} :
    grouping.find? key = some members ↔ (key, members) ∈ grouping.groups :=
  lookup_eq_some_iff grouping.nodup_keys

theorem mem_values_iff_exists_group :
    value ∈ grouping.values key ↔
      ∃ group ∈ grouping.groups, group.1 = key ∧ value ∈ group.2 := by
  constructor
  · intro member
    cases found : grouping.find? key with
    | none =>
        rw [values, found] at member
        exact absurd member (OrderedSet.not_mem_empty value)
    | some members =>
        rw [values, found] at member
        exact ⟨(key, members), find?_eq_some_iff.1 found, rfl, member⟩
  · rintro ⟨⟨first, members⟩, listed, same, member⟩
    cases same
    rw [values, find?_eq_some_iff.2 listed]
    exact member

theorem mem_values_iff_mem_group {group : κ × OrderedSet ν} (listed : group ∈ grouping.groups) :
    value ∈ grouping.values group.1 ↔ value ∈ group.2 := by
  have found : grouping.find? group.1 = some group.2 := find?_eq_some_iff.2 listed
  rw [values, found, Option.getD_some]

theorem groups_eq_map_keys (grouping : Grouping κ ν) :
    grouping.groups = grouping.keys.map fun key => (key, grouping.values key) := by
  have atGroup : ∀ group ∈ grouping.groups, (group.1, grouping.values group.1) = group := by
    intro group listed
    have found : grouping.find? group.1 = some group.2 := find?_eq_some_iff.2 listed
    rw [values, found, Option.getD_some]
  calc
    grouping.groups = grouping.groups.map id := (List.map_id _).symm
    _ = grouping.groups.map fun group => (group.1, grouping.values group.1) :=
      List.map_congr_left fun group listed => (atGroup group listed).symm
    _ = grouping.keys.map fun key => (key, grouping.values key) := by
      rw [keys, List.map_map]
      rfl

/-- Keys and values, with their orders, make up a grouping. -/
theorem eq_of_keySet_of_values {first second : Grouping κ ν} (keys : first.keySet = second.keySet)
    (values : ∀ key, first.values key = second.values key) : first = second := by
  have sameKeys : first.keys = second.keys := congrArg OrderedSet.toList keys
  apply ext
  rw [groups_eq_map_keys first, groups_eq_map_keys second, sameKeys]
  exact List.map_congr_left fun key _ => by rw [values key]

theorem mem_keys_of_mem_values (member : value ∈ grouping.values key) :
    key ∈ grouping.keys := by
  obtain ⟨group, listed, same, _⟩ := mem_values_iff_exists_group.1 member
  exact List.mem_map.2 ⟨group, listed, same⟩

omit [DecidableEq κ] in
theorem Same.refl [DecidableEq ν] (grouping : Grouping κ ν) : grouping.Same grouping :=
  ⟨fun group listed => ⟨group, listed, rfl, .refl group.2⟩,
    fun group listed => ⟨group, listed, rfl, .refl group.2⟩⟩

theorem Same.mem_values_iff [DecidableEq ν] {first second : Grouping κ ν}
    (same : first.Same second) :
    value ∈ first.values key ↔ value ∈ second.values key := by
  simp only [mem_values_iff_exists_group]
  constructor
  · rintro ⟨group, listed, rfl, member⟩
    obtain ⟨other, otherListed, key_eq, members⟩ := same.1 group listed
    exact ⟨other, otherListed, key_eq.symm, OrderedSet.same_iff.1 members value |>.1 member⟩
  · rintro ⟨group, listed, rfl, member⟩
    obtain ⟨other, otherListed, key_eq, members⟩ := same.2 group listed
    exact ⟨other, otherListed, key_eq.symm, OrderedSet.same_iff.1 members value |>.1 member⟩

omit [DecidableEq κ] in
theorem Same.filled [DecidableEq ν] {first second : Grouping κ ν} (same : first.Same second)
    (filled : ∀ group ∈ first.groups, group.2.toList ≠ []) :
    ∀ group ∈ second.groups, group.2.toList ≠ [] := by
  intro group listed
  obtain ⟨other, otherListed, _, members⟩ := same.2 group listed
  obtain ⟨value, member⟩ := List.exists_mem_of_ne_nil _ (filled other otherListed)
  exact List.ne_nil_of_mem ((OrderedSet.same_iff.1 members value).2 member)

theorem mem_pairs : (key, value) ∈ grouping.pairs ↔ value ∈ grouping.values key := by
  rw [mem_values_iff_exists_group, pairs, List.mem_flatMap]
  constructor
  · rintro ⟨group, listed, paired⟩
    obtain ⟨member, inGroup, same⟩ := List.mem_map.1 paired
    cases same
    exact ⟨group, listed, rfl, inGroup⟩
  · rintro ⟨group, listed, same, member⟩
    cases same
    exact ⟨group, listed, List.mem_map.2 ⟨value, member, rfl⟩⟩

end Groups

section Merging

variable {κ ν : Type} [DecidableEq κ] [DecidableEq ν]
variable {grouping : Grouping κ ν} {key : κ} {value : ν}

theorem keySet_merge (grouping : Grouping κ ν) (key : κ) (values : List ν) :
    (grouping.merge key values).keySet = grouping.keySet.insert key := by
  apply OrderedSet.ext
  rw [OrderedSet.toList_insert]
  exact keys_merge grouping key values

/-- The keys after some steps: the old ones, then those of the steps. -/
theorem keySet_mergeAll (grouping : Grouping κ ν) (steps : List (κ × List ν)) :
    (grouping.mergeAll steps).keySet = grouping.keySet.insertAll (steps.map Prod.fst) := by
  induction steps generalizing grouping with
  | nil => rfl
  | cons step steps induction =>
      change ((grouping.merge step.1 step.2).mergeAll steps).keySet = _
      rw [induction, keySet_merge]
      rfl

theorem values_merge (grouping : Grouping κ ν) (key other : κ) (values : List ν) :
    (grouping.merge key values).values other =
      if other = key then (grouping.values other).insertAll values
      else grouping.values other := by
  rw [Grouping.values, find?_merge]
  by_cases same : other = key
  · rw [if_pos same, if_pos same, same, Option.getD_some]
  · rw [if_neg same, if_neg same]
    rfl

/-- The values under a key after some steps: the old ones, then those of the steps
with this key, one step after the other. -/
theorem values_mergeAll (grouping : Grouping κ ν) (steps : List (κ × List ν)) (key : κ) :
    (grouping.mergeAll steps).values key =
      (grouping.values key).insertAll
        ((steps.filter fun step => step.1 = key).flatMap Prod.snd) := by
  induction steps generalizing grouping with
  | nil => rfl
  | cons step steps induction =>
      change ((grouping.merge step.1 step.2).mergeAll steps).values key = _
      rw [induction, values_merge]
      by_cases same : key = step.1
      · rw [if_pos same, List.filter_cons_of_pos (by simp [same]), List.flatMap_cons,
          OrderedSet.insertAll_append]
      · rw [if_neg same, List.filter_cons_of_neg (by simpa using Ne.symm same)]

theorem mem_values_mergeAll {steps : List (κ × List ν)} :
    value ∈ (grouping.mergeAll steps).values key ↔
      value ∈ grouping.values key ∨ ∃ step ∈ steps, step.1 = key ∧ value ∈ step.2 := by
  simp [values_mergeAll, List.mem_flatMap, and_assoc]

theorem mem_values_ofList {steps : List (κ × List ν)} :
    value ∈ (ofList steps).values key ↔ ∃ step ∈ steps, step.1 = key ∧ value ∈ step.2 := by
  rw [ofList, mem_values_mergeAll]
  simp [Grouping.values, find?]

theorem mergeAll_append (grouping : Grouping κ ν) (first second : List (κ × List ν)) :
    grouping.mergeAll (first ++ second) = (grouping.mergeAll first).mergeAll second :=
  List.foldl_append

theorem mem_keys_mergeAll {steps : List (κ × List ν)} :
    key ∈ (grouping.mergeAll steps).keys ↔ key ∈ grouping.keys ∨ ∃ step ∈ steps, step.1 = key := by
  calc
    key ∈ (grouping.mergeAll steps).keys ↔ key ∈ (grouping.mergeAll steps).keySet := Iff.rfl
    _ ↔ key ∈ grouping.keySet ∨ key ∈ steps.map Prod.fst := by
      rw [keySet_mergeAll, OrderedSet.mem_insertAll]
    _ ↔ key ∈ grouping.keys ∨ ∃ step ∈ steps, step.1 = key := by
      rw [List.mem_map]
      rfl

theorem exists_step_of_mem_groups {steps : List (κ × List ν)} {group : κ × OrderedSet ν}
    (member : group ∈ (ofList steps).groups) : ∃ step ∈ steps, step.1 = group.1 := by
  have isKey : group.1 ∈ (ofList steps).keys := List.mem_map.2 ⟨group, member, rfl⟩
  rw [ofList, mem_keys_mergeAll] at isKey
  rcases isKey with old | made
  · exact absurd old List.not_mem_nil
  · exact made

theorem mem_values_ofList_singletons {pairs : List (κ × ν)} :
    value ∈ (ofList (pairs.map fun pair => (pair.1, [pair.2]))).values key ↔
      (key, value) ∈ pairs := by
  rw [mem_values_ofList]
  constructor
  · intro found
    obtain ⟨step, listed, key_eq, member⟩ := found
    obtain ⟨pair, inPairs, rfl⟩ := List.mem_map.1 listed
    cases key_eq
    cases List.mem_singleton.1 member
    exact inPairs
  · intro listed
    exact ⟨(key, [value]), List.mem_map.2 ⟨_, listed, rfl⟩, rfl, List.mem_singleton_self value⟩

theorem mem_keys_ofList_singletons {pairs : List (κ × ν)} :
    key ∈ (ofList (pairs.map fun pair => (pair.1, [pair.2]))).keys ↔
      ∃ value, (key, value) ∈ pairs := by
  constructor
  · intro isKey
    obtain ⟨group, listed, rfl⟩ := List.mem_map.1 isKey
    obtain ⟨step, inSteps, key_eq⟩ := exists_step_of_mem_groups listed
    obtain ⟨pair, inPairs, rfl⟩ := List.mem_map.1 inSteps
    exact ⟨pair.2, key_eq ▸ inPairs⟩
  · intro listed
    obtain ⟨value, inPairs⟩ := listed
    exact mem_keys_of_mem_values (mem_values_ofList_singletons.2 inPairs)

/-- Steps that all have values leave no key without any. -/
theorem toList_ne_nil_of_mem_groups_ofList {steps : List (κ × List ν)}
    (filled : ∀ step ∈ steps, step.2 ≠ []) {group : κ × OrderedSet ν}
    (member : group ∈ (ofList steps).groups) : group.2.toList ≠ [] := by
  obtain ⟨step, listed, key_eq⟩ := exists_step_of_mem_groups member
  obtain ⟨value, inStep⟩ := List.exists_mem_of_ne_nil step.2 (filled step listed)
  have inGroup := (mem_values_iff_mem_group member).1
    (mem_values_ofList.2 ⟨step, listed, key_eq, inStep⟩)
  exact List.ne_nil_of_mem inGroup

end Merging

section Sameness

variable {κ ν : Type} {first second : Grouping κ ν} {key : κ}

theorem Same.symm (same : first.Same second) : second.Same first :=
  ⟨same.2, same.1⟩

theorem Same.mem_keys_of_mem (same : first.Same second) (isKey : key ∈ first.keys) :
    key ∈ second.keys := by
  obtain ⟨group, listed, rfl⟩ := List.mem_map.1 isKey
  obtain ⟨other, otherListed, key_eq, _⟩ := same.1 group listed
  exact List.mem_map.2 ⟨other, otherListed, key_eq.symm⟩

theorem Same.mem_keys_iff (same : first.Same second) : key ∈ first.keys ↔ key ∈ second.keys :=
  ⟨same.mem_keys_of_mem, same.symm.mem_keys_of_mem⟩

variable [DecidableEq κ]

theorem exists_same_group (keys : ∀ key ∈ first.keys, key ∈ second.keys)
    (values : ∀ key value, value ∈ first.values key ↔ value ∈ second.values key)
    {group : κ × OrderedSet ν} (listed : group ∈ first.groups) :
    ∃ other ∈ second.groups, group.1 = other.1 ∧ group.2.Same other.2 := by
  have isKey : group.1 ∈ second.keys := keys group.1 (List.mem_map.2 ⟨group, listed, rfl⟩)
  obtain ⟨other, otherListed, key_eq⟩ := List.mem_map.1 isKey
  refine ⟨other, otherListed, key_eq.symm, ?_⟩
  rw [OrderedSet.same_iff]
  intro value
  rw [← mem_values_iff_mem_group listed, ← mem_values_iff_mem_group otherListed, key_eq,
    values group.1 value]

theorem same_of_members (keys : ∀ key, key ∈ first.keys ↔ key ∈ second.keys)
    (values : ∀ key value, value ∈ first.values key ↔ value ∈ second.values key) :
    first.Same second := by
  constructor
  · intro group listed
    exact exists_same_group (fun key => (keys key).1) values listed
  · intro group listed
    exact exists_same_group (fun key => (keys key).2) (fun key value => (values key value).symm)
      listed

theorem mem_keys_iff_exists_value {grouping : Grouping κ ν}
    (filled : ∀ group ∈ grouping.groups, group.2.toList ≠ []) :
    key ∈ grouping.keys ↔ ∃ value, value ∈ grouping.values key := by
  constructor
  · intro isKey
    obtain ⟨group, listed, rfl⟩ := List.mem_map.1 isKey
    obtain ⟨value, member⟩ := List.exists_mem_of_ne_nil _ (filled group listed)
    exact ⟨value, (mem_values_iff_mem_group listed).2 member⟩
  · rintro ⟨value, member⟩
    exact mem_keys_of_mem_values member

end Sameness

end Grouping
end RightLinear
