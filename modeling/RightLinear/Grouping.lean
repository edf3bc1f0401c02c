import RightLinear.OrderedSet

/-! # Insertion-ordered groupings

A `Grouping` keeps, under each of its keys, an ordered set of values. Keys
stand in the order of their first use. A key may have no values at all, which
is different from the key being absent.
-/

namespace RightLinear

/-- Distinct keys in order of first use, each with its ordered set of values. -/
structure Grouping (κ ν : Type) where
  groups : List (κ × OrderedSet ν)
  nodup_keys : (groups.map Prod.fst).Nodup
  deriving DecidableEq

namespace Grouping

variable {κ ν : Type}

@[ext] theorem ext {first second : Grouping κ ν}
    (same : first.groups = second.groups) : first = second := by
  cases first
  cases second
  cases same
  rfl

instance : EmptyCollection (Grouping κ ν) := ⟨⟨[], List.nodup_nil⟩⟩

instance : Inhabited (Grouping κ ν) := ⟨∅⟩

@[simp] theorem groups_empty : (∅ : Grouping κ ν).groups = [] := rfl

def keys (grouping : Grouping κ ν) : List κ := grouping.groups.map Prod.fst

/-- Every key with each of its values, keys first. -/
def pairs (grouping : Grouping κ ν) : List (κ × ν) :=
  grouping.groups.flatMap fun group => group.2.toList.map (group.1, ·)

variable [DecidableEq κ]

/-- The values under a key, or `none` where the key is absent. -/
def find? (grouping : Grouping κ ν) (key : κ) : Option (OrderedSet ν) :=
  grouping.groups.lookup key

/-- The values under a key; an absent key has none. -/
def values (grouping : Grouping κ ν) (key : κ) : OrderedSet ν :=
  (grouping.find? key).getD ∅

variable [DecidableEq ν]

/-- Adds values to the group of a key, which is opened at the end if it does
not exist. -/
def mergeGroups (key : κ) (values : List ν) :
    List (κ × OrderedSet ν) → List (κ × OrderedSet ν)
  | [] => [(key, OrderedSet.ofList values)]
  | group :: groups =>
      if group.1 = key then (group.1, group.2.insertAll values) :: groups
      else group :: mergeGroups key values groups

theorem keys_mergeGroups (key : κ) (values : List ν)
    (groups : List (κ × OrderedSet ν)) :
    (mergeGroups key values groups).map Prod.fst =
      if key ∈ groups.map Prod.fst then groups.map Prod.fst
      else groups.map Prod.fst ++ [key] := by
  induction groups with
  | nil => rfl
  | cons group groups induction =>
      by_cases same : group.1 = key
      · simp [mergeGroups, same]
      · have other : ¬ key = group.1 := fun equal => same equal.symm
        simp only [mergeGroups, if_neg same, List.map_cons, induction,
          List.mem_cons, other, false_or]
        split <;> rfl

theorem nodup_keys_mergeGroups {key : κ} {values : List ν}
    {groups : List (κ × OrderedSet ν)} (distinct : (groups.map Prod.fst).Nodup) :
    ((mergeGroups key values groups).map Prod.fst).Nodup := by
  rw [keys_mergeGroups]
  split
  · exact distinct
  · exact OrderedSet.nodup_append_singleton distinct ‹_›

/-- Adds values under a key. The key is made even if there are no values. -/
def merge (grouping : Grouping κ ν) (key : κ) (values : List ν) : Grouping κ ν :=
  ⟨mergeGroups key values grouping.groups, nodup_keys_mergeGroups grouping.nodup_keys⟩

def mergeAll (grouping : Grouping κ ν) (steps : List (κ × List ν)) : Grouping κ ν :=
  steps.foldl (fun merged step => merged.merge step.1 step.2) grouping

def ofList (steps : List (κ × List ν)) : Grouping κ ν :=
  (∅ : Grouping κ ν).mergeAll steps

theorem keys_merge (grouping : Grouping κ ν) (key : κ) (values : List ν) :
    (grouping.merge key values).keys =
      if key ∈ grouping.keys then grouping.keys else grouping.keys ++ [key] :=
  keys_mergeGroups key values grouping.groups

theorem lookup_mergeGroups (key other : κ) (values : List ν)
    (groups : List (κ × OrderedSet ν)) :
    (mergeGroups key values groups).lookup other =
      if other = key then
        some (((groups.lookup key).getD ∅).insertAll values)
      else groups.lookup other := by
  induction groups with
  | nil =>
      by_cases same : other = key
      · simp [mergeGroups, same, OrderedSet.ofList]
      · have apart : (other == key) = false := beq_false_of_ne same
        simp [mergeGroups, same, List.lookup_cons, apart]
  | cons group groups induction =>
      obtain ⟨first, members⟩ := group
      by_cases found : first = key
      · subst found
        by_cases same : other = first
        · simp [mergeGroups, same]
        · have apart : (other == first) = false := beq_false_of_ne same
          simp [mergeGroups, same, List.lookup_cons, apart]
      · have keyApart : (key == first) = false :=
          beq_false_of_ne fun equal => found equal.symm
        by_cases same : other = first
        · simp [mergeGroups, found, same]
        · have apart : (other == first) = false := beq_false_of_ne same
          simp [mergeGroups, found, List.lookup_cons, induction, apart, keyApart]

theorem find?_merge (grouping : Grouping κ ν) (key other : κ) (values : List ν) :
    (grouping.merge key values).find? other =
      if other = key then some ((grouping.values key).insertAll values)
      else grouping.find? other :=
  lookup_mergeGroups key other values grouping.groups

/-- Two groupings with the same keys and, under each key, the same values, in
whatever order. -/
def Same (first second : Grouping κ ν) : Prop :=
  (∀ group ∈ first.groups, ∃ other ∈ second.groups,
      group.1 = other.1 ∧ group.2.Same other.2) ∧
    ∀ group ∈ second.groups, ∃ other ∈ first.groups,
      group.1 = other.1 ∧ group.2.Same other.2

instance (first second : Grouping κ ν) : Decidable (first.Same second) :=
  inferInstanceAs (Decidable (_ ∧ _))

end Grouping
end RightLinear
