import Mathlib.Data.List.Induction
import Mathlib.Data.List.Nodup
import RightLinear.Proofs.Grouping

/-! # Grouping again what was grouped

A grouping can be taken apart into steps and put together again. Merging whole
groups in their order gives the same keys and values in the same order, and so
does merging one value at a time, if no key is without values: such a key would
not be mentioned by any step.
-/

namespace RightLinear

namespace OrderedSet

variable {α : Type} [DecidableEq α]

theorem toList_insertAll_of_nodup {set : OrderedSet α} {members : List α}
    (distinct : (set.toList ++ members).Nodup) :
    (set.insertAll members).toList = set.toList ++ members := by
  induction members generalizing set with
  | nil => rw [List.append_nil]; rfl
  | cons member members induction =>
      have isNew : ¬ member ∈ set := fun present =>
        (List.nodup_append.1 distinct).2.2 member present member List.mem_cons_self rfl
      have grown : (set.insert member).toList = set.toList ++ [member] := by
        rw [toList_insert, if_neg isNew]
      have shifted : ((set.insert member).toList ++ members).Nodup := by
        rwa [grown, List.append_assoc, List.singleton_append]
      change ((set.insert member).insertAll members).toList = _
      rw [induction shifted, grown, List.append_assoc, List.singleton_append]

@[simp] theorem ofList_toList (set : OrderedSet α) : ofList set.toList = set := by
  apply ext
  exact toList_insertAll_of_nodup set.nodup

theorem ofList_append_singleton (members : List α) (member : α) :
    ofList (members ++ [member]) = (ofList members).insert member :=
  insertAll_append ∅ members [member]

/-- The members of a list stand in its set in the order in which they first occur. -/
theorem pairwise_idxOf_ofList [BEq α] [LawfulBEq α] (members : List α) :
    (ofList members).toList.Pairwise fun first second =>
      members.idxOf first < members.idxOf second := by
  -- One more member at the end occurs after all others, or changes nothing.
  induction members using List.reverseRecOn with
  | nil => exact List.Pairwise.nil
  | append_singleton members member induction =>
      have kept : (ofList members).toList.Pairwise fun first second =>
          (members ++ [member]).idxOf first < (members ++ [member]).idxOf second := by
        apply induction.imp_of_mem
        intro first second firstListed secondListed before
        rw [List.idxOf_append_of_mem (mem_ofList.1 firstListed),
          List.idxOf_append_of_mem (mem_ofList.1 secondListed)]
        exact before
      rw [ofList_append_singleton, toList_insert]
      split
      · exact kept
      · next isNew =>
          rw [mem_ofList] at isNew
          rw [List.pairwise_append]
          refine ⟨kept, List.pairwise_singleton _ _, ?_⟩
          intro first firstListed second atEnd
          rw [List.mem_singleton.1 atEnd, List.idxOf_append_of_notMem isNew, List.idxOf_cons_self,
            List.idxOf_append_of_mem (mem_ofList.1 firstListed)]
          exact List.idxOf_lt_length_of_mem (mem_ofList.1 firstListed)

end OrderedSet

namespace Grouping

variable {κ ν : Type} [DecidableEq κ] [DecidableEq ν]

theorem mergeGroups_mergeGroups (key : κ) (first second : List ν)
    (groups : List (κ × OrderedSet ν)) :
    mergeGroups key second (mergeGroups key first groups) =
      mergeGroups key (first ++ second) groups := by
  induction groups with
  | nil => simp [mergeGroups, OrderedSet.ofList, OrderedSet.insertAll_append]
  | cons group groups induction =>
      by_cases same : group.1 = key
      · simp [mergeGroups, same, OrderedSet.insertAll_append]
      · simp [mergeGroups, same, induction]

theorem merge_merge (grouping : Grouping κ ν) (key : κ) (first second : List ν) :
    (grouping.merge key first).merge key second = grouping.merge key (first ++ second) := by
  apply ext
  exact mergeGroups_mergeGroups key first second grouping.groups

theorem mergeGroups_of_new {key : κ} {values : List ν} {groups : List (κ × OrderedSet ν)}
    (isNew : ¬ key ∈ groups.map Prod.fst) :
    mergeGroups key values groups = groups ++ [(key, OrderedSet.ofList values)] := by
  induction groups with
  | nil => rfl
  | cons group groups induction =>
      rw [List.map_cons, List.mem_cons, not_or] at isNew
      rw [mergeGroups, if_neg fun same => isNew.1 same.symm, induction isNew.2, List.cons_append]

/-- Steps with new keys, all different, add one group each. -/
theorem groups_mergeAll_of_nodup {grouping : Grouping κ ν} {steps : List (κ × List ν)}
    (distinct : (grouping.keys ++ steps.map Prod.fst).Nodup) :
    (grouping.mergeAll steps).groups =
      grouping.groups ++ steps.map fun step => (step.1, OrderedSet.ofList step.2) := by
  induction steps generalizing grouping with
  | nil => rw [List.map_nil, List.append_nil]; rfl
  | cons step steps induction =>
      have isNew : ¬ step.1 ∈ grouping.keys := fun present =>
        (List.nodup_append.1 distinct).2.2 step.1 present step.1 List.mem_cons_self rfl
      have grown : (grouping.merge step.1 step.2).groups =
          grouping.groups ++ [(step.1, OrderedSet.ofList step.2)] := mergeGroups_of_new isNew
      have shifted : ((grouping.merge step.1 step.2).keys ++ steps.map Prod.fst).Nodup := by
        rwa [keys_merge, if_neg isNew, List.append_assoc, List.singleton_append]
      change ((grouping.merge step.1 step.2).mergeAll steps).groups = _
      rw [induction shifted, grown, List.append_assoc, List.singleton_append, List.map_cons]

theorem ofList_groups (grouping : Grouping κ ν) :
    ofList (grouping.groups.map fun group => (group.1, group.2.toList)) = grouping := by
  have keys : (grouping.groups.map fun group => (group.1, group.2.toList)).map Prod.fst =
      grouping.keys := by
    rw [List.map_map]
    rfl
  apply ext
  rw [ofList, groups_mergeAll_of_nodup (by rw [keys]; exact grouping.nodup_keys), List.map_map]
  calc
    [] ++ grouping.groups.map _ = grouping.groups.map id := by
      apply List.map_congr_left
      intro group _
      simp
    _ = grouping.groups := List.map_id _

/-- Values that come one at a time are all merged, if the group has been opened. -/
theorem mergeAll_merge_singletons (grouping : Grouping κ ν) (key : κ) (before values : List ν) :
    (grouping.merge key before).mergeAll (values.map fun value => (key, [value])) =
      grouping.merge key (before ++ values) := by
  induction values generalizing before with
  | nil => rw [List.append_nil]; rfl
  | cons value values induction =>
      change ((grouping.merge key before).merge key [value]).mergeAll _ = _
      rw [merge_merge, induction, List.append_assoc, List.singleton_append]

theorem mergeAll_pairs_of_ne_nil {groups : List (κ × OrderedSet ν)}
    (filled : ∀ group ∈ groups, group.2.toList ≠ []) (grouping : Grouping κ ν) :
    grouping.mergeAll (groups.flatMap fun group =>
        group.2.toList.map fun value => (group.1, [value])) =
      grouping.mergeAll (groups.map fun group => (group.1, group.2.toList)) := by
  induction groups generalizing grouping with
  | nil => rfl
  | cons group groups induction =>
      obtain ⟨value, values, listed⟩ :=
        List.exists_cons_of_ne_nil (filled group List.mem_cons_self)
      have here : grouping.mergeAll (group.2.toList.map fun value => (group.1, [value])) =
          grouping.merge group.1 group.2.toList := by
        rw [listed]
        exact mergeAll_merge_singletons grouping group.1 [value] values
      have later := induction fun other member => filled other (List.mem_cons_of_mem group member)
      rw [List.flatMap_cons, mergeAll, List.foldl_append]
      change (grouping.mergeAll _).mergeAll _ = (grouping.merge group.1 _).mergeAll _
      rw [here, later]

theorem ofList_pairs {grouping : Grouping κ ν}
    (filled : ∀ group ∈ grouping.groups, group.2.toList ≠ []) :
    ofList (grouping.pairs.map fun pair => (pair.1, [pair.2])) = grouping := by
  calc
    ofList (grouping.pairs.map fun pair => (pair.1, [pair.2])) =
        ofList (grouping.groups.flatMap fun group =>
          group.2.toList.map fun value => (group.1, [value])) := by
      simp [pairs, List.map_flatMap, Function.comp_def]
    _ = ofList (grouping.groups.map fun group => (group.1, group.2.toList)) :=
      mergeAll_pairs_of_ne_nil filled ∅
    _ = grouping := ofList_groups grouping

omit [DecidableEq κ] [DecidableEq ν] in
theorem nodup_pairs (grouping : Grouping κ ν) : grouping.pairs.Nodup := by
  rw [pairs, List.nodup_flatMap]
  constructor
  · intro group _
    exact group.2.nodup.map fun _ _ same => (Prod.mk.inj same).2
  · apply (List.pairwise_map.1 grouping.nodup_keys).imp
    intro first second apart pair inFirst inSecond
    obtain ⟨_, _, rfl⟩ := List.mem_map.1 inFirst
    obtain ⟨_, _, same⟩ := List.mem_map.1 inSecond
    exact apart (Prod.mk.inj same).1.symm

end Grouping
end RightLinear
