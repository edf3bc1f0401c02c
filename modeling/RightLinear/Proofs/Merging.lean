import Mathlib.Data.List.Basic
import Mathlib.Logic.Relation
import RightLinear.Proofs.Grouping
import RightLinear.Symbol

/-! # Merging steps is a union of groups

However the keys of some steps alternate, merging them appends the keys that are new, and under
each key the values that are new, both in the order in which the steps first mention them.
Steps that say nothing new change nothing. The same values under the same keys, given in
another order or by other steps, give the same groups up to order.
-/

namespace RightLinear

namespace OrderedSet

variable {α : Type} [DecidableEq α]

/-- Inserting some members appends those that are new, each where it first occurs. -/
theorem toList_insertAll (set : OrderedSet α) (members : List α) :
    (set.insertAll members).toList =
      set.toList ++ (members.filter fun member => ¬ member ∈ set).eraseDups := by
  induction members generalizing set with
  | nil => simp [insertAll]
  | cons member members induction =>
      change ((set.insert member).insertAll members).toList = _
      rw [induction, toList_insert]
      by_cases present : member ∈ set
      · have same : ∀ other, other ∈ set.insert member ↔ other ∈ set := by
          intro other
          rw [mem_insert, or_iff_left_iff_imp]
          rintro rfl
          exact present
        rw [if_pos present, List.filter_cons_of_neg (by simpa using present)]
        simp only [same]
      · have remaining : (members.filter fun other => ¬ other ∈ set.insert member) =
            (members.filter fun other => ¬ other ∈ set).filter fun other => !other == member := by
          rw [List.filter_filter]
          apply List.filter_congr
          intro other _
          by_cases same : other = member
          · simp [same]
          · simp [same, beq_eq_false_iff_ne.2 same]
        rw [if_neg present, List.filter_cons_of_pos (by simpa using present),
          List.eraseDups_cons, remaining, List.append_assoc, List.singleton_append]

/-- Inserting changes nothing exactly if there is nothing new to insert. -/
theorem insertAll_eq_self_iff {set : OrderedSet α} {members : List α} :
    set.insertAll members = set ↔ ∀ member ∈ members, member ∈ set := by
  constructor
  · intro unchanged member listed
    rw [← unchanged]
    exact mem_insertAll.2 (Or.inr listed)
  · intro present
    have nothingNew : (members.filter fun member => ¬ member ∈ set) = [] := by
      rw [List.filter_eq_nil_iff]
      intro member listed
      simpa using present member listed
    apply ext
    rw [toList_insertAll, nothingNew, List.eraseDups_nil, List.append_nil]

end OrderedSet

namespace Grouping

section Mentioning

variable {κ ν : Type} {first second : List (κ × List ν)}

/-- Steps that use the same keys and list the same values under each of them. -/
structure SameMentioned (first second : List (κ × List ν)) : Prop where
  keys : ∀ key, (∃ step ∈ first, step.1 = key) ↔ ∃ step ∈ second, step.1 = key
  values : ∀ key value, (∃ step ∈ first, step.1 = key ∧ value ∈ step.2) ↔
    ∃ step ∈ second, step.1 = key ∧ value ∈ step.2

namespace SameMentioned

theorem refl (steps : List (κ × List ν)) : SameMentioned steps steps :=
  ⟨fun _ => Iff.rfl, fun _ _ => Iff.rfl⟩

theorem symm (mentioned : SameMentioned first second) : SameMentioned second first :=
  ⟨fun key => (mentioned.keys key).symm, fun key value => (mentioned.values key value).symm⟩

theorem trans {third : List (κ × List ν)} (mentioned : SameMentioned first second)
    (mentionedNext : SameMentioned second third) : SameMentioned first third :=
  ⟨fun key => (mentioned.keys key).trans (mentionedNext.keys key),
    fun key value => (mentioned.values key value).trans (mentionedNext.values key value)⟩

theorem append {later others : List (κ × List ν)} (mentioned : SameMentioned first second)
    (mentionedLater : SameMentioned later others) :
    SameMentioned (first ++ later) (second ++ others) := by
  constructor
  · intro key
    simp only [List.mem_append, or_and_right, exists_or, mentioned.keys, mentionedLater.keys]
  · intro key value
    simp only [List.mem_append, or_and_right, exists_or, mentioned.values, mentionedLater.values]

theorem of_perm (permutation : first.Perm second) : SameMentioned first second := by
  constructor
  · intro key
    simp only [permutation.mem_iff]
  · intro key value
    simp only [permutation.mem_iff]

theorem parts (key : κ) {values : List ν} {parts : List (List ν)} (filled : parts ≠ [])
    (together : parts.flatten.Perm values) :
    SameMentioned [(key, values)] (parts.map fun part => (key, part)) := by
  obtain ⟨part, isPart⟩ := List.exists_mem_of_ne_nil parts filled
  constructor
  · intro other
    simp only [List.mem_singleton, exists_eq_left, List.mem_map, exists_exists_and_eq_and]
    exact ⟨fun same => ⟨part, isPart, same⟩, fun ⟨_, _, same⟩ => same⟩
  · intro other value
    simp only [List.mem_singleton, exists_eq_left, List.mem_map, exists_exists_and_eq_and,
      ← together.mem_iff, List.mem_flatten]
    exact ⟨fun ⟨same, part, isPart, member⟩ => ⟨part, isPart, same, member⟩,
      fun ⟨part, isPart, same, member⟩ => ⟨same, part, isPart, member⟩⟩

end SameMentioned

/-- One change in how values are distributed over steps: the steps come in another order, or
one of them is split. The parts of a step together have its values, in whatever order, and
there is at least one part, so that the key stays in use. -/
inductive Redistributed : List (κ × List ν) → List (κ × List ν) → Prop
  | permuted {first second : List (κ × List ν)} (permutation : first.Perm second) :
      Redistributed first second
  | split (before after : List (κ × List ν)) (key : κ) {values : List ν}
      {parts : List (List ν)} (filled : parts ≠ []) (together : parts.flatten.Perm values) :
      Redistributed (before ++ (key, values) :: after)
        (before ++ (parts.map (fun part => (key, part)) ++ after))

theorem Redistributed.sameMentioned (change : Redistributed first second) :
    SameMentioned first second := by
  cases change with
  | permuted permutation => exact .of_perm permutation
  | split before after key filled together =>
      exact (SameMentioned.refl before).append
        ((SameMentioned.parts key filled together).append (.refl after))

theorem sameMentioned_of_eqvGen (changes : Relation.EqvGen Redistributed first second) :
    SameMentioned first second := by
  induction changes with
  | rel _ _ once => exact once.sameMentioned
  | refl steps => exact .refl steps
  | symm _ _ _ induction => exact induction.symm
  | trans _ _ _ _ _ firstInduction secondInduction => exact firstInduction.trans secondInduction

end Mentioning

section Merged

variable {κ ν : Type} [DecidableEq κ] [DecidableEq ν]
variable {grouping : Grouping κ ν} {steps : List (κ × List ν)}

/-- The keys that some steps add, in the order in which they first use them. -/
def newKeys (grouping : Grouping κ ν) (steps : List (κ × List ν)) : List κ :=
  ((steps.map Prod.fst).filter fun key => ¬ key ∈ grouping.keys).eraseDups

/-- The values that some steps add under a key, in the order in which they first list them
there. -/
def newValues (grouping : Grouping κ ν) (steps : List (κ × List ν)) (key : κ) : List ν :=
  (((steps.filter fun step => step.1 = key).flatMap Prod.snd).filter
    fun value => ¬ value ∈ grouping.values key).eraseDups

theorem keys_mergeAll (grouping : Grouping κ ν) (steps : List (κ × List ν)) :
    (grouping.mergeAll steps).keys = grouping.keys ++ grouping.newKeys steps := by
  calc
    (grouping.mergeAll steps).keys = (grouping.mergeAll steps).keySet.toList := rfl
    _ = (grouping.keySet.insertAll (steps.map Prod.fst)).toList := by rw [keySet_mergeAll]
    _ = grouping.keys ++ grouping.newKeys steps := OrderedSet.toList_insertAll _ _

theorem toList_values_mergeAll (grouping : Grouping κ ν) (steps : List (κ × List ν)) (key : κ) :
    ((grouping.mergeAll steps).values key).toList =
      (grouping.values key).toList ++ grouping.newValues steps key := by
  rw [values_mergeAll]
  exact OrderedSet.toList_insertAll _ _

/-- The groups after some steps, given by the old groups and by what is new in the steps. -/
theorem groups_mergeAll (grouping : Grouping κ ν) (steps : List (κ × List ν)) :
    ((grouping.mergeAll steps).groups.map fun group => (group.1, group.2.toList)) =
      (grouping.keys ++ grouping.newKeys steps).map fun key =>
        (key, (grouping.values key).toList ++ grouping.newValues steps key) := by
  rw [groups_eq_map_keys, List.map_map, keys_mergeAll]
  apply List.map_congr_left
  intro key _
  exact congrArg (Prod.mk key) (toList_values_mergeAll grouping steps key)

/-- Merging changes nothing exactly if all keys and all values are there already. -/
theorem mergeAll_eq_self_iff :
    grouping.mergeAll steps = grouping ↔
      ∀ step ∈ steps, step.1 ∈ grouping.keys ∧
        ∀ value ∈ step.2, value ∈ grouping.values step.1 := by
  constructor
  · intro unchanged step listed
    rw [← unchanged]
    exact ⟨mem_keys_mergeAll.2 (Or.inr ⟨step, listed, rfl⟩),
      fun value member => mem_values_mergeAll.2 (Or.inr ⟨step, listed, rfl, member⟩)⟩
  · intro present
    apply eq_of_keySet_of_values
    · rw [keySet_mergeAll, OrderedSet.insertAll_eq_self_iff, List.forall_mem_map]
      exact fun step listed => (present step listed).1
    · intro key
      rw [values_mergeAll, OrderedSet.insertAll_eq_self_iff]
      intro value member
      obtain ⟨step, selected, inStep⟩ := List.mem_flatMap.1 member
      obtain ⟨listed, atKey⟩ := List.mem_filter.1 selected
      obtain rfl := of_decide_eq_true atKey
      exact (present step listed).2 value inStep

theorem mergeAll_append_of_subset {again : List (κ × List ν)} (occurred : again ⊆ steps) :
    grouping.mergeAll (steps ++ again) = grouping.mergeAll steps := by
  rw [mergeAll_append, mergeAll_eq_self_iff]
  intro step listed
  exact ⟨mem_keys_mergeAll.2 (Or.inr ⟨step, occurred listed, rfl⟩),
    fun value member => mem_values_mergeAll.2 (Or.inr ⟨step, occurred listed, rfl, member⟩)⟩

theorem SameMentioned.same_mergeAll {first second : List (κ × List ν)}
    (mentioned : SameMentioned first second) (grouping : Grouping κ ν) :
    (grouping.mergeAll first).Same (grouping.mergeAll second) := by
  apply same_of_members
  · intro key
    rw [mem_keys_mergeAll, mem_keys_mergeAll, mentioned.keys]
  · intro key value
    rw [mem_values_mergeAll, mem_values_mergeAll, mentioned.values]

/-- Merging unites the groups with the steps. The old keys come first and then the new ones in
the order of their first use, without repetition, and so do the values under each key. Steps
that have occurred already change nothing, and how the values are distributed over steps
decides about the order only. -/
theorem mergeAll_unites :
    (∀ (grouping : Grouping κ ν) (steps : List (κ × List ν)),
        ((grouping.mergeAll steps).groups.map fun group => (group.1, group.2.toList)) =
            ((grouping.keys ++ grouping.newKeys steps).map fun key =>
              (key, (grouping.values key).toList ++ grouping.newValues steps key)) ∧
          (grouping.keys ++ grouping.newKeys steps).Nodup ∧
          ∀ key, ((grouping.values key).toList ++ grouping.newValues steps key).Nodup) ∧
      (∀ (grouping : Grouping κ ν) (steps again : List (κ × List ν)), again ⊆ steps →
        grouping.mergeAll (steps ++ again) = grouping.mergeAll steps) ∧
      ∀ (grouping : Grouping κ ν) (first second : List (κ × List ν)),
        Relation.EqvGen Redistributed first second →
          (grouping.mergeAll first).Same (grouping.mergeAll second) := by
  refine ⟨fun grouping steps => ⟨groups_mergeAll grouping steps, ?_, ?_⟩,
    fun _ _ _ occurred => mergeAll_append_of_subset occurred,
    fun grouping _ _ changes => (sameMentioned_of_eqvGen changes).same_mergeAll grouping⟩
  · rw [← keys_mergeAll]
    exact (grouping.mergeAll steps).nodup_keys
  · intro key
    rw [← toList_values_mergeAll]
    exact ((grouping.mergeAll steps).values key).nodup

end Merged

/-- A key without values, a repeated value, and two steps with the same key. -/
def alternatingSteps : List (Symbol × List Symbol) :=
  [(⟨"q"⟩, []), (⟨"p"⟩, [⟨"y"⟩, ⟨"x"⟩, ⟨"y"⟩]), (⟨"r"⟩, [⟨"x"⟩]), (⟨"p"⟩, [⟨"z"⟩])]

/-- The second step is split with its values in another order, and the last step comes first. -/
def redistributedSteps : List (Symbol × List Symbol) :=
  [(⟨"p"⟩, [⟨"z"⟩]), (⟨"q"⟩, []), (⟨"p"⟩, [⟨"x"⟩]), (⟨"p"⟩, [⟨"y"⟩, ⟨"y"⟩]), (⟨"r"⟩, [⟨"x"⟩])]

theorem alternatingSteps_united :
    let old : Grouping Symbol Symbol := .ofList [(⟨"p"⟩, [⟨"x"⟩])]
    ((old.mergeAll alternatingSteps).groups.map fun group => (group.1, group.2.toList)) =
        [(⟨"p"⟩, [⟨"x"⟩, ⟨"y"⟩, ⟨"z"⟩]), (⟨"q"⟩, []), (⟨"r"⟩, [⟨"x"⟩])] ∧
      alternatingSteps.reverse.take 3 ⊆ alternatingSteps ∧
      old.mergeAll (alternatingSteps ++ alternatingSteps.reverse.take 3) =
        old.mergeAll alternatingSteps ∧
      Relation.EqvGen Redistributed alternatingSteps redistributedSteps ∧
      (old.mergeAll alternatingSteps).Same (old.mergeAll redistributedSteps) ∧
      old.mergeAll alternatingSteps ≠ old.mergeAll redistributedSteps := by
  intro old
  obtain ⟨united, repeated, redistributed⟩ := @mergeAll_unites Symbol Symbol _ _
  have occurred : alternatingSteps.reverse.take 3 ⊆ alternatingSteps := by decide
  have together : [[⟨"x"⟩], [⟨"y"⟩, ⟨"y"⟩]].flatten.Perm [(⟨"y"⟩ : Symbol), ⟨"x"⟩, ⟨"y"⟩] := by
    decide
  have change : Relation.EqvGen Redistributed alternatingSteps redistributedSteps := by
    have split := Redistributed.split [(⟨"q"⟩, [])] [(⟨"r"⟩, [⟨"x"⟩]), (⟨"p"⟩, [⟨"z"⟩])]
      (⟨"p"⟩ : Symbol) (by decide) together
    exact .trans _ _ _ (.rel _ _ split) (.rel _ _ (.permuted (by decide)))
  exact ⟨(united old alternatingSteps).1.trans (by decide), occurred,
    repeated old alternatingSteps _ occurred, change,
    redistributed old _ _ change, by decide⟩

end Grouping
end RightLinear
