import Mathlib.Data.List.Basic
import Mathlib.Data.Set.Function
import RightLinear.Proofs.Conversion.Transitions

/-! # The name of the sink

Two names that are wanted for the sink can lead to two sinks, and to automata that
differ in nothing else. Values that are renamed before they are merged are merged as
before, as long as no two of them get one name. The sink has a name that the grammar
does not use, so no other state can be taken for it.
-/

namespace RightLinear

section Renaming

variable {α β κ ν μ : Type} [DecidableEq α] [DecidableEq β] [DecidableEq κ]
variable [DecidableEq ν] [DecidableEq μ]

namespace OrderedSet

/-- A renamed member is new to a renamed set exactly if the member was new to the set. -/
theorem toList_insert_map {change : α → β} {set : OrderedSet α} {other : OrderedSet β}
    {member : α} (same : other.toList = set.toList.map change)
    (apart : ∀ old ∈ set, change old = change member → old = member) :
    (other.insert (change member)).toList = (set.insert member).toList.map change := by
  by_cases present : member ∈ set
  · have renamed : change member ∈ other := by
      rw [← mem_toList, same]
      exact List.mem_map_of_mem present
    rw [toList_insert, toList_insert, if_pos present, if_pos renamed, same]
  · have isNew : ¬ change member ∈ other := by
      rw [← mem_toList, same]
      intro listed
      obtain ⟨old, isOld, equal⟩ := List.mem_map.1 listed
      exact present (apart old isOld equal ▸ isOld)
    rw [toList_insert, toList_insert, if_neg present, if_neg isNew, same, List.map_append,
      List.map_singleton]

theorem toList_insertAll_map {change : α → β} {set : OrderedSet α} {other : OrderedSet β}
    {members : List α} (same : other.toList = set.toList.map change)
    (injective : Set.InjOn change {member | member ∈ set ∨ member ∈ members}) :
    (other.insertAll (members.map change)).toList = (set.insertAll members).toList.map change := by
  induction members generalizing set other with
  | nil => exact same
  | cons member members induction =>
      have inserted : (other.insert (change member)).toList =
          (set.insert member).toList.map change := by
        apply toList_insert_map same
        intro old isOld equal
        exact injective (Or.inl isOld) (Or.inr List.mem_cons_self) equal
      change ((other.insert (change member)).insertAll (members.map change)).toList =
        ((set.insert member).insertAll members).toList.map change
      apply induction inserted
      apply injective.mono
      rintro name (isOld | listed)
      · rcases mem_insert.1 isOld with old | new
        · exact Or.inl old
        · exact Or.inr (List.mem_cons.2 (Or.inl new))
      · exact Or.inr (List.mem_cons_of_mem member listed)

end OrderedSet

namespace Grouping

theorem toList_values_ofList_map {change : ν → μ} {steps : List (κ × List ν)}
    (injective : Set.InjOn change {value | ∃ step ∈ steps, value ∈ step.2}) (key : κ) :
    ((ofList (steps.map fun step => (step.1, step.2.map change))).values key).toList =
      ((ofList steps).values key).toList.map change := by
  have gathered : ((steps.map fun step => (step.1, step.2.map change)).filter
        fun step => step.1 = key).flatMap Prod.snd =
      ((steps.filter fun step => step.1 = key).flatMap Prod.snd).map change := by
    rw [List.filter_map, List.flatMap_map, List.map_flatMap]
    rfl
  rw [ofList, ofList, values_mergeAll, values_mergeAll, gathered]
  apply OrderedSet.toList_insertAll_map rfl
  apply injective.mono
  rintro value (impossible | listed)
  · exact absurd impossible (OrderedSet.not_mem_empty value)
  · obtain ⟨step, selected, member⟩ := List.mem_flatMap.1 listed
    exact ⟨step, (List.mem_filter.1 selected).1, member⟩

theorem groups_ofList_map {change : ν → μ} {steps : List (κ × List ν)}
    (injective : Set.InjOn change {value | ∃ step ∈ steps, value ∈ step.2}) :
    (ofList (steps.map fun step => (step.1, step.2.map change))).groups.map
        (fun group => (group.1, group.2.toList)) =
      (ofList steps).groups.map fun group => (group.1, group.2.toList.map change) := by
  have keySets : (ofList (steps.map fun step => (step.1, step.2.map change))).keySet =
      (ofList steps).keySet := by
    rw [ofList, ofList, keySet_mergeAll, keySet_mergeAll, List.map_map]
    rfl
  have keys : (ofList (steps.map fun step => (step.1, step.2.map change))).keys =
      (ofList steps).keys := congrArg OrderedSet.toList keySets
  rw [groups_eq_map_keys, groups_eq_map_keys (ofList steps), List.map_map, List.map_map, keys]
  apply List.map_congr_left
  intro key _
  exact congrArg (Prod.mk key) (toList_values_ofList_map injective key)

end Grouping

end Renaming

namespace Symbol

/-- A new name in the place of an old one; every other name stays. -/
def replace (old new name : Symbol) : Symbol := if name = old then new else name

variable {old new name : Symbol}

theorem replace_self : replace old new old = new := if_pos rfl

theorem replace_of_ne (apart : name ≠ old) : replace old new name = name := if_neg apart

/-- Among names that do not include the new one, replacing the old one keeps names apart. -/
theorem injOn_replace {names : Set Symbol} (fresh : new ∈ names → new = old) :
    Set.InjOn (replace old new) names := by
  intro first firstMem second secondMem equal
  by_cases firstOld : first = old
  · by_cases secondOld : second = old
    · rw [firstOld, secondOld]
    · rw [firstOld, replace_self, replace_of_ne secondOld] at equal
      rw [firstOld, ← equal, fresh (equal ▸ secondMem)]
  · by_cases secondOld : second = old
    · rw [secondOld, replace_self, replace_of_ne firstOld] at equal
      rw [secondOld, equal, fresh (equal ▸ firstMem)]
    · rwa [replace_of_ne firstOld, replace_of_ne secondOld] at equal

end Symbol

/-- One state of an automaton under another name: the second automaton is the first with
the name replaced among the states, the final states and the targets, and with every order
kept. The name stands nowhere else. -/
structure Automaton.RenamedTo (first : Automaton) (old new : Symbol) (second : Automaton) :
    Prop where
  states : second.states.toList = first.states.toList.map (Symbol.replace old new)
  finals : second.finals.toList = first.finals.toList.map (Symbol.replace old new)
  transitions :
    second.transitions.groups.map (fun group => (group.1, group.2.toList)) =
      first.transitions.groups.map fun group =>
        (group.1, group.2.toList.map (Symbol.replace old new))
  alphabet : second.alphabet = first.alphabet
  initial : second.initial = first.initial
  elsewhere : first.initial ≠ old ∧ ¬ old ∈ first.alphabet ∧
    ∀ group ∈ first.transitions.groups, group.1.1 ≠ old

namespace Grammar

variable {grammar : Grammar} {rule : EpsilonRule} {old new : Symbol}

/-- A production stands for the same transition whatever the sink is called, up to that
name. -/
theorem Regular.transitionOf?_replace (regular : grammar.Regular rule)
    (free : ¬ grammar.Declares old) {left : Symbol} {side : RightSide}
    (production : side ∈ grammar.alternatives left) :
    transitionOf? new left side = (transitionOf? old left side).map
      fun step => (step.1, step.2.map (Symbol.replace old new)) := by
  rcases regular.eq_symbols_of_production production with rfl | ⟨letter, next, rfl⟩
  · rfl
  · cases next with
    | none =>
        change some ((left, letter), [new]) = some ((left, letter), [Symbol.replace old new old])
        rw [Symbol.replace_self]
    | some target =>
        have isVariable := regular.isVariable_of_production production target rfl
        have apart : target ≠ old := fun same => free (Or.inr (same ▸ isVariable.1))
        change some ((left, letter), [target]) =
          some ((left, letter), [Symbol.replace old new target])
        rw [Symbol.replace_of_ne apart]

/-- The transitions of all productions, given the name of the sink. -/
def transitionSteps (grammar : Grammar) (sink : Symbol) : List ((Symbol × Symbol) × List Symbol) :=
  grammar.productions.pairs.filterMap fun production =>
    transitionOf? sink production.1 production.2

theorem Regular.transitionSteps_replace (regular : grammar.Regular rule)
    (free : ¬ grammar.Declares old) :
    grammar.transitionSteps new = (grammar.transitionSteps old).map
      fun step => (step.1, step.2.map (Symbol.replace old new)) := by
  rw [transitionSteps, transitionSteps, List.map_filterMap]
  apply List.filterMap_congr
  intro production listed
  exact regular.transitionOf?_replace free (Grouping.mem_pairs.1 listed)

theorem Regular.target_of_mem_transitionSteps (regular : grammar.Regular rule)
    {step : (Symbol × Symbol) × List Symbol} (listed : step ∈ grammar.transitionSteps old)
    {target : Symbol} (member : target ∈ step.2) : target = old ∨ grammar.Declares target := by
  obtain ⟨⟨left, side⟩, paired, converted⟩ := List.mem_filterMap.1 listed
  obtain ⟨letter, next, rfl, rfl⟩ := transitionOf?_eq_some_iff.1 converted
  have production := Grouping.mem_pairs.1 paired
  cases List.mem_singleton.1 member
  cases next with
  | none => exact Or.inl rfl
  | some symbol =>
      exact Or.inr (Or.inr (regular.isVariable_of_production production symbol rfl).1)

theorem Regular.renamedTo_automatonWithSink (regular : grammar.Regular rule)
    (formed : grammar.WellFormed) (free : ¬ grammar.Declares old)
    (newFree : ¬ grammar.Declares new) :
    (grammar.automatonWithSink old).RenamedTo old new (grammar.automatonWithSink new) := by
  have startApart : ∀ sink, ¬ grammar.Declares sink → grammar.start ≠ sink := by
    intro sink unused same
    exact unused (Or.inr (same ▸ formed.start_mem))
  have expressed := regular.expresses formed free
  exact {
    states := by
      have declaredStay : grammar.nonTerminals.toList.map (Symbol.replace old new) =
          grammar.nonTerminals.toList.map id := by
        apply List.map_congr_left
        intro symbol declared
        exact Symbol.replace_of_ne fun same => free (Or.inr (same ▸ declared))
      rw [(regular.expresses formed newFree).states, expressed.states, List.map_append,
        declaredStay, List.map_id, List.map_singleton, Symbol.replace_self]
    finals := by
      rw [(regular.expresses formed newFree).finals, expressed.finals, List.map_cons,
        Symbol.replace_self]
      split
      · rw [List.map_singleton, Symbol.replace_of_ne (startApart old free)]
      · rfl
    transitions := by
      change (Grouping.ofList (grammar.transitionSteps new)).groups.map _ =
        (Grouping.ofList (grammar.transitionSteps old)).groups.map _
      rw [regular.transitionSteps_replace free]
      apply Grouping.groups_ofList_map
      apply Symbol.injOn_replace
      rintro ⟨step, listed, member⟩
      exact (regular.target_of_mem_transitionSteps listed member).resolve_right newFree
    alphabet := rfl
    initial := rfl
    elsewhere := ⟨startApart old free, fun isLetter => free (Or.inl isLetter),
      expressed.none_from_sink⟩ }

/-- Whatever names are wanted for the sink, a regular grammar is converted to the same
automaton up to the name of the sink, with every order kept, and the same words are
accepted. -/
theorem wanted_names_only_rename (formed : grammar.WellFormed)
    (isRegular : grammar.isRegular rule = true) (wanted other : Symbol) :
    ∃ first second, grammar.toAutomaton rule wanted = .ok first ∧
      grammar.toAutomaton rule other = .ok second ∧
      first.RenamedTo (grammar.freshName wanted) (grammar.freshName other) second ∧
      ∀ word, first.accepts word = second.accepts word := by
  have regular := (isRegular_iff formed).1 isRegular
  refine ⟨_, _, regular.toAutomaton_eq formed wanted, regular.toAutomaton_eq formed other, ?_, ?_⟩
  · exact regular.renamedTo_automatonWithSink formed not_declares_freshName not_declares_freshName
  · intro word
    calc
      (grammar.automatonWithSink (grammar.freshName wanted)).accepts word =
          grammar.generates word :=
        regular.accepts_automatonWithSink formed freshName_not_mem_nonTerminals word
      _ = (grammar.automatonWithSink (grammar.freshName other)).accepts word :=
        (regular.accepts_automatonWithSink formed freshName_not_mem_nonTerminals word).symm

/-- One name is taken, so that a letter is the sink in its place; the other is free. In both
automata the sink is the last of three targets. -/
theorem branching_only_renamed :
    branching.WellFormed ∧ branching.isRegular .sequential = true ∧
      branching.freshName ⟨"K"⟩ = ⟨"Z"⟩ ∧ branching.freshName ⟨"end"⟩ = ⟨"end"⟩ ∧
      ∃ first second, branching.toAutomaton .sequential ⟨"K"⟩ = .ok first ∧
        branching.toAutomaton .sequential ⟨"end"⟩ = .ok second ∧
        (first.targets ⟨"S"⟩ ⟨"a"⟩).toList = [⟨"S"⟩, ⟨"K"⟩, ⟨"Z"⟩] ∧
        (second.targets ⟨"S"⟩ ⟨"a"⟩).toList = [⟨"S"⟩, ⟨"K"⟩, ⟨"end"⟩] ∧
        first.RenamedTo ⟨"Z"⟩ ⟨"end"⟩ second ∧ ∀ word, first.accepts word = second.accepts word := by
  have formed : branching.WellFormed := defect?_eq_none_iff.1 (by decide)
  have regular : branching.isRegular .sequential = true := by decide
  have letter : branching.freshName ⟨"K"⟩ = ⟨"Z"⟩ := by decide
  have free : branching.freshName ⟨"end"⟩ = ⟨"end"⟩ := by decide
  obtain ⟨first, second, converted, otherConverted, renamed, accepts⟩ :=
    wanted_names_only_rename formed regular ⟨"K"⟩ ⟨"end"⟩
  rw [letter, free] at renamed
  have named : branching.toAutomaton .sequential ⟨"K"⟩ =
      .ok (branching.automatonWithSink ⟨"Z"⟩) := by rfl
  have otherNamed : branching.toAutomaton .sequential ⟨"end"⟩ =
      .ok (branching.automatonWithSink ⟨"end"⟩) := by rfl
  cases named.symm.trans converted
  cases otherNamed.symm.trans otherConverted
  exact ⟨formed, regular, letter, free, _, _, named, otherNamed, by decide, by decide, renamed,
    accepts⟩

end Grammar
end RightLinear
