import RightLinear.Conversion
import RightLinear.Proofs.Automaton.Run
import RightLinear.Proofs.Grammar.Derivation
import RightLinear.Proofs.Grammar.Regular

/-! # The grammar of an automaton generates what the automaton accepts

A thread of the search in the grammar follows a path of the automaton. It can
stop waiting with any transition to a final state, and only the empty word is
left to the empty production of the start.
-/

namespace RightLinear
namespace Automaton

variable {automaton : Automaton} {left letter target : Symbol} {side : RightSide}

theorem mem_alternativesFor_iff :
    side ∈ automaton.alternativesFor letter target ↔
      side = .symbols [letter, target] ∨ side = .symbols [letter] ∧ target ∈ automaton.finals := by
  rw [alternativesFor, List.mem_cons]
  by_cases isFinal : target ∈ automaton.finals
  · simp [isFinal]
  · simp [isFinal]

theorem symbols_mem_alternativesFor_iff {first : Symbol} {next : Pending} :
    .symbols (first :: next.toList) ∈ automaton.alternativesFor letter target ↔
      first = letter ∧ (next = some target ∨ next = none ∧ target ∈ automaton.finals) := by
  rw [mem_alternativesFor_iff]
  cases next with
  | none => simp
  | some symbol => simp

theorem mem_epsilonSteps_iff {step : Symbol × List RightSide} :
    step ∈ automaton.epsilonSteps ↔
      step = (automaton.initial, [.epsilon]) ∧ automaton.initial ∈ automaton.finals := by
  unfold epsilonSteps
  split
  · next isFinal => simp [isFinal]
  · next other => simp [other]

theorem mem_alternatives_toGrammar :
    side ∈ automaton.toGrammar.alternatives left ↔
      (side = .epsilon ∧ left = automaton.initial ∧ automaton.initial ∈ automaton.finals) ∨
        ∃ letter, ∃ target ∈ automaton.targets left letter,
          side ∈ automaton.alternativesFor letter target := by
  rw [Grammar.alternatives, toGrammar, Grouping.mem_values_ofList]
  constructor
  · rintro ⟨step, listed, key, member⟩
    rcases List.mem_append.1 listed with empty | mapped
    · obtain ⟨rfl, isFinal⟩ := mem_epsilonSteps_iff.1 empty
      exact Or.inl ⟨List.mem_singleton.1 member, key.symm, isFinal⟩
    · obtain ⟨group, inGroups, rfl⟩ := List.mem_map.1 mapped
      obtain ⟨target, inTargets, made⟩ := List.mem_flatMap.1 member
      cases key
      exact Or.inr ⟨group.1.2, target, mem_targets_of_mem_group inGroups inTargets, made⟩
  · rintro (⟨rfl, rfl, isFinal⟩ | ⟨letter, target, transition, made⟩)
    · refine ⟨(automaton.initial, [.epsilon]), ?_, rfl, List.mem_singleton_self _⟩
      exact List.mem_append_left _ (mem_epsilonSteps_iff.2 ⟨rfl, isFinal⟩)
    · obtain ⟨group, inGroups, key, inTargets⟩ := mem_targets_iff_exists_group.1 transition
      refine ⟨automaton.productionStep group, ?_, ?_, ?_⟩
      · exact List.mem_append_right _ (List.mem_map.2 ⟨group, inGroups, rfl⟩)
      · rw [productionStep, key]
      · rw [productionStep, key]
        exact List.mem_flatMap.2 ⟨target, inTargets, made⟩

theorem epsilon_mem_alternatives_toGrammar :
    .epsilon ∈ automaton.toGrammar.alternatives left ↔
      left = automaton.initial ∧ automaton.initial ∈ automaton.finals := by
  simp [mem_alternatives_toGrammar, mem_alternativesFor_iff]

/-- A production of a letter leaves the target of a transition pending, or nothing
if the target is final. -/
theorem symbols_mem_alternatives_toGrammar {next : Pending} :
    .symbols (letter :: next.toList) ∈ automaton.toGrammar.alternatives left ↔
      ∃ target ∈ automaton.targets left letter,
        next = some target ∨ next = none ∧ target ∈ automaton.finals := by
  rw [mem_alternatives_toGrammar]
  simp only [symbols_mem_alternativesFor_iff, reduceCtorEq, false_and, false_or]
  constructor
  · rintro ⟨first, target, transition, same, pending⟩
    exact ⟨target, same ▸ transition, pending⟩
  · rintro ⟨target, transition, pending⟩
    exact ⟨letter, target, transition, rfl, pending⟩

theorem exists_step_of_mem_groups_toGrammar {group : Symbol × OrderedSet RightSide}
    (listed : group ∈ automaton.toGrammar.productions.groups) :
    group.1 = automaton.initial ∨
      ∃ origin ∈ automaton.transitions.groups, group.1 = origin.1.1 := by
  obtain ⟨step, inSteps, key⟩ := Grouping.exists_step_of_mem_groups listed
  rcases List.mem_append.1 inSteps with empty | mapped
  · obtain ⟨rfl, _⟩ := mem_epsilonSteps_iff.1 empty
    exact Or.inl key.symm
  · obtain ⟨origin, inGroups, rfl⟩ := List.mem_map.1 mapped
    exact Or.inr ⟨origin, inGroups, key.symm⟩

theorem wellFormed_toGrammar (formed : automaton.WellFormed) :
    automaton.toGrammar.WellFormed where
  start_mem := formed.initial_mem
  keys_mem := by
    intro group listed
    change group.1 ∈ automaton.states
    rcases exists_step_of_mem_groups_toGrammar listed with atStart | ⟨origin, inGroups, same⟩
    · exact atStart ▸ formed.initial_mem
    · exact same ▸ formed.sources_mem origin inGroups
  admits := by
    intro group listed side member
    have production := Grammar.mem_alternatives_of_mem_group listed member
    rcases mem_alternatives_toGrammar.1 production with ⟨rfl, _⟩ | ⟨letter, target, transition, made⟩
    · trivial
    · obtain ⟨_, letterMem, targetMem⟩ := formed.declared_of_mem_targets transition
      rcases mem_alternativesFor_iff.1 made with rfl | ⟨rfl, _⟩
      · refine ⟨by simp, ?_⟩
        intro symbol among
        rcases List.mem_cons.1 among with isLetter | isTarget
        · exact Or.inl (isLetter ▸ letterMem)
        · exact Or.inr (List.mem_singleton.1 isTarget ▸ targetMem)
      · refine ⟨by simp, ?_⟩
        intro symbol among
        cases List.mem_singleton.1 among
        exact Or.inl letterMem

/-- Transitions that all have targets leave no key of the productions without alternatives. -/
theorem filled_productions_toGrammar
    (filled : ∀ group ∈ automaton.transitions.groups, group.2.toList ≠ []) :
    ∀ group ∈ automaton.toGrammar.productions.groups, group.2.toList ≠ [] := by
  intro group
  apply Grouping.toList_ne_nil_of_mem_groups_ofList
  intro step listed
  rcases List.mem_append.1 listed with empty | mapped
  · obtain ⟨rfl, _⟩ := mem_epsilonSteps_iff.1 empty
    exact List.cons_ne_nil _ _
  · obtain ⟨origin, inGroups, rfl⟩ := List.mem_map.1 mapped
    obtain ⟨target, inTargets⟩ := List.exists_mem_of_ne_nil _ (filled origin inGroups)
    have made : .symbols [origin.1.2, target] ∈ automaton.alternativesFor origin.1.2 target :=
      mem_alternativesFor_iff.2 (Or.inl rfl)
    exact List.ne_nil_of_mem (List.mem_flatMap.2 ⟨target, inTargets, made⟩)

/-- The grammar is regular where no letter of a transition is a state and no target a
letter, and under the strict rule where no transition returns to a final initial
state. -/
theorem regular_toGrammar {rule : EpsilonRule} (formed : automaton.WellFormed)
    (apart : ∀ source letter, ∀ target ∈ automaton.targets source letter,
      ¬ letter ∈ automaton.states ∧ ¬ target ∈ automaton.alphabet)
    (unreached : rule = .strict → automaton.initial ∈ automaton.finals →
      ∀ source letter, ¬ automaton.initial ∈ automaton.targets source letter) :
    automaton.toGrammar.Regular rule where
  shapes := by
    intro left side production
    rcases mem_alternatives_toGrammar.1 production with ⟨rfl, _⟩ | ⟨letter, target, transition, made⟩
    · trivial
    · obtain ⟨_, letterMem, targetMem⟩ := formed.declared_of_mem_targets transition
      obtain ⟨noState, noLetter⟩ := apart left letter target transition
      rcases mem_alternativesFor_iff.1 made with rfl | ⟨rfl, _⟩
      · exact ⟨⟨letterMem, noState⟩, targetMem, noLetter⟩
      · exact ⟨letterMem, noState⟩
  left_of_epsilon left production := (epsilon_mem_alternatives_toGrammar.1 production).1
  start_unused := by
    intro strict produced left side production used
    have isFinal := (epsilon_mem_alternatives_toGrammar.1 produced).2
    rcases mem_alternatives_toGrammar.1 production with ⟨rfl, _⟩ | ⟨letter, target, transition, made⟩
    · exact absurd used List.not_mem_nil
    · have noLetter : automaton.initial ≠ letter :=
        fun same => (apart left letter target transition).1 (same ▸ formed.initial_mem)
      have noTarget : automaton.initial ≠ target :=
        fun same => unreached strict isFinal left letter (same ▸ transition)
      change automaton.initial ∈ side.word at used
      rcases mem_alternativesFor_iff.1 made with rfl | ⟨rfl, _⟩
      · simp [noLetter, noTarget] at used
      · simp [noLetter] at used

/-- A thread follows a path, and has stopped waiting only at a final state. -/
theorem produces_toGrammar_iff {source : Symbol} {word : Word} {rest : Pending} :
    automaton.toGrammar.Produces (some source) word rest ↔
      ∃ target, automaton.Path source word target ∧
        (rest = some target ∨ rest = none ∧ target ∈ automaton.finals ∧ word ≠ []) := by
  induction word generalizing source with
  | nil => simp [path_nil_iff, Grammar.produces_nil_iff, eq_comm]
  | cons letter word induction =>
      simp only [Grammar.produces_cons_iff, symbols_mem_alternatives_toGrammar]
      constructor
      · rintro ⟨next, ⟨state, transition, waiting | ⟨stopped, isFinal⟩⟩, run⟩
        · rw [waiting] at run
          obtain ⟨target, path, atTarget | ⟨done, isFinal, _⟩⟩ := induction.1 run
          · exact ⟨target, .step transition path, Or.inl atTarget⟩
          · exact ⟨target, .step transition path, Or.inr ⟨done, isFinal, by simp⟩⟩
        · rw [stopped] at run
          cases run
          exact ⟨state, .step transition (.here state), Or.inr ⟨rfl, isFinal, by simp⟩⟩
      · rintro ⟨target, path, ending⟩
        obtain ⟨state, transition, later⟩ := path_cons_iff.1 path
        rcases ending with waiting | ⟨done, isFinal, _⟩
        · have run := induction.2 ⟨target, later, Or.inl waiting⟩
          exact ⟨some state, ⟨state, transition, Or.inl rfl⟩, run⟩
        · cases word with
          | nil =>
              have atTarget : state = target := path_nil_iff.1 later
              rw [← atTarget] at isFinal
              rw [done]
              exact ⟨none, ⟨state, transition, Or.inr ⟨rfl, isFinal⟩⟩, .here none⟩
          | cons second word =>
              have run := induction.2 ⟨target, later, Or.inr ⟨done, isFinal, by simp⟩⟩
              exact ⟨some state, ⟨state, transition, Or.inl rfl⟩, run⟩

theorem generates_toGrammar_iff_exists_path {word : Word} :
    automaton.toGrammar.generates word = true ↔
      ∃ state ∈ automaton.finals, automaton.Path automaton.initial word state := by
  rw [Grammar.generates_iff_exists_produces]
  change (∃ rest, automaton.toGrammar.Produces (some automaton.initial) word rest ∧ _) ↔ _
  simp only [produces_toGrammar_iff]
  constructor
  · rintro ⟨rest, ⟨target, path, waiting | ⟨_, isFinal, _⟩⟩, ending⟩
    · rw [waiting, Grammar.ends, decide_eq_true_eq, epsilon_mem_alternatives_toGrammar] at ending
      exact ⟨target, ending.1 ▸ ending.2, path⟩
    · exact ⟨target, isFinal, path⟩
  · rintro ⟨state, isFinal, path⟩
    cases word with
    | nil =>
        -- No letter has been read, so the start itself must produce the empty word.
        cases path
        refine ⟨some automaton.initial, ⟨_, .here _, Or.inl rfl⟩, ?_⟩
        rw [Grammar.ends, decide_eq_true_eq, epsilon_mem_alternatives_toGrammar]
        exact ⟨rfl, isFinal⟩
    | cons letter word =>
        exact ⟨none, ⟨state, path, Or.inr ⟨rfl, isFinal, by simp⟩⟩, rfl⟩

/-- The grammar of an automaton generates exactly the words that it accepts. -/
theorem generates_toGrammar (automaton : Automaton) (word : Word) :
    automaton.toGrammar.generates word = automaton.accepts word := by
  rw [Bool.eq_iff_iff, generates_toGrammar_iff_exists_path, accepts_iff_exists_path]

end Automaton
end RightLinear
