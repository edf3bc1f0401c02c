import RightLinear.Proofs.Conversion.ToAutomaton
import RightLinear.Proofs.Conversion.ToGrammar
import RightLinear.Proofs.Grammar.Within

/-! # Order cannot be observed

Two grammars or automata may declare the same symbols, productions and transitions in
different orders. Regularity and language are the same for both, and so are the results
of the conversions, up to order again. Only what is printed, and the choice of the
violation that is named, can tell them apart.
-/

namespace RightLinear

namespace Grammar

variable {first second : Grammar} {rule : EpsilonRule} {sink : Symbol}

theorem Same.symm (same : first.Same second) : second.Same first := by
  obtain ⟨nonTerminals, terminals, productions, start⟩ := same
  exact ⟨nonTerminals.symm, terminals.symm, productions.symm, start.symm⟩

theorem Same.mem_alternatives_iff (same : first.Same second) {left : Symbol} {side : RightSide} :
    side ∈ first.alternatives left ↔ side ∈ second.alternatives left := by
  obtain ⟨_, _, productions, _⟩ := same
  exact productions.mem_values_iff

theorem Same.within (same : first.Same second) : first.Within second where
  start := same.2.2.2
  alternatives _ _ production := same.mem_alternatives_iff.1 production

theorem Same.generates_eq (same : first.Same second) (word : Word) :
    first.generates word = second.generates word := by
  rw [Bool.eq_iff_iff]
  exact ⟨same.within.generates, same.symm.within.generates⟩

theorem Same.regular (same : first.Same second) (regular : second.Regular rule) :
    first.Regular rule := by
  have within := same.within
  obtain ⟨nonTerminals, terminals, _, _⟩ := same
  exact within.regular nonTerminals terminals regular

theorem Same.regular_iff (same : first.Same second) : first.Regular rule ↔ second.Regular rule :=
  ⟨same.symm.regular, same.regular⟩

theorem Same.declares_iff (same : first.Same second) {symbol : Symbol} :
    first.Declares symbol ↔ second.Declares symbol := by
  obtain ⟨nonTerminals, terminals, _, _⟩ := same
  exact or_congr (OrderedSet.same_iff.1 terminals symbol)
    (OrderedSet.same_iff.1 nonTerminals symbol)

/-- Which names are tried depends on the number of declared symbols, and which of them is
free on the symbols. -/
theorem Same.freshName_eq (same : first.Same second) (wanted : Symbol) :
    first.freshName wanted = second.freshName wanted := by
  have tried : first.candidateNames wanted = second.candidateNames wanted := by
    rw [candidateNames, candidateNames, same.1.length_eq, same.2.1.length_eq]
  have free : (fun name => ! decide (first.Declares name)) =
      fun name => ! decide (second.Declares name) := by
    funext name
    rw [decide_eq_decide.2 same.declares_iff]
  rw [freshName, freshName, tried, free]

theorem Same.automatonWithSink (same : first.Same second) (sink : Symbol) :
    (first.automatonWithSink sink).Same (second.automatonWithSink sink) := by
  have alternatives := @same.mem_alternatives_iff
  have targets : ∀ key target,
      target ∈ (first.automatonWithSink sink).transitions.values key ↔
        target ∈ (second.automatonWithSink sink).transitions.values key := by
    rintro ⟨source, letter⟩ target
    change target ∈ (first.automatonWithSink sink).targets source letter ↔
      target ∈ (second.automatonWithSink sink).targets source letter
    simp only [mem_targets_automatonWithSink, alternatives]
  obtain ⟨nonTerminals, terminals, _, start⟩ := same
  refine ⟨nonTerminals.insert sink, terminals, ?_, start, ?_⟩
  · apply Grouping.same_of_members
    · -- No key is without targets, so the targets decide which keys there are.
      intro key
      simp only [Grouping.mem_keys_iff_exists_value filled_transitions_automatonWithSink, targets]
    · exact targets
  · rw [OrderedSet.same_iff]
    intro state
    simp only [mem_finals_automatonWithSink, alternatives, start]

end Grammar

namespace Automaton

variable {first second : Automaton}

theorem Same.symm (same : first.Same second) : second.Same first := by
  obtain ⟨states, alphabet, transitions, initial, finals⟩ := same
  exact ⟨states.symm, alphabet.symm, transitions.symm, initial.symm, finals.symm⟩

theorem Same.mem_targets_iff (same : first.Same second) {source letter target : Symbol} :
    target ∈ first.targets source letter ↔ target ∈ second.targets source letter := by
  obtain ⟨_, _, transitions, _, _⟩ := same
  exact transitions.mem_values_iff

theorem Same.mem_finals_iff (same : first.Same second) {state : Symbol} :
    state ∈ first.finals ↔ state ∈ second.finals := by
  obtain ⟨_, _, _, _, finals⟩ := same
  exact OrderedSet.same_iff.1 finals state

theorem Same.path (same : first.Same second) {source target : Symbol} {word : Word}
    (path : first.Path source word target) : second.Path source word target := by
  induction path with
  | here state => exact .here state
  | step transition _ induction => exact .step (same.mem_targets_iff.1 transition) induction

theorem Same.accepts_of_accepts (same : first.Same second) {word : Word}
    (accepted : first.accepts word = true) : second.accepts word = true := by
  obtain ⟨state, isFinal, path⟩ := accepts_iff_exists_path.1 accepted
  have sameInitial : first.initial = second.initial := same.2.2.2.1
  have again := same.path path
  rw [sameInitial] at again
  exact accepts_iff_exists_path.2 ⟨state, same.mem_finals_iff.1 isFinal, again⟩

theorem Same.accepts_eq (same : first.Same second) (word : Word) :
    first.accepts word = second.accepts word := by
  rw [Bool.eq_iff_iff]
  exact ⟨same.accepts_of_accepts, same.symm.accepts_of_accepts⟩

/-- The symbols that productions are listed for. A source of transitions is one of them
even if these transitions lead nowhere. -/
theorem mem_keys_toGrammar {automaton : Automaton} {left : Symbol} :
    left ∈ automaton.toGrammar.productions.keys ↔
      (left = automaton.initial ∧ automaton.initial ∈ automaton.finals) ∨
        ∃ letter, (left, letter) ∈ automaton.transitions.keys := by
  rw [toGrammar, Grouping.ofList, Grouping.mem_keys_mergeAll]
  constructor
  · rintro (old | ⟨step, listed, rfl⟩)
    · exact absurd old List.not_mem_nil
    · rcases List.mem_append.1 listed with empty | mapped
      · obtain ⟨rfl, isFinal⟩ := mem_epsilonSteps_iff.1 empty
        exact Or.inl ⟨rfl, isFinal⟩
      · obtain ⟨group, inGroups, rfl⟩ := List.mem_map.1 mapped
        exact Or.inr ⟨group.1.2, List.mem_map.2 ⟨group, inGroups, rfl⟩⟩
  · rintro (⟨rfl, isFinal⟩ | ⟨letter, isKey⟩)
    · have listed := mem_epsilonSteps_iff.2 ⟨rfl, isFinal⟩
      exact Or.inr ⟨_, List.mem_append_left _ listed, rfl⟩
    · obtain ⟨group, inGroups, key_eq⟩ := List.mem_map.1 isKey
      have listed : automaton.productionStep group ∈
          automaton.transitions.groups.map automaton.productionStep :=
        List.mem_map.2 ⟨group, inGroups, rfl⟩
      refine Or.inr ⟨_, List.mem_append_right _ listed, ?_⟩
      rw [productionStep, key_eq]

theorem Same.toGrammar (same : first.Same second) : first.toGrammar.Same second.toGrammar := by
  have targets := @same.mem_targets_iff
  have isFinal := @same.mem_finals_iff
  obtain ⟨states, alphabet, transitions, initial, _⟩ := same
  refine ⟨states, alphabet, ?_, initial⟩
  apply Grouping.same_of_members
  · intro left
    simp only [mem_keys_toGrammar, isFinal, initial, transitions.mem_keys_iff]
  · intro left side
    change side ∈ first.toGrammar.alternatives left ↔ side ∈ second.toGrammar.alternatives left
    simp only [mem_alternatives_toGrammar, mem_alternativesFor_iff, targets, isFinal, initial]

end Automaton

theorem Grammar.Same.toAutomaton {first second : Grammar} (same : first.Same second)
    (formed : first.WellFormed) (otherFormed : second.WellFormed) (rule : EpsilonRule)
    (wanted : Symbol) :
    (∃ violation other, first.toAutomaton rule wanted = .error violation ∧
        second.toAutomaton rule wanted = .error other) ∨
      ∃ automaton other, first.toAutomaton rule wanted = .ok automaton ∧
        second.toAutomaton rule wanted = .ok other ∧ automaton.Same other := by
  cases converted : first.toAutomaton rule wanted with
  | error violation =>
      cases again : second.toAutomaton rule wanted with
      | error other => exact Or.inl ⟨violation, other, rfl, rfl⟩
      | ok other =>
          obtain ⟨regular, _⟩ := (toAutomaton_eq_ok_iff otherFormed).1 again
          have accepted := (same.regular regular).toAutomaton_eq formed wanted
          exact nomatch converted.symm.trans accepted
  | ok automaton =>
      obtain ⟨regular, rfl⟩ := (toAutomaton_eq_ok_iff formed).1 converted
      have again := (same.symm.regular regular).toAutomaton_eq otherFormed wanted
      refine Or.inr ⟨_, _, rfl, again, ?_⟩
      rw [same.freshName_eq wanted]
      exact same.automatonWithSink _

/-- Grammars that are the same up to order are classified alike and generate the same
words, and the conversion refuses both or gives automata that are the same up to order.
Automata that are the same up to order accept the same words and give grammars that are
the same up to order. -/
theorem order_unobservable :
    (∀ first second : Grammar, first.WellFormed → second.WellFormed → first.Same second →
        (∀ rule, first.isRegular rule = second.isRegular rule) ∧
          (∀ word, first.generates word = second.generates word) ∧
          ∀ rule wanted,
            (∃ violation other, first.toAutomaton rule wanted = .error violation ∧
                second.toAutomaton rule wanted = .error other) ∨
              ∃ automaton other, first.toAutomaton rule wanted = .ok automaton ∧
                second.toAutomaton rule wanted = .ok other ∧ automaton.Same other) ∧
      ∀ first second : Automaton, first.Same second →
        (∀ word, first.accepts word = second.accepts word) ∧
          first.toGrammar.Same second.toGrammar := by
  constructor
  · intro first second formed otherFormed same
    refine ⟨?_, same.generates_eq, same.toAutomaton formed otherFormed⟩
    intro rule
    rw [Bool.eq_iff_iff, Grammar.isRegular_iff formed, Grammar.isRegular_iff otherFormed]
    exact same.regular_iff
  · intro first second same
    exact ⟨same.accepts_eq, same.toGrammar⟩

/-- The grammar `recurrent` with its symbols, keys and alternatives listed backwards. -/
def reversed : Grammar :=
  .ofLists [⟨"x"⟩, ⟨"S"⟩, ⟨"A"⟩] [⟨"b"⟩, ⟨"a"⟩, ⟨"x"⟩]
    [(⟨"S"⟩, [.epsilon, .symbols [⟨"a"⟩, ⟨"A"⟩]]),
      (⟨"A"⟩, [.symbols [⟨"a"⟩], .symbols [⟨"b"⟩, ⟨"S"⟩]])]
    ⟨"S"⟩

theorem reversed_unobservable :
    Grammar.recurrent.Same reversed ∧ Grammar.recurrent ≠ reversed ∧
      (∀ rule, Grammar.recurrent.isRegular rule = reversed.isRegular rule) ∧
      ∃ automaton other, Grammar.recurrent.toAutomaton .sequential ⟨"A"⟩ = .ok automaton ∧
        reversed.toAutomaton .sequential ⟨"A"⟩ = .ok other ∧ automaton ≠ other ∧
        automaton.toGrammar.Same other.toGrammar := by
  have same : Grammar.recurrent.Same reversed := by decide
  have formed : Grammar.recurrent.WellFormed := Grammar.defect?_eq_none_iff.1 (by decide)
  have otherFormed : reversed.WellFormed := Grammar.defect?_eq_none_iff.1 (by decide)
  have converted : Grammar.recurrent.toAutomaton .sequential ⟨"A"⟩ =
      .ok (Grammar.recurrent.automatonWithSink ⟨"Z"⟩) := by rfl
  have differs : Grammar.recurrent.automatonWithSink ⟨"Z"⟩ ≠ reversed.automatonWithSink ⟨"Z"⟩ := by
    decide
  have otherConverted : reversed.toAutomaton .sequential ⟨"A"⟩ =
      .ok (reversed.automatonWithSink ⟨"Z"⟩) := by rfl
  obtain ⟨verdicts, _, conversions⟩ := order_unobservable.1 _ _ formed otherFormed same
  refine ⟨same, by decide, verdicts, _, _, converted, otherConverted, differs, ?_⟩
  rcases conversions .sequential ⟨"A"⟩ with ⟨_, _, refused, _⟩ | ⟨_, _, first, second, alike⟩
  · exact nomatch converted.symm.trans refused
  · cases converted.symm.trans first
    cases otherConverted.symm.trans second
    exact (order_unobservable.2 _ _ alike).2

end RightLinear
