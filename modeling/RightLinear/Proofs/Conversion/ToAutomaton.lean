import RightLinear.Conversion
import RightLinear.Proofs.Automaton.Run
import RightLinear.Proofs.Conversion.FreshName
import RightLinear.Proofs.Grammar.Derivation
import RightLinear.Proofs.Grammar.Regular

/-! # The automaton of a grammar accepts what the grammar generates

The states stand for what can be pending, and the sink for nothing. A thread of
the search in the grammar is a path of the automaton, letter by letter. Where the
grammar is regular and does not use the name of the sink, a thread can end
exactly if the state that stands for its rest is final.
-/

namespace RightLinear
namespace Grammar

variable {grammar : Grammar} {rule : EpsilonRule} {sink : Symbol}

theorem transitionOf?_eq_some_iff {left : Symbol} {side : RightSide}
    {step : (Symbol × Symbol) × List Symbol} :
    transitionOf? sink left side = some step ↔
      ∃ letter, ∃ next : Pending, side = .symbols (letter :: next.toList) ∧
        step = ((left, letter), [next.getD sink]) := by
  constructor
  · intro converted
    match side with
    | .symbols [letter] =>
        cases converted
        exact ⟨letter, none, rfl, rfl⟩
    | .symbols [letter, target] =>
        cases converted
        exact ⟨letter, some target, rfl, rfl⟩
  · rintro ⟨letter, next, rfl, rfl⟩
    cases next <;> rfl

theorem mem_targets_automatonWithSink {source letter target : Symbol} :
    target ∈ (grammar.automatonWithSink sink).targets source letter ↔
      ∃ next : Pending, .symbols (letter :: next.toList) ∈ grammar.alternatives source ∧
        next.getD sink = target := by
  rw [Automaton.targets, automatonWithSink, Grouping.mem_values_ofList]
  constructor
  · rintro ⟨step, listed, key, member⟩
    obtain ⟨⟨left, side⟩, paired, converted⟩ := List.mem_filterMap.1 listed
    obtain ⟨first, next, rfl, rfl⟩ := transitionOf?_eq_some_iff.1 converted
    cases key
    have production := Grouping.mem_pairs.1 paired
    exact ⟨next, production, (List.mem_singleton.1 member).symm⟩
  · rintro ⟨next, production, rfl⟩
    refine ⟨((source, letter), [next.getD sink]), ?_, rfl, List.mem_singleton_self _⟩
    apply List.mem_filterMap.2
    exact ⟨(source, .symbols (letter :: next.toList)), Grouping.mem_pairs.2 production,
      transitionOf?_eq_some_iff.2 ⟨letter, next, rfl, rfl⟩⟩

theorem toList_states_automatonWithSink (free : ¬ sink ∈ grammar.nonTerminals) :
    (grammar.automatonWithSink sink).states.toList = grammar.nonTerminals.toList ++ [sink] := by
  change (grammar.nonTerminals.insert sink).toList = _
  rw [OrderedSet.toList_insert, if_neg free]

theorem mem_finals_automatonWithSink {state : Symbol} :
    state ∈ (grammar.automatonWithSink sink).finals ↔
      state = sink ∨ state = grammar.start ∧ .epsilon ∈ grammar.alternatives grammar.start := by
  rw [automatonWithSink, OrderedSet.mem_ofList, List.mem_cons]
  by_cases produced : .epsilon ∈ grammar.alternatives grammar.start
  · simp [produced]
  · simp [produced]

theorem exists_production_of_mem_transitions {group : (Symbol × Symbol) × OrderedSet Symbol}
    (listed : group ∈ (grammar.automatonWithSink sink).transitions.groups) :
    ∃ next : Pending, .symbols (group.1.2 :: next.toList) ∈ grammar.alternatives group.1.1 := by
  obtain ⟨step, inSteps, key⟩ := Grouping.exists_step_of_mem_groups listed
  obtain ⟨⟨left, side⟩, paired, converted⟩ := List.mem_filterMap.1 inSteps
  obtain ⟨letter, next, rfl, rfl⟩ := transitionOf?_eq_some_iff.1 converted
  rw [← key]
  exact ⟨next, Grouping.mem_pairs.1 paired⟩

theorem filled_transitions_automatonWithSink :
    ∀ group ∈ (grammar.automatonWithSink sink).transitions.groups, group.2.toList ≠ [] := by
  intro group
  apply Grouping.toList_ne_nil_of_mem_groups_ofList
  intro step listed
  obtain ⟨production, _, converted⟩ := List.mem_filterMap.1 listed
  obtain ⟨letter, next, _, rfl⟩ := transitionOf?_eq_some_iff.1 converted
  exact List.cons_ne_nil _ _

theorem Regular.wellFormed_automatonWithSink (regular : grammar.Regular rule)
    (formed : grammar.WellFormed) : (grammar.automatonWithSink sink).WellFormed where
  initial_mem := OrderedSet.mem_insert.2 (Or.inl formed.start_mem)
  finals_mem := by
    intro state isFinal
    rcases mem_finals_automatonWithSink.1 isFinal with atSink | ⟨atStart, _⟩
    · exact OrderedSet.mem_insert.2 (Or.inr atSink)
    · exact OrderedSet.mem_insert.2 (Or.inl (atStart ▸ formed.start_mem))
  sources_mem := by
    intro group listed
    obtain ⟨next, production⟩ := exists_production_of_mem_transitions listed
    exact OrderedSet.mem_insert.2 (Or.inl (formed.left_mem production))
  letters_mem := by
    intro group listed
    obtain ⟨next, production⟩ := exists_production_of_mem_transitions listed
    exact (regular.isLetter_of_production production).1
  targets_mem := by
    intro group listed target member
    obtain ⟨next, production, rfl⟩ := mem_targets_automatonWithSink.1
      (Automaton.mem_targets_of_mem_group listed member)
    apply OrderedSet.mem_insert.2
    cases next with
    | none => exact Or.inr rfl
    | some symbol => exact Or.inl (regular.isVariable_of_production production symbol rfl).1

/-- The paths are the threads of the search. -/
theorem path_automatonWithSink_iff (free : ¬ sink ∈ grammar.nonTerminals)
    (formed : grammar.WellFormed) {pending : Pending} {word : Word} {state : Symbol} :
    (grammar.automatonWithSink sink).Path (pending.getD sink) word state ↔
      ∃ rest, grammar.Produces pending word rest ∧ rest.getD sink = state := by
  induction word generalizing pending with
  | nil => simp [Automaton.path_nil_iff, produces_nil_iff]
  | cons letter word induction =>
      simp only [Automaton.path_cons_iff, mem_targets_automatonWithSink]
      cases pending with
      | none =>
          -- No transition leaves the sink, as the grammar does not replace it.
          constructor
          · rintro ⟨_, ⟨next, production, _⟩, _⟩
            exact absurd (formed.left_mem production) free
          · rintro ⟨rest, run, _⟩
            exact absurd run not_produces_none_cons
      | some left =>
          constructor
          · rintro ⟨_, ⟨next, production, rfl⟩, path⟩
            obtain ⟨rest, run, rest_eq⟩ := induction.1 path
            exact ⟨rest, .step production run, rest_eq⟩
          · rintro ⟨rest, run, rest_eq⟩
            obtain ⟨next, production, later⟩ := produces_cons_iff.1 run
            exact ⟨next.getD sink, ⟨next, production, rfl⟩, induction.2 ⟨rest, later, rest_eq⟩⟩

theorem Regular.mem_nonTerminals_of_produces (regular : grammar.Regular rule)
    {pending rest : Pending} {word : Word} (run : grammar.Produces pending word rest)
    (declared : ∀ symbol ∈ pending, symbol ∈ grammar.nonTerminals) :
    ∀ symbol ∈ rest, symbol ∈ grammar.nonTerminals := by
  induction run with
  | here pending => exact declared
  | @step left letter next rest word production _ induction =>
      apply induction
      intro symbol waits
      exact (regular.isVariable_of_production production symbol waits).1

theorem Regular.mem_finals_iff_ends (regular : grammar.Regular rule)
    (free : ¬ sink ∈ grammar.nonTerminals) {rest : Pending}
    (declared : ∀ symbol ∈ rest, symbol ∈ grammar.nonTerminals) :
    rest.getD sink ∈ (grammar.automatonWithSink sink).finals ↔ grammar.ends rest = true := by
  rw [mem_finals_automatonWithSink]
  cases rest with
  | none => simp [ends]
  | some symbol =>
      have apart : symbol ≠ sink := fun same => free (same ▸ declared symbol rfl)
      simp only [Option.getD_some, apart, false_or, ends, decide_eq_true_eq]
      constructor
      · rintro ⟨rfl, production⟩
        exact production
      · intro production
        have atStart := regular.left_of_epsilon symbol production
        exact ⟨atStart, atStart ▸ production⟩

/-- With an unused name for the sink, the language stays. -/
theorem Regular.accepts_automatonWithSink (regular : grammar.Regular rule)
    (formed : grammar.WellFormed) (free : ¬ sink ∈ grammar.nonTerminals) (word : Word) :
    (grammar.automatonWithSink sink).accepts word = grammar.generates word := by
  have startDeclared : ∀ symbol ∈ some grammar.start, symbol ∈ grammar.nonTerminals := by
    intro symbol waits
    cases waits
    exact formed.start_mem
  rw [Bool.eq_iff_iff, Automaton.accepts_iff_exists_path, generates_iff_exists_produces]
  constructor
  · rintro ⟨state, isFinal, path⟩
    have fromStart : (grammar.automatonWithSink sink).Path
        ((some grammar.start).getD sink) word state := path
    obtain ⟨rest, run, rfl⟩ := (path_automatonWithSink_iff free formed).1 fromStart
    have declared := regular.mem_nonTerminals_of_produces run startDeclared
    exact ⟨rest, run, (regular.mem_finals_iff_ends free declared).1 isFinal⟩
  · rintro ⟨rest, run, ending⟩
    have declared := regular.mem_nonTerminals_of_produces run startDeclared
    exact ⟨rest.getD sink, (regular.mem_finals_iff_ends free declared).2 ending,
      (path_automatonWithSink_iff free formed).2 ⟨rest, run, rfl⟩⟩

theorem toAutomaton_eq_ok_iff (formed : grammar.WellFormed) {wanted : Symbol}
    {automaton : Automaton} :
    grammar.toAutomaton rule wanted = .ok automaton ↔
      grammar.Regular rule ∧ grammar.automatonWithSink (grammar.freshName wanted) = automaton := by
  rw [← violation?_eq_none_iff formed, toAutomaton]
  split
  · next found => simp [found]
  · next passed => simp [passed]

theorem Regular.toAutomaton_eq (regular : grammar.Regular rule) (formed : grammar.WellFormed)
    (wanted : Symbol) :
    grammar.toAutomaton rule wanted =
      .ok (grammar.automatonWithSink (grammar.freshName wanted)) :=
  (toAutomaton_eq_ok_iff formed).2 ⟨regular, rfl⟩

/-- The automaton that a grammar is converted to accepts exactly the words that
the grammar generates. -/
theorem accepts_of_toAutomaton (formed : grammar.WellFormed) {wanted : Symbol}
    {automaton : Automaton} (converted : grammar.toAutomaton rule wanted = .ok automaton)
    (word : Word) : automaton.accepts word = grammar.generates word := by
  obtain ⟨regular, rfl⟩ := (toAutomaton_eq_ok_iff formed).1 converted
  have free : ¬ grammar.freshName wanted ∈ grammar.nonTerminals :=
    fun declared => not_declares_freshName (Or.inr declared)
  exact regular.accepts_automatonWithSink formed free word

/-- A grammar whose unused names are terminal and non-terminal, with the wanted name
for the sink among them. -/
def overlapping : Grammar :=
  .ofLists [⟨"S"⟩, ⟨"K"⟩, ⟨"b"⟩, ⟨"A"⟩] [⟨"a"⟩, ⟨"K"⟩, ⟨"c"⟩, ⟨"b"⟩]
    [(⟨"S"⟩, [.symbols [⟨"a"⟩, ⟨"A"⟩], .epsilon, .symbols [⟨"c"⟩]]),
      (⟨"A"⟩, [.symbols [⟨"a"⟩, ⟨"S"⟩], .symbols [⟨"a"⟩]]), (⟨"b"⟩, [.symbols [⟨"c"⟩]])]
    ⟨"S"⟩

theorem overlapping_accepts_aac :
    overlapping.WellFormed ∧
      overlapping.toAutomaton .sequential ⟨"K"⟩ = .ok (overlapping.automatonWithSink ⟨"Z"⟩) ∧
      (overlapping.automatonWithSink ⟨"Z"⟩).accepts (Word.ofText "aac") =
        overlapping.generates (Word.ofText "aac") := by
  have formed : overlapping.WellFormed := defect?_eq_none_iff.1 (by decide)
  have converted : overlapping.toAutomaton .sequential ⟨"K"⟩ =
      .ok (overlapping.automatonWithSink ⟨"Z"⟩) := by rfl
  exact ⟨formed, converted, accepts_of_toAutomaton formed converted _⟩

end Grammar
end RightLinear
