import RightLinear.Proofs.Conversion.ToAutomaton
import RightLinear.Proofs.Conversion.ToGrammar
import RightLinear.Proofs.Grammar.Within

/-! # The grammar that comes back

A regular grammar is converted to an automaton and back. Every production comes back under
its own non-terminal. A letter that stood alone comes back a second time with the sink behind
it, as that is where its transition leads. A letter with the start behind it comes back a
second time without, if the start produces the empty word and so is final. Nothing else is
added, and the sink itself has no productions.
-/

namespace RightLinear
namespace Grammar

variable {grammar : Grammar} {rule : EpsilonRule} {sink left letter : Symbol} {side : RightSide}

/-- What the automaton gives back. -/
def returnedBy (grammar : Grammar) (sink : Symbol) : Grammar :=
  (grammar.automatonWithSink sink).toGrammar

/-- An alternative that two conversions put beside another one of the same symbol. -/
inductive Added (grammar : Grammar) (sink left : Symbol) : RightSide → Prop
  | toSink {letter : Symbol} (production : .symbols [letter] ∈ grammar.alternatives left) :
      Added grammar sink left (.symbols [letter, sink])
  | fromStart {letter : Symbol}
      (production : .symbols [letter, grammar.start] ∈ grammar.alternatives left)
      (produced : .epsilon ∈ grammar.alternatives grammar.start) :
      Added grammar sink left (.symbols [letter])

/-- The other grammar has all productions of the first, and beside them those that are added
on the way through an automaton with the sink. -/
structure ComesBackAs (grammar : Grammar) (sink : Symbol) (returned : Grammar) : Prop where
  fresh : ¬ grammar.Declares sink
  nonTerminals : returned.nonTerminals.toList = grammar.nonTerminals.toList ++ [sink]
  terminals : returned.terminals = grammar.terminals
  start : returned.start = grammar.start
  kept : ∀ left, ∀ side ∈ grammar.alternatives left, side ∈ returned.alternatives left
  others : ∀ left, ∀ side, ¬ side ∈ grammar.alternatives left →
    (side ∈ returned.alternatives left ↔ grammar.Added sink left side)
  sink_unproductive : ¬ sink ∈ returned.productions.keys

theorem Regular.wellFormed_returnedBy (regular : grammar.Regular rule)
    (formed : grammar.WellFormed) : (grammar.returnedBy sink).WellFormed :=
  Automaton.wellFormed_toGrammar (regular.wellFormed_automatonWithSink formed)

theorem Regular.within_returnedBy (regular : grammar.Regular rule) :
    grammar.Within (grammar.returnedBy sink) where
  start := rfl
  alternatives left side production := by
    rcases regular.eq_symbols_of_production production with rfl | ⟨letter, next, rfl⟩
    · apply Automaton.epsilon_mem_alternatives_toGrammar.2
      have atStart := regular.left_of_epsilon left production
      exact ⟨atStart, mem_finals_automatonWithSink.2 (Or.inr ⟨rfl, atStart ▸ production⟩)⟩
    · have transition : next.getD sink ∈ (grammar.automatonWithSink sink).targets left letter :=
        mem_targets_automatonWithSink.2 ⟨next, production, rfl⟩
      apply Automaton.symbols_mem_alternatives_toGrammar.2
      refine ⟨next.getD sink, transition, ?_⟩
      cases next with
      | none => exact Or.inr ⟨rfl, mem_finals_automatonWithSink.2 (Or.inl rfl)⟩
      | some symbol => exact Or.inl rfl

/-- A letter that stands alone comes back with the sink behind it as well. -/
theorem pair_mem_alternatives_returnedBy
    (production : .symbols [letter] ∈ grammar.alternatives left) :
    .symbols [letter, sink] ∈ (grammar.returnedBy sink).alternatives left := by
  have transition : sink ∈ (grammar.automatonWithSink sink).targets left letter :=
    mem_targets_automatonWithSink.2 ⟨none, production, rfl⟩
  have made : .symbols [letter, sink] ∈
      (grammar.automatonWithSink sink).alternativesFor letter sink :=
    Automaton.mem_alternativesFor_iff.2 (Or.inl rfl)
  exact Automaton.mem_alternatives_toGrammar.2 (Or.inr ⟨letter, sink, transition, made⟩)

/-- A letter before a start that is final comes back alone as well. -/
theorem lone_mem_alternatives_returnedBy
    (production : .symbols [letter, grammar.start] ∈ grammar.alternatives left)
    (produced : .epsilon ∈ grammar.alternatives grammar.start) :
    .symbols [letter] ∈ (grammar.returnedBy sink).alternatives left := by
  have transition : grammar.start ∈ (grammar.automatonWithSink sink).targets left letter :=
    mem_targets_automatonWithSink.2 ⟨some grammar.start, production, rfl⟩
  have isFinal : grammar.start ∈ (grammar.automatonWithSink sink).finals :=
    mem_finals_automatonWithSink.2 (Or.inr ⟨rfl, produced⟩)
  have made : .symbols [letter] ∈
      (grammar.automatonWithSink sink).alternativesFor letter grammar.start :=
    Automaton.mem_alternativesFor_iff.2 (Or.inr ⟨rfl, isFinal⟩)
  exact Automaton.mem_alternatives_toGrammar.2 (Or.inr ⟨letter, _, transition, made⟩)

/-- With a sink of its own, a state is final if it is the sink, or the start where that
produces the empty word. -/
theorem Regular.mem_alternatives_or_added (regular : grammar.Regular rule)
    (formed : grammar.WellFormed) (fresh : ¬ grammar.Declares sink)
    (returned : side ∈ (grammar.returnedBy sink).alternatives left) :
    side ∈ grammar.alternatives left ∨ grammar.Added sink left side := by
  rcases Automaton.mem_alternatives_toGrammar.1 returned with
    ⟨rfl, atStart, isFinal⟩ | ⟨letter, target, transition, made⟩
  · rcases mem_finals_automatonWithSink.1 isFinal with atSink | ⟨_, produced⟩
    · exact absurd (Or.inr (atSink ▸ formed.start_mem)) fresh
    · rw [atStart]
      exact Or.inl produced
  · obtain ⟨next, production, rfl⟩ := mem_targets_automatonWithSink.1 transition
    rcases Automaton.mem_alternativesFor_iff.1 made with rfl | ⟨rfl, isFinal⟩
    · cases next with
      | none => exact Or.inr (.toSink production)
      | some symbol => exact Or.inl production
    · cases next with
      | none => exact Or.inl production
      | some symbol =>
          rcases mem_finals_automatonWithSink.1 isFinal with atSink | ⟨atStart, produced⟩
          · have declared := (regular.isVariable_of_production production symbol rfl).1
            exact absurd (Or.inr (atSink ▸ declared)) fresh
          · cases atStart
            exact Or.inr (.fromStart production produced)

theorem sink_not_mem_keys_returnedBy (formed : grammar.WellFormed) (fresh : ¬ grammar.Declares sink) :
    ¬ sink ∈ (grammar.returnedBy sink).productions.keys := by
  intro isKey
  obtain ⟨group, listed, atSink⟩ := List.mem_map.1 isKey
  rcases Automaton.exists_step_of_mem_groups_toGrammar listed with atStart | ⟨origin, inGroups, same⟩
  · have isStart : sink = grammar.start := atSink.symm.trans atStart
    exact fresh (Or.inr (isStart ▸ formed.start_mem))
  · obtain ⟨next, production⟩ := exists_production_of_mem_transitions inGroups
    have declared := formed.left_mem production
    rw [← same, atSink] at declared
    exact fresh (Or.inr declared)

theorem Regular.comesBackAs_returnedBy (regular : grammar.Regular rule)
    (formed : grammar.WellFormed) (fresh : ¬ grammar.Declares sink) :
    grammar.ComesBackAs sink (grammar.returnedBy sink) where
  fresh := fresh
  nonTerminals := toList_states_automatonWithSink fun declared => fresh (Or.inr declared)
  terminals := rfl
  start := rfl
  kept := regular.within_returnedBy.alternatives
  others := by
    intro left side isNew
    constructor
    · intro returned
      exact (regular.mem_alternatives_or_added formed fresh returned).resolve_left isNew
    · rintro (production | ⟨production, produced⟩)
      · exact pair_mem_alternatives_returnedBy production
      · exact lone_mem_alternatives_returnedBy production produced
  sink_unproductive := sink_not_mem_keys_returnedBy formed fresh

/-- A regular grammar can be converted to an automaton and back, and what has come with it is
known exactly. -/
theorem exists_comesBackAs (formed : grammar.WellFormed) (regular : grammar.isRegular rule = true)
    (wanted : Symbol) :
    ∃ automaton, grammar.toAutomaton rule wanted = .ok automaton ∧
      grammar.ComesBackAs (grammar.freshName wanted) automaton.toGrammar := by
  have isRegular := (isRegular_iff formed).1 regular
  exact ⟨_, isRegular.toAutomaton_eq formed wanted,
    isRegular.comesBackAs_returnedBy formed not_declares_freshName⟩

/-- A start that produces the empty word and is used with two letters, one of which also
stands alone. An unused name is terminal and non-terminal and is wanted for the sink. -/
def revisited : Grammar :=
  .ofLists [⟨"A"⟩, ⟨"S"⟩, ⟨"x"⟩] [⟨"a"⟩, ⟨"b"⟩, ⟨"x"⟩]
    [(⟨"A"⟩, [.symbols [⟨"b"⟩, ⟨"S"⟩], .symbols [⟨"a"⟩, ⟨"A"⟩]]),
      (⟨"S"⟩, [.symbols [⟨"a"⟩, ⟨"S"⟩], .symbols [⟨"a"⟩], .epsilon, .symbols [⟨"b"⟩, ⟨"A"⟩]])]
    ⟨"S"⟩

theorem revisited_comesBackAs :
    revisited.WellFormed ∧ revisited.isRegular .sequential = true ∧
      ∃ automaton, revisited.toAutomaton .sequential ⟨"x"⟩ = .ok automaton ∧
        revisited.ComesBackAs ⟨"Z"⟩ automaton.toGrammar ∧
        .symbols [⟨"b"⟩] ∈ automaton.toGrammar.alternatives ⟨"A"⟩ ∧
        ¬ .symbols [⟨"b"⟩] ∈ revisited.alternatives ⟨"A"⟩ := by
  have formed : revisited.WellFormed := defect?_eq_none_iff.1 (by decide)
  have regular : revisited.isRegular .sequential = true := by decide
  obtain ⟨automaton, converted, back⟩ := exists_comesBackAs formed regular ⟨"x"⟩
  have isNew : ¬ .symbols [⟨"b"⟩] ∈ revisited.alternatives ⟨"A"⟩ := by decide
  have added := (back.others _ _ isNew).2 (.fromStart (by decide) (by decide))
  exact ⟨formed, regular, automaton, converted, back, added, isNew⟩

end Grammar
end RightLinear
