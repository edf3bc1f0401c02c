import RightLinear.Proofs.Order
import RightLinear.Proofs.Regrouping

/-! # From productions to transitions

The conversion goes through the productions one by one. The empty word of the start makes
the start final, a letter alone leads to the sink, a letter and a symbol lead to that
symbol; anything else would be passed over. In a regular grammar nothing is passed over, and
as the sink has a name of its own, each transition tells the production it comes from. So
the automaton determines the alternatives of its grammar.
-/

namespace RightLinear
namespace Grammar

/-- What a production adds to the automaton. -/
inductive Contribution
  | emptyWord
  | transition (source letter target : Symbol)
  | nothing
  deriving DecidableEq

def contribution (grammar : Grammar) (sink left : Symbol) : RightSide → Contribution
  | .epsilon => if left = grammar.start then .emptyWord else .nothing
  | .symbols [letter] => .transition left letter sink
  | .symbols [letter, target] => .transition left letter target
  | .symbols _ => .nothing

/-- The transitions found so far, and whether the start has produced the empty word. -/
@[ext] structure Gathered where
  transitions : Grouping (Symbol × Symbol) Symbol
  emptyWord : Bool

def Gathered.add (gathered : Gathered) : Contribution → Gathered
  | .emptyWord => { gathered with emptyWord := true }
  | .transition source letter target =>
      { gathered with transitions := gathered.transitions.merge (source, letter) [target] }
  | .nothing => gathered

/-- Adds what some productions contribute, one after the other. -/
def gather (grammar : Grammar) (sink : Symbol) (gathered : Gathered)
    (productions : List (Symbol × RightSide)) : Gathered :=
  productions.foldl
    (fun gathered production =>
      gathered.add (grammar.contribution sink production.1 production.2))
    gathered

section Gathering

variable {grammar : Grammar} {sink : Symbol}

theorem transitions_add_contribution (gathered : Gathered) (left : Symbol) (side : RightSide) :
    (gathered.add (grammar.contribution sink left side)).transitions =
      gathered.transitions.mergeAll (transitionOf? sink left side).toList := by
  match side with
  | .epsilon =>
      rw [contribution]
      split <;> rfl
  | .symbols [] => rfl
  | .symbols [letter] => rfl
  | .symbols [letter, target] => rfl
  | .symbols (_ :: _ :: _ :: _) => rfl

theorem emptyWord_add_contribution (gathered : Gathered) (left : Symbol) (side : RightSide) :
    (gathered.add (grammar.contribution sink left side)).emptyWord = true ↔
      gathered.emptyWord = true ∨ (left, side) = (grammar.start, .epsilon) := by
  match side with
  | .epsilon =>
      by_cases atStart : left = grammar.start
      · simp [contribution, atStart, Gathered.add]
      · simp [contribution, atStart, Gathered.add]
  | .symbols [] => simp [contribution, Gathered.add]
  | .symbols [letter] => simp [contribution, Gathered.add]
  | .symbols [letter, target] => simp [contribution, Gathered.add]
  | .symbols (_ :: _ :: _ :: _) => simp [contribution, Gathered.add]

theorem transitions_gather (gathered : Gathered) (productions : List (Symbol × RightSide)) :
    (grammar.gather sink gathered productions).transitions =
      gathered.transitions.mergeAll
        (productions.filterMap fun production => transitionOf? sink production.1 production.2) := by
  induction productions generalizing gathered with
  | nil => rfl
  | cons production productions induction =>
      change (grammar.gather sink
        (gathered.add (grammar.contribution sink production.1 production.2))
        productions).transitions = _
      rw [induction, transitions_add_contribution, List.filterMap_cons]
      cases transitionOf? sink production.1 production.2 with
      | none => rfl
      | some step => rfl

theorem emptyWord_gather (gathered : Gathered) (productions : List (Symbol × RightSide)) :
    (grammar.gather sink gathered productions).emptyWord = true ↔
      gathered.emptyWord = true ∨ (grammar.start, .epsilon) ∈ productions := by
  induction productions generalizing gathered with
  | nil => simp [gather]
  | cons production productions induction =>
      change (grammar.gather sink
        (gathered.add (grammar.contribution sink production.1 production.2))
        productions).emptyWord = true ↔ _
      rw [induction, emptyWord_add_contribution, List.mem_cons, or_assoc,
        eq_comm (a := (production.1, production.2))]

/-- Going through all productions finds the transitions of the automaton, and whether its
initial state is to be final. -/
theorem gather_pairs_eq :
    grammar.gather sink ⟨∅, false⟩ grammar.productions.pairs =
      ⟨(grammar.automatonWithSink sink).transitions,
        decide (.epsilon ∈ grammar.alternatives grammar.start)⟩ := by
  apply Gathered.ext
  · exact transitions_gather _ _
  · rw [Bool.eq_iff_iff, emptyWord_gather, Grouping.mem_pairs, decide_eq_true_eq]
    simp [alternatives]

end Gathering

variable {grammar first second : Grammar} {rule otherRule : EpsilonRule} {sink other : Symbol}

theorem Regular.contribution_ne_nothing (regular : grammar.Regular rule) {left : Symbol}
    {side : RightSide} (production : side ∈ grammar.alternatives left) :
    grammar.contribution sink left side ≠ .nothing := by
  rcases regular.eq_symbols_of_production production with rfl | ⟨letter, next, rfl⟩
  · simp [contribution, regular.left_of_epsilon left production]
  · cases next with
    | none => simp [contribution]
    | some symbol => simp [contribution]

/-- The automaton holds what the productions of the grammar say, and nothing else. The sink
has a name that the grammar does not use. -/
structure Expresses (grammar : Grammar) (sink : Symbol) (automaton : Automaton) : Prop where
  fresh : ¬ grammar.Declares sink
  states : automaton.states.toList = grammar.nonTerminals.toList ++ [sink]
  alphabet : automaton.alphabet = grammar.terminals
  initial : automaton.initial = grammar.start
  finals : automaton.finals.toList =
    sink :: if .epsilon ∈ grammar.alternatives grammar.start then [grammar.start] else []
  targets : ∀ source letter target, target ∈ automaton.targets source letter ↔
    .symbols [letter, target] ∈ grammar.alternatives source ∨
      target = sink ∧ .symbols [letter] ∈ grammar.alternatives source
  filled : ∀ group ∈ automaton.transitions.groups, group.2.toList ≠ []
  none_from_sink : ∀ group ∈ automaton.transitions.groups, group.1.1 ≠ sink
  gathered : grammar.gather sink ⟨∅, false⟩ grammar.productions.pairs =
    ⟨automaton.transitions, decide (.epsilon ∈ grammar.alternatives grammar.start)⟩
  nothing_passed : ∀ left, ∀ side ∈ grammar.alternatives left,
    grammar.contribution sink left side ≠ .nothing

theorem toList_finals_automatonWithSink (apart : grammar.start ≠ sink) :
    (grammar.automatonWithSink sink).finals.toList =
      sink :: if .epsilon ∈ grammar.alternatives grammar.start then [grammar.start] else [] := by
  apply OrderedSet.toList_insertAll_of_nodup
  split
  · simpa using apart.symm
  · simp

theorem Regular.expresses (regular : grammar.Regular rule) (formed : grammar.WellFormed)
    (fresh : ¬ grammar.Declares sink) :
    grammar.Expresses sink (grammar.automatonWithSink sink) where
  fresh := fresh
  states := toList_states_automatonWithSink fun declared => fresh (Or.inr declared)
  alphabet := rfl
  initial := rfl
  finals := by
    apply toList_finals_automatonWithSink
    intro same
    exact fresh (Or.inr (same ▸ formed.start_mem))
  targets := by
    intro source letter target
    rw [mem_targets_automatonWithSink]
    constructor
    · rintro ⟨next, production, rfl⟩
      cases next with
      | none => exact Or.inr ⟨rfl, production⟩
      | some symbol => exact Or.inl production
    · rintro (pair | ⟨rfl, lone⟩)
      · exact ⟨some target, pair, rfl⟩
      · exact ⟨none, lone, rfl⟩
  filled := filled_transitions_automatonWithSink
  none_from_sink := by
    intro group listed atSink
    obtain ⟨next, production⟩ := exists_production_of_mem_transitions listed
    exact fresh (Or.inr (atSink ▸ formed.left_mem production))
  gathered := gather_pairs_eq
  nothing_passed _ _ production := regular.contribution_ne_nothing production

/-- Where the sink is no non-terminal, a state tells what is pending. -/
theorem eq_of_getD_eq (free : ¬ sink ∈ grammar.nonTerminals) {pending rest : Pending}
    (declared : ∀ symbol ∈ pending, symbol ∈ grammar.nonTerminals)
    (restDeclared : ∀ symbol ∈ rest, symbol ∈ grammar.nonTerminals)
    (same : pending.getD sink = rest.getD sink) : pending = rest := by
  cases pending with
  | none =>
      cases rest with
      | none => rfl
      | some symbol =>
          have atSink : sink = symbol := same
          exact absurd (restDeclared symbol rfl) (atSink ▸ free)
  | some symbol =>
      cases rest with
      | none =>
          have atSink : symbol = sink := same
          exact absurd (atSink ▸ declared symbol rfl) free
      | some other => exact congrArg some same

/-- A grammar can be read back from its automaton: another regular grammar with the same
automaton has all its alternatives. -/
theorem Regular.mem_alternatives_of_same (regular : first.Regular rule)
    (otherRegular : second.Regular otherRule) (formed : first.WellFormed)
    (nonTerminals : first.nonTerminals.Same second.nonTerminals)
    (free : ¬ sink ∈ first.nonTerminals)
    (same : (first.automatonWithSink sink).Same (second.automatonWithSink sink))
    {left : Symbol} {side : RightSide} (production : side ∈ first.alternatives left) :
    side ∈ second.alternatives left := by
  rcases regular.eq_symbols_of_production production with rfl | ⟨letter, next, rfl⟩
  · -- The empty word stands at the start and shows in the final states.
    have atStart := regular.left_of_epsilon left production
    have isFinal : left ∈ (first.automatonWithSink sink).finals :=
      mem_finals_automatonWithSink.2 (Or.inr ⟨atStart, atStart ▸ production⟩)
    rcases mem_finals_automatonWithSink.1 (same.mem_finals_iff.1 isFinal) with
      atSink | ⟨otherStart, produced⟩
    · exact absurd (atSink ▸ formed.left_mem production) free
    · exact otherStart ▸ produced
  · have transition : next.getD sink ∈ (first.automatonWithSink sink).targets left letter :=
      mem_targets_automatonWithSink.2 ⟨next, production, rfl⟩
    obtain ⟨rest, otherProduction, target_eq⟩ :=
      mem_targets_automatonWithSink.1 (same.mem_targets_iff.1 transition)
    have rest_eq : rest = next := by
      apply eq_of_getD_eq free _ _ target_eq
      · intro symbol waits
        have isVariable := otherRegular.isVariable_of_production otherProduction symbol waits
        exact (OrderedSet.same_iff.1 nonTerminals symbol).2 isVariable.1
      · intro symbol waits
        exact (regular.isVariable_of_production production symbol waits).1
    exact rest_eq ▸ otherProduction

/-- The sink is the state that is no non-terminal. -/
theorem sink_eq_of_same_states (nonTerminals : first.nonTerminals.Same second.nonTerminals)
    (free : ¬ sink ∈ first.nonTerminals)
    (states : (first.automatonWithSink sink).states.Same (second.automatonWithSink other).states) :
    sink = other := by
  have isState : sink ∈ (first.automatonWithSink sink).states :=
    OrderedSet.mem_insert.2 (Or.inr rfl)
  rcases OrderedSet.mem_insert.1 ((OrderedSet.same_iff.1 states sink).1 isState) with
    declared | same
  · exact absurd ((OrderedSet.same_iff.1 nonTerminals sink).2 declared) free
  · exact same

/-- Two regular grammars over the same non-terminals that have the same automaton have the
same alternatives. -/
theorem Regular.same_alternatives_of_same (regular : first.Regular rule)
    (otherRegular : second.Regular otherRule) (formed : first.WellFormed)
    (otherFormed : second.WellFormed) (nonTerminals : first.nonTerminals.Same second.nonTerminals)
    (free : ¬ sink ∈ first.nonTerminals)
    (same : (first.automatonWithSink sink).Same (second.automatonWithSink other)) (left : Symbol) :
    (first.alternatives left).Same (second.alternatives left) := by
  obtain rfl := sink_eq_of_same_states nonTerminals free same.1
  have otherFree : ¬ sink ∈ second.nonTerminals :=
    fun declared => free ((OrderedSet.same_iff.1 nonTerminals sink).2 declared)
  rw [OrderedSet.same_iff]
  intro side
  constructor
  · exact regular.mem_alternatives_of_same otherRegular formed nonTerminals free same
  · exact otherRegular.mem_alternatives_of_same regular otherFormed nonTerminals.symm otherFree
      same.symm

/-- The conversion of a regular grammar neither loses nor invents anything: the automaton
holds what the productions say, and over the same non-terminals different alternatives give
different automata. A grammar that is not regular is refused with the violation found in it. -/
theorem toAutomaton_exact :
    (∀ (grammar : Grammar) (rule : EpsilonRule) (wanted : Symbol), grammar.WellFormed →
        grammar.isRegular rule = true →
        ∃ automaton, grammar.toAutomaton rule wanted = .ok automaton ∧
          grammar.Expresses (grammar.freshName wanted) automaton) ∧
      (∀ (first second : Grammar) (rule otherRule : EpsilonRule) (wanted otherWanted : Symbol)
          (automaton other : Automaton), first.WellFormed → second.WellFormed →
        first.toAutomaton rule wanted = .ok automaton →
        second.toAutomaton otherRule otherWanted = .ok other →
        first.nonTerminals.Same second.nonTerminals →
        (∃ left, ¬ (first.alternatives left).Same (second.alternatives left)) →
        ¬ automaton.Same other) ∧
      ∀ (grammar : Grammar) (rule : EpsilonRule) (wanted : Symbol),
        grammar.isRegular rule = false →
        ∃ violation, grammar.violation? rule = some violation ∧
          grammar.toAutomaton rule wanted = .error violation := by
  refine ⟨?_, ?_, ?_⟩
  · intro grammar rule wanted formed isRegular
    have regular := (isRegular_iff formed).1 isRegular
    exact ⟨_, regular.toAutomaton_eq formed wanted, regular.expresses formed not_declares_freshName⟩
  · intro first second rule otherRule wanted otherWanted automaton other formed otherFormed
      converted otherConverted nonTerminals
    rintro ⟨left, differ⟩ same
    obtain ⟨regular, rfl⟩ := (toAutomaton_eq_ok_iff formed).1 converted
    obtain ⟨otherRegular, rfl⟩ := (toAutomaton_eq_ok_iff otherFormed).1 otherConverted
    exact differ (regular.same_alternatives_of_same otherRegular formed otherFormed nonTerminals
      freshName_not_mem_nonTerminals same left)
  · intro grammar rule wanted irregular
    rw [isRegular, Option.isNone_eq_false_iff, Option.isSome_iff_exists] at irregular
    obtain ⟨violation, found⟩ := irregular
    refine ⟨violation, found, ?_⟩
    rw [toAutomaton, found]

/-- A start with three productions for one letter that also produces the empty word, and a
non-terminal with the name that is wanted for the sink. -/
def branching : Grammar :=
  .ofLists [⟨"S"⟩, ⟨"K"⟩] [⟨"a"⟩, ⟨"b"⟩]
    [(⟨"S"⟩, [.symbols [⟨"a"⟩, ⟨"S"⟩], .symbols [⟨"a"⟩, ⟨"K"⟩], .epsilon, .symbols [⟨"a"⟩]]),
      (⟨"K"⟩, [.symbols [⟨"b"⟩]])]
    ⟨"S"⟩

/-- The grammar `branching` without the productions of its second non-terminal. -/
def pruned : Grammar :=
  .ofLists [⟨"S"⟩, ⟨"K"⟩] [⟨"a"⟩, ⟨"b"⟩]
    [(⟨"S"⟩, [.symbols [⟨"a"⟩, ⟨"S"⟩], .symbols [⟨"a"⟩, ⟨"K"⟩], .epsilon, .symbols [⟨"a"⟩]])]
    ⟨"S"⟩

theorem branching_toAutomaton :
    branching.WellFormed ∧ branching.isRegular .sequential = true ∧ pruned.WellFormed ∧
      (∃ automaton other, branching.toAutomaton .sequential ⟨"K"⟩ = .ok automaton ∧
        branching.Expresses ⟨"Z"⟩ automaton ∧
        pruned.toAutomaton .sequential ⟨"K"⟩ = .ok other ∧ ¬ automaton.Same other) ∧
      branching.isRegular .strict = false ∧
      ∃ violation, branching.violation? .strict = some violation ∧
        branching.toAutomaton .strict ⟨"K"⟩ = .error violation := by
  have formed : branching.WellFormed := defect?_eq_none_iff.1 (by decide)
  have prunedFormed : pruned.WellFormed := defect?_eq_none_iff.1 (by decide)
  have regular : branching.isRegular .sequential = true := by decide
  have irregular : branching.isRegular .strict = false := by decide
  have converted : pruned.toAutomaton .sequential ⟨"K"⟩ = .ok (pruned.automatonWithSink ⟨"Z"⟩) := by
    rfl
  obtain ⟨exact, determined, refused⟩ := toAutomaton_exact
  obtain ⟨automaton, found, expresses⟩ := exact branching .sequential ⟨"K"⟩ formed regular
  have apart := determined branching pruned .sequential .sequential ⟨"K"⟩ ⟨"K"⟩ _ _ formed
    prunedFormed found converted (by decide) ⟨⟨"K"⟩, by decide⟩
  exact ⟨formed, regular, prunedFormed, ⟨automaton, _, found, expresses, converted, apart⟩,
    irregular, refused branching .strict ⟨"K"⟩ irregular⟩

end Grammar
end RightLinear
