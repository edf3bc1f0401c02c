import RightLinear.Proofs.Conversion.ToAutomaton
import RightLinear.Proofs.Conversion.ToGrammar

/-! # Conversion there and back

A grammar that is converted to an automaton and back is regular again under the
same rule, and has one non-terminal more, the sink. So the next round finds what
the first one found, and a chain of rounds never stops: it keeps the language,
the terminals and the start, and each round brings one new name.
-/

namespace RightLinear
namespace Grammar

/-- What a round of conversions gives: an automaton, and the grammar of it. -/
structure Round where
  automaton : Automaton
  grammar : Grammar

/-- Converts a grammar to an automaton and back, once for each wanted sink, and goes
on with the grammar that has come back. A refusal ends the chain. -/
def rounds (rule : EpsilonRule) : Grammar → List Symbol → Except Violation (List Round)
  | _, [] => .ok []
  | grammar, wanted :: others => do
      let automaton ← grammar.toAutomaton rule wanted
      let later ← rounds rule automaton.toGrammar others
      return ⟨automaton, automaton.toGrammar⟩ :: later

/-- What a round keeps of a grammar, when it stands at the end of rounds that have
brought some sinks. -/
structure Round.Keeps (round : Round) (grammar : Grammar) (rule : EpsilonRule)
    (sinks : List Symbol) : Prop where
  isRegular : round.grammar.isRegular rule = true
  accepts : ∀ word, round.automaton.accepts word = grammar.generates word
  generates : ∀ word, round.grammar.generates word = grammar.generates word
  alphabet : round.automaton.alphabet = grammar.terminals
  terminals : round.grammar.terminals = grammar.terminals
  initial : round.automaton.initial = grammar.start
  start : round.grammar.start = grammar.start
  nonTerminals : round.grammar.nonTerminals.toList = grammar.nonTerminals.toList ++ sinks

variable {grammar : Grammar} {rule : EpsilonRule} {sink : Symbol}

theorem Round.Keeps.trans {first later : Round} {firstSinks laterSinks : List Symbol}
    (second : later.Keeps first.grammar rule laterSinks)
    (kept : first.Keeps grammar rule firstSinks) :
    later.Keeps grammar rule (firstSinks ++ laterSinks) where
  isRegular := second.isRegular
  accepts word := (second.accepts word).trans (kept.generates word)
  generates word := (second.generates word).trans (kept.generates word)
  alphabet := second.alphabet.trans kept.terminals
  terminals := second.terminals.trans kept.terminals
  initial := second.initial.trans kept.start
  start := second.start.trans kept.start
  nonTerminals := by
    rw [second.nonTerminals, kept.nonTerminals, List.append_assoc]

/-- An undeclared sink keeps letters and variables apart, so the grammar that comes
back is regular. -/
theorem Regular.regular_toGrammar (regular : grammar.Regular rule) (formed : grammar.WellFormed)
    (free : ¬ grammar.Declares sink) :
    (grammar.automatonWithSink sink).toGrammar.Regular rule := by
  apply Automaton.regular_toGrammar (regular.wellFormed_automatonWithSink formed)
  · intro source letter target transition
    obtain ⟨next, production, rfl⟩ := mem_targets_automatonWithSink.1 transition
    obtain ⟨isTerminal, notDeclared⟩ := regular.isLetter_of_production production
    constructor
    · intro isState
      rcases OrderedSet.mem_insert.1 isState with isNonTerminal | isSink
      · exact notDeclared isNonTerminal
      · exact free (Or.inl (isSink ▸ isTerminal))
    · cases next with
      | none => exact fun isLetter => free (Or.inl isLetter)
      | some symbol => exact (regular.isVariable_of_production production symbol rfl).2
  · intro strict isFinal source letter transition
    have startApart : grammar.start ≠ sink := fun same => free (Or.inr (same ▸ formed.start_mem))
    rcases mem_finals_automatonWithSink.1 isFinal with atSink | ⟨_, produced⟩
    · exact startApart atSink
    · obtain ⟨next, production, target_eq⟩ := mem_targets_automatonWithSink.1 transition
      have unused := regular.start_unused strict produced source _ production
      cases next with
      | none => exact startApart target_eq.symm
      | some symbol =>
          cases target_eq
          exact unused (by simp)

theorem Regular.round_keeps (regular : grammar.Regular rule) (formed : grammar.WellFormed)
    (free : ¬ grammar.Declares sink) :
    Round.Keeps ⟨grammar.automatonWithSink sink, (grammar.automatonWithSink sink).toGrammar⟩
      grammar rule [sink] := by
  have isNew : ¬ sink ∈ grammar.nonTerminals := fun declared => free (Or.inr declared)
  have automatonFormed : (grammar.automatonWithSink sink).WellFormed :=
    regular.wellFormed_automatonWithSink formed
  have returnedFormed := Automaton.wellFormed_toGrammar automatonFormed
  have accepted := regular.accepts_automatonWithSink formed isNew
  exact {
    isRegular := (isRegular_iff returnedFormed).2 (regular.regular_toGrammar formed free)
    accepts := accepted
    generates := by
      intro word
      rw [← accepted, Bool.eq_iff_iff, Automaton.generates_toGrammar_iff_exists_path,
        Automaton.accepts_iff_exists_path]
    alphabet := rfl
    terminals := rfl
    initial := rfl
    start := rfl
    nonTerminals := toList_states_automatonWithSink isNew }

theorem Round.Keeps.declares_iff {round : Round} {sinks : List Symbol} {symbol : Symbol}
    (kept : round.Keeps grammar rule sinks) :
    round.grammar.Declares symbol ↔ grammar.Declares symbol ∨ symbol ∈ sinks := by
  have members : symbol ∈ round.grammar.nonTerminals ↔
      symbol ∈ grammar.nonTerminals ∨ symbol ∈ sinks := by
    rw [← OrderedSet.mem_toList, kept.nonTerminals, List.mem_append]
    rfl
  rw [Declares, Declares, kept.terminals, members, or_assoc]

/-- A chain that has run to its end: a result and a new name for each wanted sink,
where every result keeps the grammar up to the names that have come so far. -/
structure KeptRounds (grammar : Grammar) (rule : EpsilonRule) (wanted : List Symbol)
    (results : List Round) (sinks : List Symbol) : Prop where
  ran : rounds rule grammar wanted = .ok results
  results_length : results.length = wanted.length
  sinks_length : sinks.length = wanted.length
  distinct : sinks.Nodup
  undeclared : ∀ sink ∈ sinks, ¬ sink ∈ grammar.terminals ∧ ¬ sink ∈ grammar.nonTerminals
  keeps : ∀ (index : Nat) (round : Round), results[index]? = some round →
    round.Keeps grammar rule (sinks.take (index + 1))

theorem KeptRounds.cons {wanted : Symbol} {others sinks : List Symbol} {first : Round}
    {results : List Round} (converted : grammar.toAutomaton rule wanted = .ok first.automaton)
    (returned : first.automaton.toGrammar = first.grammar) (free : ¬ grammar.Declares sink)
    (kept : first.Keeps grammar rule [sink])
    (later : KeptRounds first.grammar rule others results sinks) :
    KeptRounds grammar rule (wanted :: others) (first :: results) (sink :: sinks) where
  ran := by
    rw [rounds, converted]
    change (do
      let later ← rounds rule first.automaton.toGrammar others
      return Round.mk first.automaton first.automaton.toGrammar :: later) = _
    rw [returned, later.ran]
    rfl
  results_length := by rw [List.length_cons, List.length_cons, later.results_length]
  sinks_length := by rw [List.length_cons, List.length_cons, later.sinks_length]
  distinct := by
    rw [List.nodup_cons]
    refine ⟨?_, later.distinct⟩
    intro again
    have declared : first.grammar.Declares sink :=
      kept.declares_iff.2 (Or.inr (List.mem_singleton_self sink))
    obtain ⟨noTerminal, noNonTerminal⟩ := later.undeclared sink again
    exact declared.elim noTerminal noNonTerminal
  undeclared := by
    intro name listed
    rcases List.mem_cons.1 listed with same | among
    · rw [same]
      exact not_or.1 free
    · apply not_or.1
      intro declared
      obtain ⟨noTerminal, noNonTerminal⟩ := later.undeclared name among
      exact (kept.declares_iff.2 (Or.inl declared)).elim noTerminal noNonTerminal
  keeps := by
    intro index round found
    cases index with
    | zero =>
        cases found
        exact kept
    | succ index =>
        have laterKept := later.keeps index round found
        exact laterKept.trans kept

/-- From a regular grammar every chain of rounds runs to its end, and all its results
keep the grammar up to one new name a round. -/
theorem exists_keptRounds (formed : grammar.WellFormed)
    (regular : grammar.isRegular rule = true) (wanted : List Symbol) :
    ∃ results sinks, KeptRounds grammar rule wanted results sinks := by
  -- The first round hands a regular and well-formed grammar on to the others.
  induction wanted generalizing grammar with
  | nil => exact ⟨[], [], rfl, rfl, rfl, List.nodup_nil, by simp, by simp⟩
  | cons wanted others induction =>
      have isRegular := (isRegular_iff formed).1 regular
      have free := @not_declares_freshName grammar wanted
      have kept := isRegular.round_keeps formed free
      have converted : grammar.toAutomaton rule wanted =
          .ok (grammar.automatonWithSink (grammar.freshName wanted)) :=
        (toAutomaton_eq_ok_iff formed).2 ⟨isRegular, rfl⟩
      have returnedFormed :
          (grammar.automatonWithSink (grammar.freshName wanted)).toGrammar.WellFormed :=
        Automaton.wellFormed_toGrammar (isRegular.wellFormed_automatonWithSink formed)
      obtain ⟨results, sinks, later⟩ := induction returnedFormed kept.isRegular
      exact ⟨_, _, later.cons converted rfl free kept⟩

/-- A grammar with the empty word that is regular under the strict rule. The wanted
names for the sinks are taken, repeated or empty. -/
def optional : Grammar :=
  .ofLists [⟨"S"⟩, ⟨"A"⟩, ⟨"K"⟩] [⟨"a"⟩, ⟨"b"⟩, ⟨"K"⟩]
    [(⟨"A"⟩, [.symbols [⟨"b"⟩, ⟨"A"⟩], .symbols [⟨"a"⟩]]),
      (⟨"S"⟩, [.symbols [⟨"a"⟩, ⟨"A"⟩], .symbols [⟨"b"⟩], .epsilon])]
    ⟨"S"⟩

theorem optional_keptRounds :
    optional.WellFormed ∧ optional.isRegular .strict = true ∧
      ∃ results sinks, KeptRounds optional .strict [⟨"K"⟩, ⟨""⟩, ⟨"K"⟩] results sinks := by
  have formed : optional.WellFormed := defect?_eq_none_iff.1 (by decide)
  have regular : optional.isRegular .strict = true := by decide
  exact ⟨formed, regular, exists_keptRounds formed regular _⟩

end Grammar
end RightLinear
