import RightLinear.Proofs.Conversion.Alternatives

/-! # Letters apart from states

The grammar of an automaton has right-linear alternatives only where the names in the
transitions say what they are: a letter that is no state, and a target that is no letter.
Names that no transition uses may overlap. The sequential rule asks for no more than that,
the strict one also forbids transitions back to a final initial state. A grammar that passes
is converted back to an automaton with the same language.
-/

namespace RightLinear
namespace Automaton

variable {automaton : Automaton} {rule : EpsilonRule} {sink : Symbol}

/-- No letter of a transition is a state, and no target of one is a letter. -/
def Separated (automaton : Automaton) : Prop :=
  ∀ source letter target, target ∈ automaton.targets source letter →
    ¬ letter ∈ automaton.states ∧ ¬ target ∈ automaton.alphabet

/-- Some transition leads back to the initial state, and that is final. -/
def Reentered (automaton : Automaton) : Prop :=
  automaton.initial ∈ automaton.finals ∧
    ∃ source letter, automaton.initial ∈ automaton.targets source letter

/-- The alternative of two symbols that a transition becomes has a right-linear shape only if
its names are kept apart. -/
theorem separated_of_regular_toGrammar (regular : automaton.toGrammar.Regular rule) :
    automaton.Separated := by
  intro source letter target transition
  have production := pair_mem_alternatives_toGrammar.2 transition
  obtain ⟨isLetter, isVariable⟩ := regular.shapes source _ production
  exact ⟨isLetter.2, isVariable.2⟩

/-- A transition back to the initial state uses the start, which produces the empty word. -/
theorem not_reentered_of_regular_toGrammar (regular : automaton.toGrammar.Regular .strict) :
    ¬ automaton.Reentered := by
  rintro ⟨isFinal, source, letter, transition⟩
  have produced : .epsilon ∈ automaton.toGrammar.alternatives automaton.initial :=
    epsilon_mem_alternatives_toGrammar.2 ⟨rfl, isFinal⟩
  have production := pair_mem_alternatives_toGrammar.2 transition
  have unused : ¬ automaton.initial ∈ [letter, automaton.initial] :=
    regular.start_unused rfl produced source _ production
  exact unused (by simp)

theorem regular_toGrammar_iff (formed : automaton.WellFormed) :
    automaton.toGrammar.Regular rule ↔
      automaton.Separated ∧ (rule = .strict → ¬ automaton.Reentered) := by
  constructor
  · intro regular
    refine ⟨separated_of_regular_toGrammar regular, ?_⟩
    rintro rfl
    exact not_reentered_of_regular_toGrammar regular
  · rintro ⟨separated, unreached⟩
    apply regular_toGrammar formed separated
    intro strict isFinal source letter transition
    exact unreached strict ⟨isFinal, source, letter, transition⟩

theorem accepts_automatonWithSink_toGrammar (formed : automaton.WellFormed)
    (regular : automaton.toGrammar.Regular rule)
    (free : ¬ sink ∈ automaton.toGrammar.nonTerminals) (word : Word) :
    (automaton.toGrammar.automatonWithSink sink).accepts word = automaton.accepts word := by
  rw [regular.accepts_automatonWithSink (wellFormed_toGrammar formed) free, Bool.eq_iff_iff,
    generates_toGrammar_iff_exists_path, accepts_iff_exists_path]

/-- When the grammar of an automaton is regular, and that it then leads back to an automaton
for the same words. -/
theorem isRegular_toGrammar_iff_separated (formed : automaton.WellFormed) :
    (automaton.toGrammar.isRegular .sequential = true ↔ automaton.Separated) ∧
      (automaton.toGrammar.isRegular .strict = true ↔
        automaton.Separated ∧ ¬ automaton.Reentered) ∧
      ∀ rule wanted, automaton.toGrammar.isRegular rule = true →
        ∃ returned, automaton.toGrammar.toAutomaton rule wanted = .ok returned ∧
          ∀ word, returned.accepts word = automaton.accepts word := by
  have derivedFormed := wellFormed_toGrammar formed
  refine ⟨?_, ?_, ?_⟩
  · rw [Grammar.isRegular_iff derivedFormed, regular_toGrammar_iff formed]
    simp
  · rw [Grammar.isRegular_iff derivedFormed, regular_toGrammar_iff formed]
    simp
  · intro rule wanted isRegular
    have regular := (Grammar.isRegular_iff derivedFormed).1 isRegular
    exact ⟨_, regular.toAutomaton_eq derivedFormed wanted,
      accepts_automatonWithSink_toGrammar formed regular Grammar.freshName_not_mem_nonTerminals⟩

/-- A target that is also a letter leads to an alternative of two letters. -/
example :
    (ofLists [⟨"S"⟩, ⟨"a"⟩] [⟨"a"⟩] [((⟨"S"⟩, ⟨"a"⟩), [⟨"a"⟩])] ⟨"S"⟩
      [⟨"a"⟩]).toGrammar.violation? .sequential =
      some ⟨.leadingNonTerminal, ⟨"S"⟩, .symbols [⟨"a"⟩, ⟨"a"⟩]⟩ := by
  decide

/-- A final initial state that is returned to. One name is a state and a letter, but only a
key without targets uses it. -/
def circling : Automaton :=
  .ofLists [⟨"S"⟩, ⟨"x"⟩, ⟨"F"⟩] [⟨"a"⟩, ⟨"x"⟩]
    [((⟨"S"⟩, ⟨"a"⟩), [⟨"F"⟩, ⟨"S"⟩]), ((⟨"F"⟩, ⟨"x"⟩), [])] ⟨"S"⟩ [⟨"F"⟩, ⟨"S"⟩]

theorem circling_toGrammar :
    circling.WellFormed ∧ circling.Separated ∧ circling.Reentered ∧
      circling.toGrammar.isRegular .sequential = true ∧
      ¬ circling.toGrammar.isRegular .strict = true ∧
      ∃ returned, circling.toGrammar.toAutomaton .sequential ⟨"F"⟩ = .ok returned ∧
        ∀ word, returned.accepts word = circling.accepts word := by
  have formed : circling.WellFormed := defect?_eq_none_iff.1 (by decide)
  have sequential : circling.toGrammar.isRegular .sequential = true := by decide
  have reentered : circling.Reentered := ⟨by decide, ⟨"S"⟩, ⟨"a"⟩, by decide⟩
  obtain ⟨separated, strict, back⟩ := isRegular_toGrammar_iff_separated formed
  exact ⟨formed, separated.1 sequential, reentered, sequential,
    fun regular => (strict.1 regular).2 reentered, back _ _ sequential⟩

end Automaton
end RightLinear
