import Mathlib.Data.List.Nodup
import RightLinear.Proofs.Order
import RightLinear.Proofs.Regrouping

/-! # From transitions to alternatives

Each transition becomes an alternative of two symbols, and no other alternative has two. So
the transitions can be read off the grammar, each of them once. What else there is in the
grammar repeats which states are final: a letter alone where it leads to one, and the empty
word where the initial state is one.
-/

namespace RightLinear

namespace Grammar

/-- The transition that a production of two symbols stands for. -/
def transitionRead? : Symbol × RightSide → Option ((Symbol × Symbol) × Symbol)
  | (source, .symbols [letter, target]) => some ((source, letter), target)
  | _ => none

/-- The transitions that the productions of two symbols stand for. -/
def readTransitions (grammar : Grammar) : List ((Symbol × Symbol) × Symbol) :=
  grammar.productions.pairs.filterMap transitionRead?

variable {grammar : Grammar} {source letter target : Symbol}

theorem transitionRead?_eq_some_iff {production : Symbol × RightSide} :
    transitionRead? production = some ((source, letter), target) ↔
      production = (source, .symbols [letter, target]) := by
  constructor
  · intro read
    match production with
    | (_, .symbols [_, _]) =>
        cases read
        rfl
  · rintro rfl
    rfl

theorem mem_readTransitions :
    ((source, letter), target) ∈ grammar.readTransitions ↔
      .symbols [letter, target] ∈ grammar.alternatives source := by
  simp only [readTransitions, List.mem_filterMap, transitionRead?_eq_some_iff, exists_eq_right]
  exact Grouping.mem_pairs

theorem nodup_readTransitions (grammar : Grammar) : grammar.readTransitions.Nodup := by
  apply grammar.productions.nodup_pairs.filterMap
  rintro first second ⟨⟨source, letter⟩, target⟩ read again
  rw [transitionRead?_eq_some_iff.1 read, transitionRead?_eq_some_iff.1 again]

end Grammar

namespace Automaton

variable {automaton : Automaton} {source letter target : Symbol}

theorem pair_mem_alternatives_toGrammar :
    .symbols [letter, target] ∈ automaton.toGrammar.alternatives source ↔
      target ∈ automaton.targets source letter := by
  have leaves := @symbols_mem_alternatives_toGrammar automaton source letter (some target)
  simpa using leaves

theorem lone_mem_alternatives_toGrammar :
    .symbols [letter] ∈ automaton.toGrammar.alternatives source ↔
      ∃ target ∈ automaton.targets source letter, target ∈ automaton.finals := by
  have stops := @symbols_mem_alternatives_toGrammar automaton source letter none
  simpa using stops

theorem eq_initial_and_final_iff :
    source = automaton.initial ∧ automaton.initial ∈ automaton.finals ↔
      source = automaton.initial ∧ source ∈ automaton.finals := by
  apply and_congr_right
  rintro rfl
  exact Iff.rfl

/-- The productions of the grammar say which transitions the automaton has and which states
are final, and nothing else. -/
structure ExpressedBy (automaton : Automaton) (grammar : Grammar) : Prop where
  nonTerminals : grammar.nonTerminals = automaton.states
  terminals : grammar.terminals = automaton.alphabet
  start : grammar.start = automaton.initial
  pair : ∀ source letter target, .symbols [letter, target] ∈ grammar.alternatives source ↔
    target ∈ automaton.targets source letter
  lone : ∀ source letter, .symbols [letter] ∈ grammar.alternatives source ↔
    ∃ target ∈ automaton.targets source letter, target ∈ automaton.finals
  empty : ∀ source, .epsilon ∈ grammar.alternatives source ↔
    source = automaton.initial ∧ source ∈ automaton.finals
  others : ∀ source, ∀ side ∈ grammar.alternatives source,
    side = .epsilon ∨ (∃ letter, side = .symbols [letter]) ∨
      ∃ letter target, side = .symbols [letter, target]
  keys : ∀ source, source ∈ grammar.productions.keys ↔
    (∃ letter, (source, letter) ∈ automaton.transitions.keys) ∨
      source = automaton.initial ∧ source ∈ automaton.finals
  readTransitions : grammar.readTransitions.Perm automaton.transitions.pairs

/-- The conversion neither loses nor invents anything, and all transitions of the automaton
can be read back. -/
theorem toGrammar_exact (automaton : Automaton) : automaton.ExpressedBy automaton.toGrammar where
  nonTerminals := rfl
  terminals := rfl
  start := rfl
  pair _ _ _ := pair_mem_alternatives_toGrammar
  lone _ _ := lone_mem_alternatives_toGrammar
  empty _ := epsilon_mem_alternatives_toGrammar.trans eq_initial_and_final_iff
  others := by
    intro source side production
    rcases mem_alternatives_toGrammar.1 production with ⟨rfl, _⟩ | ⟨letter, target, _, made⟩
    · exact Or.inl rfl
    · rcases mem_alternativesFor_iff.1 made with rfl | ⟨rfl, _⟩
      · exact Or.inr (Or.inr ⟨letter, target, rfl⟩)
      · exact Or.inr (Or.inl ⟨letter, rfl⟩)
  keys := by
    intro source
    rw [mem_keys_toGrammar, eq_initial_and_final_iff, or_comm]
  readTransitions := by
    rw [List.perm_ext_iff_of_nodup (Grammar.nodup_readTransitions _) (Grouping.nodup_pairs _)]
    rintro ⟨⟨source, letter⟩, target⟩
    rw [Grammar.mem_readTransitions, pair_mem_alternatives_toGrammar, Grouping.mem_pairs]
    rfl

/-- A transition back to the source and one to a final state collapse into three
alternatives. -/
example :
    ((ofLists [⟨"S"⟩, ⟨"K"⟩] [⟨"a"⟩] [((⟨"S"⟩, ⟨"a"⟩), [⟨"S"⟩, ⟨"K"⟩])] ⟨"S"⟩
      [⟨"K"⟩]).toGrammar.alternatives ⟨"S"⟩).toList =
      [.symbols [⟨"a"⟩, ⟨"S"⟩], .symbols [⟨"a"⟩, ⟨"K"⟩], .symbols [⟨"a"⟩]] := by
  decide

end Automaton
end RightLinear
