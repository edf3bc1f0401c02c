import RightLinear.Automaton.Basic
import RightLinear.Grammar.Regular

/-! # Conversions

The states of the automaton of a regular grammar are the non-terminals and one
more, the sink. `A -> a B` becomes a transition from `A` under `a` to `B`, and
`A -> a` one to the sink. The sink is final, and so is the start if it produces
the empty word. A grammar that is not regular is refused with the violation
found in it.

The sink needs a name that the grammar does not use. The wanted name is taken if
it is free. Otherwise the letters from `Z` down to `A` are tried, and then the
wanted name followed by 0, 1, 2 and so on. Among one more number than there are
declared symbols a free one must be found.

The non-terminals of the grammar of an automaton are its states. A transition
from `p` under `a` to `q` becomes `p -> a q`, and also `p -> a` if `q` is final.
A final initial state produces the empty word; this is the only place where the
empty word appears.
-/

namespace RightLinear
namespace Grammar

/-- The letters that are tried first, from `Z` down to `A`. -/
def letterNames : List Symbol := (Word.ofText "ABCDEFGHIJKLMNOPQRSTUVWXYZ").reverse

def numberedName (wanted : Symbol) (number : Nat) : Symbol :=
  ⟨wanted.text ++ toString number⟩

/-- All names that are tried for a wanted one, in this order. -/
def candidateNames (grammar : Grammar) (wanted : Symbol) : List Symbol :=
  let declared := grammar.terminals.toList.length + grammar.nonTerminals.toList.length
  wanted :: letterNames ++ (List.range (declared + 1)).map (numberedName wanted)

/-- The first name to try that is neither a terminal nor a non-terminal. -/
def freshName (grammar : Grammar) (wanted : Symbol) : Symbol :=
  ((grammar.candidateNames wanted).find? fun name => ! decide (grammar.Declares name)).getD
    wanted

/-- The transition that an alternative stands for; the empty word stands for
none. -/
def transitionOf? (sink left : Symbol) : RightSide → Option ((Symbol × Symbol) × List Symbol)
  | .symbols [letter] => some ((left, letter), [sink])
  | .symbols [letter, target] => some ((left, letter), [target])
  | _ => none

/-- The automaton of a grammar, given the name of the sink. -/
def automatonWithSink (grammar : Grammar) (sink : Symbol) : Automaton where
  states := grammar.nonTerminals.insert sink
  alphabet := grammar.terminals
  transitions := Grouping.ofList (grammar.productions.pairs.filterMap fun production =>
    transitionOf? sink production.1 production.2)
  initial := grammar.start
  finals := OrderedSet.ofList
    (sink :: if RightSide.epsilon ∈ grammar.alternatives grammar.start
      then [grammar.start] else [])

/-- The automaton of a grammar that is regular under the rule. The sink has the
wanted name if the grammar leaves that free. -/
def toAutomaton (grammar : Grammar) (rule : EpsilonRule) (wanted : Symbol) :
    Except Violation Automaton :=
  match grammar.violation? rule with
  | some violation => .error violation
  | none => .ok (grammar.automatonWithSink (grammar.freshName wanted))

/-- The sink has this name if nothing else is wanted. -/
def defaultSink : Symbol := ⟨"K"⟩

end Grammar

namespace Automaton

def alternativesFor (automaton : Automaton) (letter target : Symbol) : List RightSide :=
  .symbols [letter, target] ::
    if target ∈ automaton.finals then [.symbols [letter]] else []

/-- The production steps of the transitions from one source under one letter. -/
def productionStep (automaton : Automaton)
    (group : (Symbol × Symbol) × OrderedSet Symbol) : Symbol × List RightSide :=
  (group.1.1, group.2.toList.flatMap (automaton.alternativesFor group.1.2))

/-- The empty word for a final initial state. -/
def epsilonSteps (automaton : Automaton) : List (Symbol × List RightSide) :=
  if automaton.initial ∈ automaton.finals then [(automaton.initial, [.epsilon])] else []

def toGrammar (automaton : Automaton) : Grammar where
  nonTerminals := automaton.states
  terminals := automaton.alphabet
  productions := Grouping.ofList
    (automaton.epsilonSteps ++ automaton.transitions.groups.map automaton.productionStep)
  start := automaton.initial

end Automaton

end RightLinear
