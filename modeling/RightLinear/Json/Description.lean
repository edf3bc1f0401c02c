import RightLinear.Automaton.Basic
import RightLinear.Document
import RightLinear.Grammar.Basic
import RightLinear.Json.Basic

/-! # Grammars and automata in JSON

Sets of symbols become lists in their order. The productions become an object
with one field for each non-terminal, and transitions a list of objects. The
fields of every object stand in the order of their names.
-/

namespace RightLinear

open Writer

def Json.ofSymbols (symbols : OrderedSet Symbol) : Json :=
  .ofTexts (symbols.toList.map Symbol.text)

/-- The document of a value: the value and a final line feed. -/
def Json.document (value : Json) : Document :=
  [⟨.json, value.pretty 0⟩, ⟨.newline, "\n"⟩]

def Json.write (value : Json) : Writer := do
  put .json (value.pretty 0)
  putLine .newline ""

namespace Grammar

/-- The productions, each right-hand side given by its text. -/
def productionsJson (grammar : Grammar) : Json :=
  .ofFields (grammar.productions.groups.map fun group =>
    (group.1.text, .ofTexts (group.2.toList.map RightSide.text)))

def toJson (grammar : Grammar) : Json :=
  .object
    [("non_terminals", .ofSymbols grammar.nonTerminals),
      ("productions", grammar.productionsJson),
      ("starting_symbol", .text grammar.start.text),
      ("terminals", .ofSymbols grammar.terminals)]

def json (grammar : Grammar) : Document := grammar.toJson.document

def writeJson (grammar : Grammar) : Writer := grammar.toJson.write

end Grammar

namespace Automaton

/-- The transitions from one source under one letter. -/
def transitionJson (group : (Symbol × Symbol) × OrderedSet Symbol) : Json :=
  .object
    [("from", .text group.1.1.text),
      ("symbol", .text group.1.2.text),
      ("to", .ofSymbols group.2)]

def toJson (automaton : Automaton) : Json :=
  .object
    [("alphabet", .ofSymbols automaton.alphabet),
      ("final_states", .ofSymbols automaton.finals),
      ("initial_state", .text automaton.initial.text),
      ("states", .ofSymbols automaton.states),
      ("transitions", .list (automaton.transitions.groups.map transitionJson))]

def json (automaton : Automaton) : Document := automaton.toJson.document

def writeJson (automaton : Automaton) : Writer := automaton.toJson.write

end Automaton
end RightLinear
