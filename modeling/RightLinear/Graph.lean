import RightLinear.Automaton.Basic
import RightLinear.Document

/-! # Drawings of automata

An automaton is drawn in the DOT language. Each state is a node, with a double
circle if it is final, and an edge without a source points at the initial
state. Parallel transitions share one edge, labelled with all their letters.
-/

namespace RightLinear

open Writer

/-- The name of a node: the state in quotes, quotes inside it with a backslash in
front. -/
def Symbol.nodeName (state : Symbol) : String :=
  "\"" ++ String.ofList (state.text.toList.flatMap fun char =>
    if char = '"' then ['\\', '"'] else [char]) ++ "\""

namespace Automaton

/-- An edge between two states with its letters. -/
abbrev Edge := (Symbol × Symbol) × List Symbol

/-- Puts a letter on the edge between two states, which is drawn behind all others if
there is none yet. -/
def addLetter (ends : Symbol × Symbol) (letter : Symbol) : List Edge → List Edge
  | [] => [(ends, [letter])]
  | edge :: later =>
      if edge.1 = ends then (ends, edge.2 ++ [letter]) :: later
      else edge :: addLetter ends letter later

/-- The edges, in the order in which the transitions mention their states. -/
def edges (automaton : Automaton) : List Edge :=
  automaton.transitions.pairs.foldl (fun drawn transition =>
    addLetter (transition.1.1, transition.2) transition.1.2 drawn) []

def nodeLine (automaton : Automaton) (state : Symbol) : Piece :=
  let shape := if state ∈ automaton.finals then "doublecircle" else "circle"
  .line (.graphNode state) s!"  {state.nodeName} [shape={shape}];"

def edgeLine (edge : Edge) : Piece :=
  .line (.graphEdge edge.1.1 edge.1.2)
    (s!"  {edge.1.1.nodeName} -> {edge.1.2.nodeName} [label=" ++
      "\"" ++ Symbol.joined "," edge.2 ++ "\"];")

def graph (automaton : Automaton) : Document :=
  [.line .graphHeader "digraph FiniteAutomaton \x7b",
    .line .graphDirection "  rankdir=LR;",
    .line .graphStartMarker "  __start [shape=point];"] ++
    automaton.states.toList.map automaton.nodeLine ++
    [.line .graphStartEdge s!"  __start -> {automaton.initial.nodeName};"] ++
    automaton.edges.map edgeLine ++
    [.line .graphFooter "\x7d"]

def writeGraph (automaton : Automaton) : Writer := do
  putLine .graphHeader "digraph FiniteAutomaton \x7b"
  putLine .graphDirection "  rankdir=LR;"
  putLine .graphStartMarker "  __start [shape=point];"
  for state in automaton.states.toList do
    let shape := if state ∈ automaton.finals then "doublecircle" else "circle"
    putLine (.graphNode state) s!"  {state.nodeName} [shape={shape}];"
  putLine .graphStartEdge s!"  __start -> {automaton.initial.nodeName};"
  for ((source, target), letters) in automaton.edges do
    putLine (.graphEdge source target)
      (s!"  {source.nodeName} -> {target.nodeName} [label=" ++
        "\"" ++ Symbol.joined "," letters ++ "\"];")
  putLine .graphFooter "\x7d"

end Automaton
end RightLinear
