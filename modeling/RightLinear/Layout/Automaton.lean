import RightLinear.Automaton.Basic
import RightLinear.Document
import RightLinear.Layout.Rows

/-! # The layout of automata

The first four lines hold the states, the alphabet, the initial state and the
final states. Each later line holds the source, the letter and the target of
one transition:

    p q
    a b
    p
    q
    p a q

The line of final states may be empty.
-/

namespace RightLinear
namespace Automaton

open Layout Writer

/-- What a row after the headers declares; an empty row declares nothing. -/
def declarationOf (row : Row) : Except Fault (Option Declaration) :=
  if row.isEmpty then .ok none
  else
    match row.symbols with
    | [source, letter, target] => .ok (some (.transition source letter target))
    | _ => .error (.notTransition row.number row.text)

/-- The declarations of the rows after the headers, up to the first fault. -/
def declarationsOf : List Row → Except Fault (List Declaration)
  | [] => .ok []
  | row :: later => do
      let declaration ← declarationOf row
      let declarations ← declarationsOf later
      return declaration.toList ++ declarations

/-- The automaton described by the given initial state, header rows and later
rows. -/
def ofRows (initial : Symbol) (states alphabet finals : Row) (later : List Row) :
    Except Fault Automaton := do
  let declarations ← declarationsOf later
  let automaton := ofDeclarations initial
    (.states states.symbols :: .alphabet alphabet.symbols :: .finals finals.symbols ::
      declarations)
  automaton.checked.mapError .malformedAutomaton

def read (text : String) : Except Fault Automaton :=
  match rows text with
  | [] => .error (.missing .states)
  | [_] => .error (.missing .alphabet)
  | [_, _] => .error (.missing .initial)
  | states :: alphabet :: initial :: later => do
      let initial ← single .initial initial
      match later with
      | [] => .error (.missing .finals)
      | finals :: later => ofRows initial states alphabet finals later

def sourceLines (group : (Symbol × Symbol) × OrderedSet Symbol) : List Piece :=
  group.2.toList.map fun target =>
    .line (.transition group.1.1 group.1.2 target)
      (Symbol.joined " " [group.1.1, group.1.2, target])

def source (automaton : Automaton) : Document :=
  [.line .states (Symbol.joined " " automaton.states.toList),
    .line .alphabet (Symbol.joined " " automaton.alphabet.toList),
    .line .initial automaton.initial.text,
    .line .finals (Symbol.joined " " automaton.finals.toList)] ++
    automaton.transitions.groups.flatMap sourceLines

def writeSource (automaton : Automaton) : Writer := do
  putLine .states (Symbol.joined " " automaton.states.toList)
  putLine .alphabet (Symbol.joined " " automaton.alphabet.toList)
  putLine .initial automaton.initial.text
  putLine .finals (Symbol.joined " " automaton.finals.toList)
  for ((source, letter), targets) in automaton.transitions.groups do
    for target in targets.toList do
      putLine (.transition source letter target) s!"{source} {letter} {target}"

end Automaton
end RightLinear
