import RightLinear.Automaton.Basic
import RightLinear.Document
import RightLinear.Grammar.Basic

/-! # Listings

The form of grammars and automata that is meant for readers: every line begins
with a word that says what it lists. A listing is given as a document and by its
writer.
-/

namespace RightLinear

open Writer

namespace Grammar

/-- A symbol and its alternatives. -/
def production (left : Symbol) (alternatives : OrderedSet RightSide) : String :=
  s!"{left} -> " ++ String.intercalate " | " (alternatives.toList.map RightSide.text)

def listingLine (left : Symbol) (alternatives : OrderedSet RightSide) : Piece :=
  .line (.productionsOf left) ("  " ++ production left alternatives)

def listing (grammar : Grammar) : Document :=
  [.line .nonTerminals ("Non-terminals: " ++ Symbol.joined " " grammar.nonTerminals.toList),
    .line .terminals ("Terminals: " ++ Symbol.joined " " grammar.terminals.toList),
    .line .start s!"Starting symbol: {grammar.start}",
    .line .productionsHeader "Productions:"] ++
    grammar.productions.groups.map fun group => listingLine group.1 group.2

/-- The listing of the productions of one symbol. -/
def listingOf (grammar : Grammar) (symbol : Symbol) : Document :=
  [.line .productionsHeader s!"Productions of {symbol}:",
    match grammar.productions.find? symbol with
    | some alternatives => listingLine symbol alternatives
    | none => .line (.productionsOf symbol) "  (none)"]

def writeListing (grammar : Grammar) : Writer := do
  putLine .nonTerminals ("Non-terminals: " ++ Symbol.joined " " grammar.nonTerminals.toList)
  putLine .terminals ("Terminals: " ++ Symbol.joined " " grammar.terminals.toList)
  putLine .start s!"Starting symbol: {grammar.start}"
  putLine .productionsHeader "Productions:"
  for (left, alternatives) in grammar.productions.groups do
    putLine (.productionsOf left) ("  " ++ production left alternatives)

def writeListingOf (grammar : Grammar) (symbol : Symbol) : Writer := do
  putLine .productionsHeader s!"Productions of {symbol}:"
  match grammar.productions.find? symbol with
  | some alternatives => putLine (.productionsOf symbol) ("  " ++ production symbol alternatives)
  | none => putLine (.productionsOf symbol) "  (none)"

end Grammar

namespace Automaton

def listingLine (group : (Symbol × Symbol) × OrderedSet Symbol) : Piece :=
  .line (.targets group.1.1 group.1.2)
    (s!"  delta({group.1.1}, {group.1.2}) = \x7b" ++
      Symbol.joined ", " group.2.toList ++ "\x7d")

def listing (automaton : Automaton) : Document :=
  [.line .states ("States: " ++ Symbol.joined " " automaton.states.toList),
    .line .alphabet ("Alphabet: " ++ Symbol.joined " " automaton.alphabet.toList),
    .line .initial s!"Initial state: {automaton.initial}",
    .line .finals ("Final states: " ++ Symbol.joined " " automaton.finals.toList),
    .line .transitionsHeader "Transitions:"] ++
    automaton.transitions.groups.map listingLine

def writeListing (automaton : Automaton) : Writer := do
  putLine .states ("States: " ++ Symbol.joined " " automaton.states.toList)
  putLine .alphabet ("Alphabet: " ++ Symbol.joined " " automaton.alphabet.toList)
  putLine .initial s!"Initial state: {automaton.initial}"
  putLine .finals ("Final states: " ++ Symbol.joined " " automaton.finals.toList)
  putLine .transitionsHeader "Transitions:"
  for ((source, letter), targets) in automaton.transitions.groups do
    putLine (.targets source letter)
      (s!"  delta({source}, {letter}) = \x7b" ++ Symbol.joined ", " targets.toList ++ "\x7d")

end Automaton
end RightLinear
