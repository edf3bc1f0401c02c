import RightLinear.Automaton.Basic
import RightLinear.Grammar.Basic
import RightLinear.Document
import RightLinear.Text.Lines

/-! # Rows of a description

Grammars and automata are described line by line. The first lines, the headers,
declare symbols; every later line with a token on it adds productions or a
transition. Of a line only its tokens and its number matter; messages quote it
without the blanks around it.
-/

namespace RightLinear
namespace Layout

/-- One line of a description. Numbers count from one over all lines. -/
structure Row where
  number : Nat
  chars : List Char
  deriving DecidableEq

namespace Row

def symbols (row : Row) : List Symbol :=
  (Text.tokens row.chars).map fun token => ⟨String.ofList token⟩

/-- The row without the blanks around it. -/
def text (row : Row) : String := String.ofList (Text.trim row.chars)

/-- Nothing is left of the row without the blanks around it. -/
def isEmpty (row : Row) : Bool := (Text.trim row.chars).isEmpty

end Row

/-- The numbered lines of a text. -/
def rows (text : String) : List Row :=
  ((Text.lines text.toList).zipIdx 1).map fun numbered => ⟨numbered.2, numbered.1⟩

/-- The lines that a description begins with. -/
inductive Header
  | nonTerminals
  | terminals
  | start
  | states
  | alphabet
  | initial
  | finals
  deriving DecidableEq

namespace Header

/-- What messages call a header. -/
def name : Header → String
  | .nonTerminals => "non-terminals"
  | .terminals => "terminals"
  | .start => "starting symbol"
  | .states => "states"
  | .alphabet => "alphabet"
  | .initial => "initial state"
  | .finals => "final states"

end Header

/-- Why a text describes nothing. -/
inductive Fault
  | missing (header : Header)
  | empty (header : Header)
  | crowded (header : Header) (line : String)
  | noLeftSide (number : Nat)
  | noAlternatives (number : Nat) (left : Symbol)
  | notTransition (number : Nat) (line : String)
  | malformedGrammar (defect : Grammar.Defect)
  | malformedAutomaton (defect : Automaton.Defect)
  deriving DecidableEq

namespace Fault

def report : Fault → Report
  | .missing header => ⟨.other, [s!"Missing {header.name} line"]⟩
  | .empty header => ⟨.other, [s!"The {header.name} line is empty"]⟩
  | .crowded header line =>
      ⟨.other, [s!"The {header.name} line must hold exactly one symbol, found '{line}'"]⟩
  | .noLeftSide number => ⟨.other, [s!"Line {number}: missing left-hand side"]⟩
  | .noAlternatives number left =>
      ⟨.other, [s!"Line {number}: production for '{left}' has no alternatives"]⟩
  | .notTransition number line =>
      ⟨.other, [s!"Line {number}: expected 'from symbol to', found '{line}'"]⟩
  | .malformedGrammar defect => ⟨.malformed, ["Invalid grammar", defect.message]⟩
  | .malformedAutomaton defect =>
      ⟨.malformed, ["Invalid finite automaton", defect.message]⟩

end Fault

/-- The one symbol that a header line must hold. -/
def single (header : Header) (row : Row) : Except Fault Symbol :=
  match row.symbols with
  | [symbol] => .ok symbol
  | [] => .error (.empty header)
  | _ => .error (.crowded header row.text)

end Layout
end RightLinear
