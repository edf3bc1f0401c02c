import RightLinear.Document
import RightLinear.Grammar.Basic
import RightLinear.Layout.Rows

/-! # The layout of grammars

The first three lines hold the non-terminals, the terminals and the start. Each
later line holds a non-terminal and at least one alternative:

    S A
    a b
    S
    S aA b
    A eps bA

The written form has one line for each non-terminal with productions.
-/

namespace RightLinear
namespace Grammar

open Layout Writer

/-- What a row after the headers declares; an empty row declares nothing. -/
def declarationOf (row : Row) : Except Fault (Option Declaration) :=
  if row.isEmpty then .ok none
  else
    match row.symbols with
    | [] => .error (.noLeftSide row.number)
    | [left] => .error (.noAlternatives row.number left)
    | left :: alternatives =>
        .ok (some (.productions left
          (alternatives.map fun alternative => RightSide.ofText alternative.text)))

/-- The declarations of the rows after the headers, up to the first fault. -/
def declarationsOf : List Row → Except Fault (List Declaration)
  | [] => .ok []
  | row :: later => do
      let declaration ← declarationOf row
      let declarations ← declarationsOf later
      return declaration.toList ++ declarations

/-- The grammar described by the given header rows and later rows. -/
def ofRows (nonTerminals terminals start : Row) (later : List Row) :
    Except Fault Grammar := do
  let start ← single .start start
  let declarations ← declarationsOf later
  let grammar := ofDeclarations start
    (.nonTerminals nonTerminals.symbols :: .terminals terminals.symbols :: declarations)
  grammar.checked.mapError .malformedGrammar

def read (text : String) : Except Fault Grammar :=
  match rows text with
  | [] => .error (.missing .nonTerminals)
  | [_] => .error (.missing .terminals)
  | [_, _] => .error (.missing .start)
  | nonTerminals :: terminals :: start :: later =>
      ofRows nonTerminals terminals start later

def sourceLine (group : Symbol × OrderedSet RightSide) : Piece :=
  .line (.productionsOf group.1)
    (group.1.text ++ " " ++
      String.intercalate " " (group.2.toList.map RightSide.text))

def source (grammar : Grammar) : Document :=
  [.line .nonTerminals (Symbol.joined " " grammar.nonTerminals.toList),
    .line .terminals (Symbol.joined " " grammar.terminals.toList),
    .line .start grammar.start.text] ++
    grammar.productions.groups.map sourceLine

def writeSource (grammar : Grammar) : Writer := do
  putLine .nonTerminals (Symbol.joined " " grammar.nonTerminals.toList)
  putLine .terminals (Symbol.joined " " grammar.terminals.toList)
  putLine .start grammar.start.text
  for (left, alternatives) in grammar.productions.groups do
    putLine (.productionsOf left)
      (s!"{left} " ++ String.intercalate " " (alternatives.toList.map RightSide.text))

end Grammar
end RightLinear
