import RightLinear.Grammar.Basic

/-! # Regular grammars

A grammar is right-linear if each of its alternatives is the empty word, one
terminal, or a terminal followed by a non-terminal. It is regular if it is
right-linear and the empty word stands only where one of two rules allows it.
`violation?` names the first production that stands against regularity: shapes
are looked at first, the place of the empty word only if all shapes are right.
-/

namespace RightLinear

/-- Two rules for where the empty word may be produced. -/
inductive EpsilonRule
  /-- Productions are read in their order. Only the start may produce the empty
  word, and from there on the start may not be an alternative by itself. -/
  | sequential
  /-- Only the start may produce the empty word, and if it does, the start is
  used in no alternative. -/
  | strict
  deriving DecidableEq

namespace EpsilonRule

/-- The name by which a rule is asked for. -/
def name : EpsilonRule → String
  | .sequential => "sequential"
  | .strict => "strict"

end EpsilonRule

/-- In which way a production stands against regularity. -/
inductive Violation.Kind
  | tooLong
  | loneNonTerminal
  | leadingNonTerminal
  | trailingTerminal
  | epsilonOffStart
  | startAfterEpsilon
  deriving DecidableEq

/-- A production that stands against regularity. -/
structure Violation where
  kind : Violation.Kind
  left : Symbol
  right : RightSide
  deriving DecidableEq

namespace Violation

def message (violation : Violation) : String :=
  s!"{violation.left} -> {violation.right} " ++
    match violation.kind with
    | .tooLong => "has more than two symbols"
    | .loneNonTerminal => "is a single non-terminal"
    | .leadingNonTerminal => "starts with a non-terminal"
    | .trailingTerminal => "ends with a terminal"
    | .epsilonOffStart => s!"but {violation.left} is not the starting symbol"
    | .startAfterEpsilon => "uses the starting symbol, which produces eps"

/-- Why no automaton is built from a grammar with this violation. -/
def refusal (violation : Violation) : String :=
  "cannot build a finite automaton from an irregular grammar: " ++ violation.message

end Violation

namespace Grammar

def IsLetter (grammar : Grammar) (symbol : Symbol) : Prop :=
  symbol ∈ grammar.terminals ∧ ¬ symbol ∈ grammar.nonTerminals

def IsVariable (grammar : Grammar) (symbol : Symbol) : Prop :=
  symbol ∈ grammar.nonTerminals ∧ ¬ symbol ∈ grammar.terminals

/-- The right-linear shapes: the empty word, a letter, or a letter and a variable. -/
def HasShape (grammar : Grammar) : RightSide → Prop
  | .epsilon => True
  | .symbols [only] => grammar.IsLetter only
  | .symbols [first, second] => grammar.IsLetter first ∧ grammar.IsVariable second
  | _ => False

/-- The fault in the shape of an alternative. Of two symbols the first is looked
at before the second. -/
def shapeFault? (grammar : Grammar) : RightSide → Option Violation.Kind
  | .symbols [only] =>
      if only ∈ grammar.nonTerminals then some .loneNonTerminal else none
  | .symbols [first, second] =>
      if first ∈ grammar.nonTerminals then some .leadingNonTerminal
      else if second ∈ grammar.terminals then some .trailingTerminal
      else none
  | .symbols (_ :: _ :: _ :: _) => some .tooLong
  | _ => none

/-- An admissible alternative has no fault exactly if it has a right-linear shape. -/
theorem shapeFault?_eq_none_iff {grammar : Grammar} {side : RightSide}
    (admitted : grammar.Admits side) :
    grammar.shapeFault? side = none ↔ grammar.HasShape side := by
  match side with
  | .epsilon => simp [shapeFault?, HasShape]
  | .symbols [] => exact absurd rfl admitted.1
  | .symbols [only] =>
      have declared : grammar.Declares only := admitted.2 only (by simp)
      by_cases isVariable : only ∈ grammar.nonTerminals
      · simp [shapeFault?, HasShape, IsLetter, isVariable]
      · have isTerminal := declared.resolve_right isVariable
        simp [shapeFault?, HasShape, IsLetter, isVariable, isTerminal]
  | .symbols [first, second] =>
      have firstDeclared : grammar.Declares first := admitted.2 first (by simp)
      have secondDeclared : grammar.Declares second := admitted.2 second (by simp)
      by_cases leads : first ∈ grammar.nonTerminals
      · simp [shapeFault?, HasShape, IsLetter, leads]
      · have isTerminal := firstDeclared.resolve_right leads
        by_cases trails : second ∈ grammar.terminals
        · simp [shapeFault?, HasShape, IsVariable, leads, trails]
        · have isVariable := secondDeclared.resolve_left trails
          simp [shapeFault?, HasShape, IsLetter, IsVariable, leads, isTerminal, trails,
            isVariable]
  | .symbols (first :: second :: third :: rest) => simp [shapeFault?, HasShape]

/-- The first alternative of a wrong shape among those of one symbol. -/
def groupShapeViolation? (grammar : Grammar) (group : Symbol × OrderedSet RightSide) :
    Option Violation :=
  group.2.toList.findSome? fun side =>
    (grammar.shapeFault? side).map (⟨·, group.1, side⟩)

def shapeViolation? (grammar : Grammar) : Option Violation :=
  grammar.productions.groups.findSome? grammar.groupShapeViolation?

/-- Reads the productions in their order and remembers whether the empty word
has been produced. -/
def sequentialViolation? (start : Symbol) (seen : Bool) :
    List (Symbol × OrderedSet RightSide) → Option Violation
  | [] => none
  | group :: groups =>
      let here := decide (RightSide.epsilon ∈ group.2)
      if here && group.1 != start then some ⟨.epsilonOffStart, group.1, .epsilon⟩
      else
        match if seen || here then group.2.toList.find? (·.isExactly start) else none with
        | some side => some ⟨.startAfterEpsilon, group.1, side⟩
        | none => sequentialViolation? start (seen || here) groups

/-- The first alternative that uses a symbol. -/
def useOf? (symbol : Symbol) (groups : List (Symbol × OrderedSet RightSide)) :
    Option (Symbol × RightSide) :=
  groups.findSome? fun group =>
    (group.2.toList.find? fun side => decide (symbol ∈ side.word)).map (group.1, ·)

/-- A symbol other than the start that produces the empty word, or else an
alternative that uses the start although the start produces it. -/
def strictViolation? (grammar : Grammar) : Option Violation :=
  match grammar.productions.groups.find? fun group =>
      group.1 != grammar.start && decide (RightSide.epsilon ∈ group.2) with
  | some group => some ⟨.epsilonOffStart, group.1, .epsilon⟩
  | none =>
      if RightSide.epsilon ∈ grammar.alternatives grammar.start then
        (useOf? grammar.start grammar.productions.groups).map
          fun use => ⟨.startAfterEpsilon, use.1, use.2⟩
      else none

/-- The first place where the empty word breaks a rule. -/
def epsilonViolation? (grammar : Grammar) : EpsilonRule → Option Violation
  | .sequential =>
      sequentialViolation? grammar.start false grammar.productions.groups
  | .strict => grammar.strictViolation?

/-- The first reason why a grammar is not regular. -/
def violation? (grammar : Grammar) (rule : EpsilonRule) : Option Violation :=
  grammar.shapeViolation?.or (grammar.epsilonViolation? rule)

def isRightLinear (grammar : Grammar) : Bool := grammar.shapeViolation?.isNone

def isRegular (grammar : Grammar) (rule : EpsilonRule) : Bool :=
  (grammar.violation? rule).isNone

end Grammar
end RightLinear
