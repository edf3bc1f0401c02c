import RightLinear.Grammar.RightSide
import RightLinear.Grouping

/-! # Grammars

A grammar declares its non-terminals and terminals, names a start among the
non-terminals, and groups its right-hand sides by the non-terminal that they
replace. Nothing in the type ties the parts together: `WellFormed` says which
grammars use declared symbols only, and `defect?` finds the first fault of one
that does not. A name may be terminal and non-terminal at once.

A grammar can also be put together from single declarations, in any order and
with repetitions. Each declaration adds to what is there; whether the parts fit
is asked of the result only.
-/

namespace RightLinear

/-- Declared symbols, alternatives of each non-terminal, and a start. -/
structure Grammar where
  nonTerminals : OrderedSet Symbol
  terminals : OrderedSet Symbol
  productions : Grouping Symbol RightSide
  start : Symbol
  deriving DecidableEq

namespace Grammar

/-- The grammar of some lists. Every listed left-hand side becomes a key, and the
alternatives of a repeated one are united. -/
def ofLists (nonTerminals terminals : List Symbol)
    (productions : List (Symbol × List RightSide)) (start : Symbol) : Grammar :=
  ⟨.ofList nonTerminals, .ofList terminals, .ofList productions, start⟩

/-- The right-hand sides of a symbol; a symbol without productions has none. -/
def alternatives (grammar : Grammar) (symbol : Symbol) : OrderedSet RightSide :=
  grammar.productions.values symbol

/-- A symbol that is declared as a terminal or as a non-terminal. -/
def Declares (grammar : Grammar) (symbol : Symbol) : Prop :=
  symbol ∈ grammar.terminals ∨ symbol ∈ grammar.nonTerminals

instance (grammar : Grammar) (symbol : Symbol) : Decidable (grammar.Declares symbol) :=
  inferInstanceAs (Decidable (_ ∨ _))

/-- A right-hand side that may stand in the grammar: the empty word, or at
least one symbol and declared symbols only. -/
def Admits (grammar : Grammar) : RightSide → Prop
  | .epsilon => True
  | .symbols word => word ≠ [] ∧ ∀ symbol ∈ word, grammar.Declares symbol

/-- The start is a non-terminal, and all productions replace non-terminals by
admissible right-hand sides. -/
structure WellFormed (grammar : Grammar) : Prop where
  start_mem : grammar.start ∈ grammar.nonTerminals
  keys_mem : ∀ group ∈ grammar.productions.groups, group.1 ∈ grammar.nonTerminals
  admits : ∀ group ∈ grammar.productions.groups,
    ∀ side ∈ group.2.toList, grammar.Admits side

inductive Defect
  | startUndeclared (start : Symbol)
  | leftSideUndeclared (left : Symbol)
  | emptyRightSide (left : Symbol)
  | symbolUndeclared (left : Symbol) (right : RightSide) (symbol : Symbol)
  deriving DecidableEq

namespace Defect

def reason : Defect → String
  | .startUndeclared start =>
      s!"starting symbol '{start}' is not a declared non-terminal"
  | .leftSideUndeclared left =>
      s!"production left-hand side '{left}' is not a declared non-terminal"
  | .emptyRightSide left =>
      s!"production of '{left}' has an empty right-hand side"
  | .symbolUndeclared left right symbol =>
      s!"production {left} -> {right} uses undeclared symbol '{symbol}'"

def message (defect : Defect) : String := "malformed grammar: " ++ defect.reason

end Defect

/-- The first fault of one production. -/
def sideDefect? (grammar : Grammar) (left : Symbol) : RightSide → Option Defect
  | .epsilon => none
  | .symbols [] => some (.emptyRightSide left)
  | .symbols word =>
      (word.find? fun symbol => ! decide (grammar.Declares symbol)).map
        (.symbolUndeclared left (.symbols word))

/-- The first fault of all productions of one symbol. -/
def groupDefect? (grammar : Grammar) (group : Symbol × OrderedSet RightSide) :
    Option Defect :=
  if group.1 ∈ grammar.nonTerminals then
    group.2.toList.findSome? (grammar.sideDefect? group.1)
  else some (.leftSideUndeclared group.1)

/-- The first fault: the start is looked at first, then the productions in
their order. -/
def defect? (grammar : Grammar) : Option Defect :=
  if grammar.start ∈ grammar.nonTerminals then
    grammar.productions.groups.findSome? grammar.groupDefect?
  else some (.startUndeclared grammar.start)

def checked (grammar : Grammar) : Except Defect Grammar :=
  match grammar.defect? with
  | none => .ok grammar
  | some defect => .error defect

theorem sideDefect?_eq_none_iff {grammar : Grammar} {left : Symbol} {side : RightSide} :
    grammar.sideDefect? left side = none ↔ grammar.Admits side := by
  match side with
  | .epsilon => simp [sideDefect?, Admits]
  | .symbols [] => simp [sideDefect?, Admits]
  | .symbols (first :: rest) =>
      simp only [sideDefect?, Admits, Option.map_eq_none_iff, List.find?_eq_none]
      simp

theorem groupDefect?_eq_none_iff {grammar : Grammar}
    {group : Symbol × OrderedSet RightSide} :
    grammar.groupDefect? group = none ↔
      group.1 ∈ grammar.nonTerminals ∧ ∀ side ∈ group.2.toList, grammar.Admits side := by
  unfold groupDefect?
  split
  · next declared => simp [declared, sideDefect?_eq_none_iff]
  · next undeclared => simp [undeclared]

theorem defect?_eq_none_iff {grammar : Grammar} :
    grammar.defect? = none ↔ grammar.WellFormed := by
  unfold defect?
  split
  · next declared =>
      simp only [List.findSome?_eq_none_iff, groupDefect?_eq_none_iff]
      exact ⟨fun sound => ⟨declared, fun group member => (sound group member).1,
          fun group member => (sound group member).2⟩,
        fun formed group member => ⟨formed.keys_mem group member,
          formed.admits group member⟩⟩
  · next undeclared =>
      simp only [reduceCtorEq, false_iff]
      exact fun formed => undeclared formed.start_mem

theorem checked_eq_ok_iff {grammar result : Grammar} :
    grammar.checked = .ok result ↔ grammar = result ∧ grammar.WellFormed := by
  rw [← defect?_eq_none_iff, checked]
  split <;> simp_all

def Same (first second : Grammar) : Prop :=
  first.nonTerminals.Same second.nonTerminals ∧
    first.terminals.Same second.terminals ∧
    first.productions.Same second.productions ∧
    first.start = second.start

instance (first second : Grammar) : Decidable (first.Same second) :=
  inferInstanceAs (Decidable (_ ∧ _ ∧ _ ∧ _))

inductive Declaration
  | nonTerminals (symbols : List Symbol)
  | terminals (symbols : List Symbol)
  | productions (left : Symbol) (alternatives : List RightSide)
  deriving DecidableEq

def blank (start : Symbol) : Grammar := ⟨∅, ∅, ∅, start⟩

/-- Adds what is declared. A symbol declared with no alternatives does not
become a left-hand side. -/
def declare (grammar : Grammar) : Declaration → Grammar
  | .nonTerminals symbols =>
      { grammar with nonTerminals := grammar.nonTerminals.insertAll symbols }
  | .terminals symbols =>
      { grammar with terminals := grammar.terminals.insertAll symbols }
  | .productions _ [] => grammar
  | .productions left alternatives =>
      { grammar with productions := grammar.productions.merge left alternatives }

def ofDeclarations (start : Symbol) (declarations : List Declaration) : Grammar :=
  declarations.foldl declare (blank start)

end Grammar
end RightLinear
