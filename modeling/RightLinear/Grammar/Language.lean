import RightLinear.Grammar.Basic

/-! # The language of a grammar

A word is generated letter by letter. After some letters a derivation either
waits for one pending symbol to be replaced or is complete; `frontier` collects
all these situations at once. Only alternatives of one or two symbols can be
used to produce a letter, and the empty word ends a derivation.

`Derives` says what a right-linear derivation is. It asks for terminals and
non-terminals in their places, where the search looks at lengths only.
-/

namespace RightLinear

/-- What is left to replace in a derivation: a symbol, or nothing. -/
abbrev Pending := Option Symbol

/-- What an alternative leaves pending if it produces the given letter. -/
def RightSide.afterLetter? (letter : Symbol) : RightSide → Option Pending
  | .symbols [first] => if first = letter then some none else none
  | .symbols [first, next] => if first = letter then some (some next) else none
  | _ => none

/-- An alternative produces a letter if it is that letter alone, or the letter and
one more symbol. -/
theorem RightSide.afterLetter?_eq_some_iff {letter : Symbol} {side : RightSide}
    {pending : Pending} :
    side.afterLetter? letter = some pending ↔
      side = .symbols (letter :: pending.toList) := by
  match side with
  | .epsilon => simp [RightSide.afterLetter?]
  | .symbols [] => simp [RightSide.afterLetter?]
  | .symbols [first] => cases pending <;> simp [RightSide.afterLetter?]
  | .symbols [first, next] => cases pending <;> simp [RightSide.afterLetter?]
  | .symbols (first :: second :: third :: rest) =>
      cases pending <;> simp [RightSide.afterLetter?]

namespace Grammar

/-- All that can be pending after one more letter. -/
def successors (grammar : Grammar) (letter : Symbol) : Pending → List Pending
  | none => []
  | some symbol =>
      (grammar.alternatives symbol).toList.filterMap (RightSide.afterLetter? letter)

def advance (grammar : Grammar) (pending : OrderedSet Pending) (letter : Symbol) :
    OrderedSet Pending :=
  OrderedSet.ofList (pending.toList.flatMap (grammar.successors letter))

def frontier (grammar : Grammar) (word : Word) : OrderedSet Pending :=
  word.foldl grammar.advance (OrderedSet.ofList [some grammar.start])

/-- A derivation can end where nothing is pending, or where the empty word may
replace what is. -/
def ends (grammar : Grammar) : Pending → Bool
  | none => true
  | some symbol => decide (RightSide.epsilon ∈ grammar.alternatives symbol)

def generates (grammar : Grammar) (word : Word) : Bool :=
  (grammar.frontier word).toList.any grammar.ends

/-- A right-linear derivation of a word from a pending symbol. -/
inductive Derives (grammar : Grammar) : Symbol → Word → Prop
  | stop {left : Symbol} (production : .epsilon ∈ grammar.alternatives left) :
      Derives grammar left []
  | last {left letter : Symbol}
      (production : .symbols [letter] ∈ grammar.alternatives left)
      (isTerminal : letter ∈ grammar.terminals) :
      Derives grammar left [letter]
  | step {left letter next : Symbol} {word : Word}
      (production : .symbols [letter, next] ∈ grammar.alternatives left)
      (isTerminal : letter ∈ grammar.terminals)
      (isNonTerminal : next ∈ grammar.nonTerminals)
      (rest : Derives grammar next word) :
      Derives grammar left (letter :: word)

theorem mem_successors {grammar : Grammar} {letter symbol : Symbol} {pending : Pending} :
    pending ∈ grammar.successors letter (some symbol) ↔
      .symbols (letter :: pending.toList) ∈ grammar.alternatives symbol := by
  simp only [successors, List.mem_filterMap, RightSide.afterLetter?_eq_some_iff, exists_eq_right]
  rfl

/-- What can be pending after one more letter comes from a pending symbol and one
of its alternatives. -/
theorem mem_advance {grammar : Grammar} {pending : OrderedSet Pending} {letter : Symbol}
    {next : Pending} :
    next ∈ grammar.advance pending letter ↔
      ∃ symbol, some symbol ∈ pending ∧
        .symbols (letter :: next.toList) ∈ grammar.alternatives symbol := by
  rw [advance, OrderedSet.mem_ofList, List.mem_flatMap]
  constructor
  · rintro ⟨waiting, member, successor⟩
    cases waiting with
    | none => exact nomatch successor
    | some symbol => exact ⟨symbol, member, mem_successors.1 successor⟩
  · rintro ⟨symbol, member, production⟩
    exact ⟨some symbol, member, mem_successors.2 production⟩

end Grammar
end RightLinear
