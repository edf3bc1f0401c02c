import RightLinear.Symbol
import RightLinear.Grouping

/-! # Finite automata

An automaton declares its states and its alphabet, names an initial state and
final states, and groups the targets of its transitions by source and letter.
It may be nondeterministic, and states and letters may share names. As with
grammars, `WellFormed` says which automata use declared names only, and
`defect?` finds the first fault of one that does not.

An automaton can also be put together from single declarations, in any order and
with repetitions. Each declaration adds to what is there; whether the parts fit
is asked of the result only.
-/

namespace RightLinear

structure Automaton where
  states : OrderedSet Symbol
  alphabet : OrderedSet Symbol
  transitions : Grouping (Symbol × Symbol) Symbol
  initial : Symbol
  finals : OrderedSet Symbol
  deriving DecidableEq

namespace Automaton

/-- The automaton of some lists. Every listed source and letter becomes a key, and
the targets of a repeated one are united. -/
def ofLists (states alphabet : List Symbol)
    (transitions : List ((Symbol × Symbol) × List Symbol)) (initial : Symbol)
    (finals : List Symbol) : Automaton :=
  ⟨.ofList states, .ofList alphabet, .ofList transitions, initial, .ofList finals⟩

/-- The states that a letter leads to from a state. -/
def targets (automaton : Automaton) (state letter : Symbol) : OrderedSet Symbol :=
  automaton.transitions.values (state, letter)

/-- All names in the automaton are declared. -/
structure WellFormed (automaton : Automaton) : Prop where
  initial_mem : automaton.initial ∈ automaton.states
  finals_mem : ∀ state ∈ automaton.finals.toList, state ∈ automaton.states
  sources_mem : ∀ group ∈ automaton.transitions.groups, group.1.1 ∈ automaton.states
  letters_mem : ∀ group ∈ automaton.transitions.groups, group.1.2 ∈ automaton.alphabet
  targets_mem : ∀ group ∈ automaton.transitions.groups,
    ∀ target ∈ group.2.toList, target ∈ automaton.states

inductive Defect
  | initialUndeclared (state : Symbol)
  | finalUndeclared (state : Symbol)
  | sourceUndeclared (state : Symbol)
  | letterUndeclared (letter : Symbol)
  | targetUndeclared (source letter target : Symbol)
  deriving DecidableEq

namespace Defect

def reason : Defect → String
  | .initialUndeclared state => s!"initial state '{state}' is not a declared state"
  | .finalUndeclared state => s!"final state '{state}' is not a declared state"
  | .sourceUndeclared state => s!"transition source '{state}' is not a declared state"
  | .letterUndeclared letter => s!"transition symbol '{letter}' is not in the alphabet"
  | .targetUndeclared source letter target =>
      s!"transition delta({source}, {letter}) targets undeclared state '{target}'"

def message (defect : Defect) : String := "malformed finite automaton: " ++ defect.reason

end Defect

/-- The first member that is not among the declared states. -/
def undeclared? (automaton : Automaton) (members : OrderedSet Symbol) : Option Symbol :=
  members.toList.find? fun member => ! decide (member ∈ automaton.states)

/-- The first fault of the transitions from one source under one letter. -/
def groupDefect? (automaton : Automaton)
    (group : (Symbol × Symbol) × OrderedSet Symbol) : Option Defect :=
  if group.1.1 ∈ automaton.states then
    if group.1.2 ∈ automaton.alphabet then
      (automaton.undeclared? group.2).map (.targetUndeclared group.1.1 group.1.2)
    else some (.letterUndeclared group.1.2)
  else some (.sourceUndeclared group.1.1)

/-- The first fault: the initial state is looked at first, then the final states,
then the transitions in their order. -/
def defect? (automaton : Automaton) : Option Defect :=
  if automaton.initial ∈ automaton.states then
    match automaton.undeclared? automaton.finals with
    | some state => some (.finalUndeclared state)
    | none => automaton.transitions.groups.findSome? automaton.groupDefect?
  else some (.initialUndeclared automaton.initial)

def checked (automaton : Automaton) : Except Defect Automaton :=
  match automaton.defect? with
  | none => .ok automaton
  | some defect => .error defect

theorem undeclared?_eq_none_iff {automaton : Automaton} {members : OrderedSet Symbol} :
    automaton.undeclared? members = none ↔
      ∀ member ∈ members.toList, member ∈ automaton.states := by
  simp [undeclared?, List.find?_eq_none]

theorem groupDefect?_eq_none_iff {automaton : Automaton}
    {group : (Symbol × Symbol) × OrderedSet Symbol} :
    automaton.groupDefect? group = none ↔
      group.1.1 ∈ automaton.states ∧ group.1.2 ∈ automaton.alphabet ∧
        ∀ target ∈ group.2.toList, target ∈ automaton.states := by
  unfold groupDefect?
  split
  · next source =>
      split
      · next letter =>
          rw [Option.map_eq_none_iff, undeclared?_eq_none_iff]
          exact ⟨fun declared => ⟨source, letter, declared⟩, fun all => all.2.2⟩
      · next letter => simp [letter]
  · next source => simp [source]

theorem defect?_eq_none_iff {automaton : Automaton} :
    automaton.defect? = none ↔ automaton.WellFormed := by
  unfold defect?
  split
  · next initial =>
      split
      · next state found =>
          simp only [reduceCtorEq, false_iff]
          intro formed
          rw [undeclared?_eq_none_iff.2 formed.finals_mem] at found
          exact nomatch found
      · next finals =>
          rw [undeclared?_eq_none_iff] at finals
          simp only [List.findSome?_eq_none_iff, groupDefect?_eq_none_iff]
          exact ⟨fun sound => ⟨initial, finals, fun group member => (sound group member).1,
              fun group member => (sound group member).2.1,
              fun group member => (sound group member).2.2⟩,
            fun formed group member => ⟨formed.sources_mem group member,
              formed.letters_mem group member, formed.targets_mem group member⟩⟩
  · next initial =>
      simp only [reduceCtorEq, false_iff]
      exact fun formed => initial formed.initial_mem

theorem checked_eq_ok_iff {automaton result : Automaton} :
    automaton.checked = .ok result ↔ automaton = result ∧ automaton.WellFormed := by
  rw [← defect?_eq_none_iff, checked]
  split <;> simp_all

def Same (first second : Automaton) : Prop :=
  first.states.Same second.states ∧
    first.alphabet.Same second.alphabet ∧
    first.transitions.Same second.transitions ∧
    first.initial = second.initial ∧
    first.finals.Same second.finals

instance (first second : Automaton) : Decidable (first.Same second) :=
  inferInstanceAs (Decidable (_ ∧ _ ∧ _ ∧ _ ∧ _))

inductive Declaration
  | states (symbols : List Symbol)
  | alphabet (symbols : List Symbol)
  | finals (symbols : List Symbol)
  | transition (source letter target : Symbol)
  deriving DecidableEq

def blank (initial : Symbol) : Automaton := ⟨∅, ∅, ∅, initial, ∅⟩

def declare (automaton : Automaton) : Declaration → Automaton
  | .states symbols => { automaton with states := automaton.states.insertAll symbols }
  | .alphabet symbols =>
      { automaton with alphabet := automaton.alphabet.insertAll symbols }
  | .finals symbols => { automaton with finals := automaton.finals.insertAll symbols }
  | .transition source letter target =>
      { automaton with
        transitions := automaton.transitions.merge (source, letter) [target] }

/-- Makes the declarations from left to right, starting from nothing. -/
def ofDeclarations (initial : Symbol) (declarations : List Declaration) : Automaton :=
  declarations.foldl declare (blank initial)

end Automaton
end RightLinear
