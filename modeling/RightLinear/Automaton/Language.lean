import RightLinear.Automaton.Basic

/-! # The language of an automaton

A word is read letter by letter from the initial state, following all possible
transitions at once. It is accepted if a final state is among those reached. The
states reached by a word are exactly the ends of the paths that it labels.
-/

namespace RightLinear
namespace Automaton

def advance (automaton : Automaton) (states : OrderedSet Symbol) (letter : Symbol) :
    OrderedSet Symbol :=
  OrderedSet.ofList
    (states.toList.flatMap fun state => (automaton.targets state letter).toList)

def reached (automaton : Automaton) (word : Word) : OrderedSet Symbol :=
  word.foldl automaton.advance (OrderedSet.ofList [automaton.initial])

def accepts (automaton : Automaton) (word : Word) : Bool :=
  (automaton.reached word).toList.any fun state => decide (state ∈ automaton.finals)

/-- A path from one state to another, labelled with a word. -/
inductive Path (automaton : Automaton) : Symbol → Word → Symbol → Prop
  | here (state : Symbol) : Path automaton state [] state
  | step {source letter next target : Symbol} {word : Word}
      (transition : next ∈ automaton.targets source letter)
      (rest : Path automaton next word target) :
      Path automaton source (letter :: word) target

theorem mem_advance {automaton : Automaton} {states : OrderedSet Symbol}
    {letter target : Symbol} :
    target ∈ automaton.advance states letter ↔
      ∃ source ∈ states, target ∈ automaton.targets source letter := by
  rw [advance, OrderedSet.mem_ofList, List.mem_flatMap]
  rfl

theorem mem_foldl_advance {automaton : Automaton} {states : OrderedSet Symbol}
    {word : Word} {target : Symbol} :
    target ∈ word.foldl automaton.advance states ↔
      ∃ source ∈ states, automaton.Path source word target := by
  induction word generalizing states with
  | nil =>
      constructor
      · intro member
        exact ⟨target, member, .here target⟩
      · rintro ⟨source, member, path⟩
        cases path
        exact member
  | cons letter word induction =>
      rw [List.foldl_cons, induction]
      constructor
      · rintro ⟨next, member, path⟩
        obtain ⟨source, sourceMem, transition⟩ := mem_advance.1 member
        exact ⟨source, sourceMem, .step transition path⟩
      · rintro ⟨source, member, path⟩
        cases path with
        | step transition rest =>
            exact ⟨_, mem_advance.2 ⟨source, member, transition⟩, rest⟩

theorem mem_reached {automaton : Automaton} {word : Word} {target : Symbol} :
    target ∈ automaton.reached word ↔ automaton.Path automaton.initial word target := by
  rw [reached, mem_foldl_advance]
  simp

end Automaton
end RightLinear
