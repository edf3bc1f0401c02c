import Mathlib.Data.Fin.Tuple.Basic
import RightLinear.Automaton.Language
import RightLinear.Proofs.Grouping

/-! # Paths and runs

The transitions of a well-formed automaton lead between its states under its letters. The
first letter of a path is the first transition taken, and a word is accepted if it labels a
path from the initial state to a final one. A run on a word visits one state before each
letter and one behind the last, and each letter leads from the state before it to the next.
The search follows all runs at once, so it accepts a word exactly if one of them goes from the
initial state to a final one. It may leave as soon as no state is left, and no run gets past a
letter outside the alphabet.
-/

namespace RightLinear
namespace Automaton

variable {automaton : Automaton} {source target : Symbol} {word : Word}

theorem mem_targets_iff_exists_group {letter : Symbol} :
    target ∈ automaton.targets source letter ↔
      ∃ group ∈ automaton.transitions.groups, group.1 = (source, letter) ∧ target ∈ group.2 :=
  Grouping.mem_values_iff_exists_group

theorem mem_targets_of_mem_group {group : (Symbol × Symbol) × OrderedSet Symbol}
    (listed : group ∈ automaton.transitions.groups) (member : target ∈ group.2) :
    target ∈ automaton.targets group.1.1 group.1.2 :=
  mem_targets_iff_exists_group.2 ⟨group, listed, rfl, member⟩

theorem WellFormed.declared_of_mem_targets (formed : automaton.WellFormed) {letter : Symbol}
    (transition : target ∈ automaton.targets source letter) :
    source ∈ automaton.states ∧ letter ∈ automaton.alphabet ∧ target ∈ automaton.states := by
  obtain ⟨group, listed, key, member⟩ := mem_targets_iff_exists_group.1 transition
  have sourceMem := formed.sources_mem group listed
  have letterMem := formed.letters_mem group listed
  rw [key] at sourceMem letterMem
  exact ⟨sourceMem, letterMem, formed.targets_mem group listed target member⟩

theorem path_nil_iff : automaton.Path source [] target ↔ source = target := by
  constructor
  · intro path
    cases path
    rfl
  · rintro rfl
    exact .here source

theorem path_cons_iff {letter : Symbol} :
    automaton.Path source (letter :: word) target ↔
      ∃ next ∈ automaton.targets source letter, automaton.Path next word target := by
  constructor
  · intro path
    cases path with
    | step transition rest => exact ⟨_, transition, rest⟩
  · rintro ⟨next, transition, rest⟩
    exact .step transition rest

theorem accepts_iff_exists_path :
    automaton.accepts word = true ↔
      ∃ state ∈ automaton.finals, automaton.Path automaton.initial word state := by
  simp only [accepts, List.any_eq_true, OrderedSet.mem_toList, mem_reached, decide_eq_true_eq]
  exact ⟨fun ⟨state, path, isFinal⟩ => ⟨state, isFinal, path⟩,
    fun ⟨state, isFinal, path⟩ => ⟨state, path, isFinal⟩⟩

/-- Each letter of the word leads from the state visited before it to the next one. -/
def Visits (automaton : Automaton) (word : Word) (visited : Fin (word.length + 1) → Symbol) :
    Prop :=
  ∀ index : Fin word.length,
    visited index.succ ∈ automaton.targets (visited index.castSucc) (word.get index)

/-- Declared states that a word leads through, from the initial state to a final one. -/
structure AcceptingRun (automaton : Automaton) (word : Word) where
  visited : Fin (word.length + 1) → Symbol
  declared : ∀ index, visited index ∈ automaton.states
  starts : visited 0 = automaton.initial
  visits : automaton.Visits word visited
  ends : visited (Fin.last word.length) ∈ automaton.finals

theorem Visits.cons {letter : Symbol} {visited : Fin (word.length + 1) → Symbol}
    (transition : visited 0 ∈ automaton.targets source letter)
    (visits : automaton.Visits word visited) :
    automaton.Visits (letter :: word) (Fin.cons source visited) := by
  intro index
  cases index using Fin.cases with
  | zero => exact transition
  | succ later => exact visits later

theorem Visits.path {visited : Fin (word.length + 1) → Symbol}
    (visits : automaton.Visits word visited) :
    automaton.Path (visited 0) word (visited (Fin.last word.length)) := by
  induction word with
  | nil => exact .here (visited 0)
  | cons letter word induction =>
      have transition : visited 1 ∈ automaton.targets (visited 0) letter := visits 0
      have later : automaton.Visits word fun index => visited index.succ :=
        fun index => visits index.succ
      exact .step transition (induction later)

theorem Path.exists_visits (path : automaton.Path source word target) :
    ∃ visited : Fin (word.length + 1) → Symbol, visited 0 = source ∧
      automaton.Visits word visited ∧ visited (Fin.last word.length) = target := by
  induction path with
  | here state => exact ⟨fun _ => state, rfl, fun index => index.elim0, rfl⟩
  | @step source letter next target word transition _ induction =>
      obtain ⟨visited, starts, visits, ends⟩ := induction
      have first : visited 0 ∈ automaton.targets source letter := starts.symm ▸ transition
      exact ⟨Fin.cons source visited, rfl, visits.cons first, ends⟩

theorem Visits.declared (formed : automaton.WellFormed)
    {visited : Fin (word.length + 1) → Symbol} (visits : automaton.Visits word visited)
    (starts : visited 0 ∈ automaton.states) (index : Fin (word.length + 1)) :
    visited index ∈ automaton.states := by
  cases index using Fin.cases with
  | zero => exact starts
  | succ previous => exact (formed.declared_of_mem_targets (visits previous)).2.2

theorem Visits.mem_alphabet (formed : automaton.WellFormed)
    {visited : Fin (word.length + 1) → Symbol} (visits : automaton.Visits word visited)
    {letter : Symbol} (member : letter ∈ word) : letter ∈ automaton.alphabet := by
  obtain ⟨index, rfl⟩ := List.get_of_mem member
  exact (formed.declared_of_mem_targets (visits index)).2.1

theorem AcceptingRun.accepts (run : automaton.AcceptingRun word) :
    automaton.accepts word = true := by
  have path := run.visits.path
  rw [run.starts] at path
  exact accepts_iff_exists_path.2 ⟨_, run.ends, path⟩

theorem WellFormed.nonempty_acceptingRun (formed : automaton.WellFormed)
    (accepted : automaton.accepts word = true) : Nonempty (automaton.AcceptingRun word) := by
  obtain ⟨state, isFinal, path⟩ := accepts_iff_exists_path.1 accepted
  obtain ⟨visited, starts, visits, ends⟩ := path.exists_visits
  have declared := visits.declared formed (starts.symm ▸ formed.initial_mem)
  exact ⟨⟨visited, declared, starts, visits, ends.symm ▸ isFinal⟩⟩

/-- Follows a word from all these states at once, and gives it up as soon as a letter leaves
no state. -/
def searchFrom (automaton : Automaton) (states : OrderedSet Symbol) : Word → Bool
  | [] => states.toList.any fun state => decide (state ∈ automaton.finals)
  | letter :: word =>
      let next := automaton.advance states letter
      if next.toList.isEmpty then false else searchFrom automaton next word

theorem exists_path_cons_iff {states : OrderedSet Symbol} {letter : Symbol} :
    (∃ source ∈ states, ∃ target ∈ automaton.finals,
        automaton.Path source (letter :: word) target) ↔
      ∃ next ∈ automaton.advance states letter, ∃ target ∈ automaton.finals,
        automaton.Path next word target := by
  simp only [path_cons_iff, mem_advance]
  constructor
  · rintro ⟨source, member, target, isFinal, next, transition, path⟩
    exact ⟨next, ⟨source, member, transition⟩, target, isFinal, path⟩
  · rintro ⟨next, ⟨source, member, transition⟩, target, isFinal, path⟩
    exact ⟨source, member, target, isFinal, next, transition, path⟩

theorem searchFrom_iff_exists_path {states : OrderedSet Symbol} :
    automaton.searchFrom states word = true ↔
      ∃ source ∈ states, ∃ target ∈ automaton.finals, automaton.Path source word target := by
  induction word generalizing states with
  | nil =>
      simp only [searchFrom, List.any_eq_true, OrderedSet.mem_toList, decide_eq_true_eq,
        path_nil_iff]
      constructor
      · rintro ⟨state, member, isFinal⟩
        exact ⟨state, member, state, isFinal, rfl⟩
      · rintro ⟨state, member, _, isFinal, rfl⟩
        exact ⟨state, member, isFinal⟩
  | cons letter word induction =>
      rw [searchFrom, exists_path_cons_iff]
      split
      · next left =>
          -- The word is given up here, and there is no state to go on from.
          have nowhere := List.isEmpty_iff.1 left
          simp only [Bool.false_eq_true, false_iff]
          rintro ⟨next, member, _⟩
          rw [← OrderedSet.mem_toList, nowhere] at member
          exact List.not_mem_nil member
      · exact induction

/-- A word is accepted exactly if the automaton has an accepting run on it. Giving a word up
when no state is left loses none, and words with letters outside the alphabet are refused. -/
theorem accepts_iff_nonempty_acceptingRun (formed : automaton.WellFormed) (word : Word) :
    (automaton.accepts word = true ↔ Nonempty (automaton.AcceptingRun word)) ∧
      automaton.searchFrom (.ofList [automaton.initial]) word = automaton.accepts word ∧
      ((∃ letter ∈ word, ¬ letter ∈ automaton.alphabet) → automaton.accepts word = false) := by
  refine ⟨⟨formed.nonempty_acceptingRun, fun ⟨run⟩ => run.accepts⟩, ?_, ?_⟩
  · rw [Bool.eq_iff_iff, searchFrom_iff_exists_path, accepts_iff_exists_path]
    simp
  · rintro ⟨letter, member, foreign⟩
    rw [Bool.eq_false_iff]
    intro accepted
    obtain ⟨run⟩ := formed.nonempty_acceptingRun accepted
    exact foreign (run.visits.mem_alphabet formed member)

/-- An automaton with two ways to go on from its initial state, one of which ends at a key
without targets. A letter has the name of a state. -/
def forked : Automaton :=
  .ofLists [⟨"p"⟩, ⟨"q"⟩, ⟨"b"⟩] [⟨"a"⟩, ⟨"b"⟩]
    [((⟨"p"⟩, ⟨"a"⟩), [⟨"q"⟩, ⟨"p"⟩]), ((⟨"q"⟩, ⟨"a"⟩), []), ((⟨"q"⟩, ⟨"b"⟩), [⟨"b"⟩])]
    ⟨"p"⟩ [⟨"b"⟩]

theorem forked_acceptingRun :
    forked.WellFormed ∧ Nonempty (forked.AcceptingRun (Word.ofText "aab")) ∧
      ⟨"c"⟩ ∈ Word.ofText "abc" ∧ ¬ ⟨"c"⟩ ∈ forked.alphabet ∧
      forked.accepts (Word.ofText "abc") = false := by
  have formed : forked.WellFormed := defect?_eq_none_iff.1 (by decide)
  have accepted : forked.accepts (Word.ofText "aab") = true := by decide
  have member : ⟨"c"⟩ ∈ Word.ofText "abc" := by decide
  have foreign : ¬ ⟨"c"⟩ ∈ forked.alphabet := by decide
  have run := (accepts_iff_nonempty_acceptingRun formed _).1.1 accepted
  have refused := (accepts_iff_nonempty_acceptingRun formed _).2.2 ⟨_, member, foreign⟩
  exact ⟨formed, run, member, foreign, refused⟩

end Automaton
end RightLinear
