import Mathlib.Data.List.Basic
import RightLinear.Layout.Automaton
import RightLinear.Proofs.Automaton.Run
import RightLinear.Proofs.Layout.Rows
import RightLinear.Proofs.Regrouping

/-! # Automata as they are read and written

A text describes an automaton if it has four header rows, the third of a single
symbol, and only transitions or nothing on its later rows, and if the automaton of
these rows is well-formed. The written form has one line for each target, and the
lines of one source and letter are grouped again when they are read. So an
automaton is read back exactly as it was, if its names are tokens and each source
and letter that it lists has a target.
-/

namespace RightLinear
namespace Automaton

open Layout

variable {automaton : Automaton} {text : String}

/-- The transition that a row after the headers declares. -/
def transitionOfRow? : List Symbol → Option ((Symbol × Symbol) × Symbol)
  | [source, letter, target] => some ((source, letter), target)
  | _ => none

theorem declarationOf_eq_ok_iff {row : Row} {result : Option Declaration} :
    declarationOf row = .ok result ↔
      (row.symbols = [] ∨ row.symbols.length = 3) ∧
        (transitionOfRow? row.symbols).map
          (fun step => .transition step.1.1 step.1.2 step.2) = result := by
  unfold declarationOf
  split
  · next blank => simp [Row.isEmpty_iff.1 blank, transitionOfRow?]
  · next filled =>
      split
      · next source letter target listed => simp [listed, transitionOfRow?]
      · next notThree =>
          simp only [reduceCtorEq, false_iff, not_and]
          rintro (blank | three)
          · exact absurd (Row.isEmpty_iff.2 blank) filled
          · obtain ⟨source, letter, target, listed⟩ := List.length_eq_three.1 three
            exact absurd listed (notThree source letter target)

theorem declarationsOf_eq_ok_iff {later : List Row} {declarations : List Declaration} :
    declarationsOf later = .ok declarations ↔
      (∀ symbols ∈ later.map Row.symbols, symbols = [] ∨ symbols.length = 3) ∧
        ((later.map Row.symbols).filterMap transitionOfRow?).map
          (fun step => .transition step.1.1 step.1.2 step.2) = declarations := by
  have reads : ∀ row result, declarationOf row = .ok result ↔
      (row.symbols = [] ∨ row.symbols.length = 3) ∧
        (transitionOfRow? row.symbols).map
          (fun step => .transition step.1.1 step.1.2 step.2) = result :=
    fun _ _ => declarationOf_eq_ok_iff
  rw [List.map_filterMap]
  exact collect_eq_ok_iff declarationOf declarationsOf rfl (fun _ _ => rfl) reads

theorem foldl_declare_transitions (steps : List ((Symbol × Symbol) × Symbol))
    (automaton : Automaton) :
    (steps.map fun step => Declaration.transition step.1.1 step.1.2 step.2).foldl declare
        automaton =
      { automaton with
        transitions := automaton.transitions.mergeAll
          (steps.map fun step => (step.1, [step.2])) } := by
  induction steps generalizing automaton with
  | nil => rfl
  | cons step steps induction =>
      rw [List.map_cons, List.foldl_cons, induction]
      rfl

theorem ofDeclarations_rows (initial : Symbol) (states alphabet finals : List Symbol)
    (later : List (List Symbol)) :
    ofDeclarations initial (.states states :: .alphabet alphabet :: .finals finals ::
        (later.filterMap transitionOfRow?).map
          fun step => .transition step.1.1 step.1.2 step.2) =
      ofLists states alphabet
        ((later.filterMap transitionOfRow?).map fun step => (step.1, [step.2]))
        initial finals := by
  rw [ofDeclarations, List.foldl_cons, List.foldl_cons, List.foldl_cons,
    foldl_declare_transitions]
  rfl

theorem ofRows_eq_ok_iff {initial : Symbol} {states alphabet finals : Row} {later : List Row} :
    ofRows initial states alphabet finals later = .ok automaton ↔
      (∀ symbols ∈ later.map Row.symbols, symbols = [] ∨ symbols.length = 3) ∧
        ofLists states.symbols alphabet.symbols
          (((later.map Row.symbols).filterMap transitionOfRow?).map
            fun step => (step.1, [step.2])) initial finals.symbols = automaton ∧
        automaton.WellFormed := by
  simp only [ofRows, bind_eq_ok_iff, declarationsOf_eq_ok_iff, mapError_eq_ok_iff,
    checked_eq_ok_iff]
  constructor
  · rintro ⟨_, ⟨fit, rfl⟩, rfl, formed⟩
    rw [ofDeclarations_rows] at formed ⊢
    exact ⟨fit, rfl, formed⟩
  · rintro ⟨fit, rfl, formed⟩
    refine ⟨_, ⟨fit, rfl⟩, ?_⟩
    rw [ofDeclarations_rows]
    exact ⟨rfl, formed⟩

/-- Which texts are read, and as what: the rows of symbols decide. -/
theorem read_eq_ok_iff :
    read text = .ok automaton ↔
      ∃ states alphabet initial finals later,
        symbolRows text = states :: alphabet :: [initial] :: finals :: later ∧
          (∀ symbols ∈ later, symbols = [] ∨ symbols.length = 3) ∧
          ofLists states alphabet
            ((later.filterMap transitionOfRow?).map fun step => (step.1, [step.2]))
            initial finals = automaton ∧
          automaton.WellFormed := by
  unfold read symbolRows
  split
  · next none => simp [none]
  · next first one => simp [one]
  · next first second two => simp [two]
  · next states alphabet initial rest cut =>
      simp only [bind_eq_ok_iff, single_eq_ok_iff, cut, List.map_cons, List.cons.injEq]
      cases rest with
      | nil => simp
      | cons finals later =>
          simp only [ofRows_eq_ok_iff, List.map_cons, List.cons.injEq]
          constructor
          · rintro ⟨symbol, only, described⟩
            exact ⟨_, _, symbol, _, _, ⟨rfl, rfl, only, rfl, rfl⟩, described⟩
          · rintro ⟨_, _, symbol, _, _, ⟨rfl, rfl, only, rfl, rfl⟩, described⟩
            exact ⟨symbol, only, described⟩

theorem wellFormed_of_read (described : read text = .ok automaton) : automaton.WellFormed := by
  obtain ⟨_, _, _, _, _, _, _, _, formed⟩ := read_eq_ok_iff.1 described
  exact formed

/-- An automaton that can be read back from its written form: its states and letters
are tokens, and each source and letter that it lists has a target. -/
structure Readable (automaton : Automaton) : Prop where
  isToken_state : ∀ state ∈ automaton.states, state.IsToken
  isToken_letter : ∀ letter ∈ automaton.alphabet, letter.IsToken
  filled : ∀ group ∈ automaton.transitions.groups, group.2.toList ≠ []

/-- Whatever the text, what is read from it can be read back from its written form. -/
theorem readable_of_read (described : read text = .ok automaton) : automaton.Readable := by
  obtain ⟨states, alphabet, initial, finals, later, cut, _, rfl, _⟩ :=
    read_eq_ok_iff.1 described
  have tokenOf : ∀ symbols ∈ symbolRows text, ∀ symbol ∈ symbols, symbol.IsToken :=
    fun symbols listed symbol => isToken_of_mem_symbolRows listed
  rw [cut, List.forall_mem_cons, List.forall_mem_cons] at tokenOf
  obtain ⟨stateTokens, letterTokens, _⟩ := tokenOf
  exact {
    isToken_state := fun state declared => stateTokens state (OrderedSet.mem_ofList.1 declared)
    isToken_letter := fun letter declared =>
      letterTokens letter (OrderedSet.mem_ofList.1 declared)
    filled := by
      intro group
      apply Grouping.toList_ne_nil_of_mem_groups_ofList
      intro step listed
      obtain ⟨transition, _, rfl⟩ := List.mem_map.1 listed
      exact List.cons_ne_nil transition.2 [] }

theorem Same.refl (automaton : Automaton) : automaton.Same automaton :=
  ⟨.refl automaton.states, .refl automaton.alphabet, .refl automaton.transitions, rfl,
    .refl automaton.finals⟩

theorem Same.readable {first second : Automaton} (same : first.Same second)
    (readable : first.Readable) : second.Readable := by
  obtain ⟨states, alphabet, transitions, _, _⟩ := same
  exact {
    isToken_state := fun state declared =>
      readable.isToken_state state ((OrderedSet.same_iff.1 states state).2 declared)
    isToken_letter := fun letter declared =>
      readable.isToken_letter letter ((OrderedSet.same_iff.1 alphabet letter).2 declared)
    filled := transitions.filled readable.filled }

/-- The symbols on the lines of the written form. -/
def sourceRows (automaton : Automaton) : List (List Symbol) :=
  automaton.states.toList :: automaton.alphabet.toList :: [automaton.initial] ::
    automaton.finals.toList ::
      automaton.transitions.pairs.map fun step => [step.1.1, step.1.2, step.2]

theorem map_text_source : automaton.source.map Piece.text = automaton.sourceRows.map lineText := by
  have later : (automaton.transitions.groups.flatMap sourceLines).map Piece.text =
      (automaton.transitions.pairs.map fun step => [step.1.1, step.1.2, step.2]).map
        lineText := by
    simp [sourceLines, Grouping.pairs, List.map_flatMap, Piece.line, lineText,
      Function.comp_def]
  rw [source, sourceRows, List.map_append, later]
  simp [Piece.line, lineText, Symbol.joined]

theorem Readable.isToken_of_mem_sourceRows (readable : automaton.Readable)
    (formed : automaton.WellFormed) :
    ∀ symbols ∈ automaton.sourceRows, ∀ symbol ∈ symbols, symbol.IsToken := by
  simp only [sourceRows, List.forall_mem_cons, List.forall_mem_map]
  refine ⟨readable.isToken_state, readable.isToken_letter,
    ⟨readable.isToken_state _ formed.initial_mem, by simp⟩,
    fun state isFinal => readable.isToken_state state (formed.finals_mem state isFinal), ?_⟩
  intro step listed
  have transition : step.2 ∈ automaton.targets step.1.1 step.1.2 := Grouping.mem_pairs.1 listed
  obtain ⟨source, letter, target⟩ := formed.declared_of_mem_targets transition
  exact ⟨readable.isToken_state _ source, readable.isToken_letter _ letter,
    readable.isToken_state _ target, by simp⟩

theorem Readable.read_source (readable : automaton.Readable) (formed : automaton.WellFormed) :
    read automaton.source.text = .ok automaton := by
  have cut := symbolRows_of_document map_text_source (readable.isToken_of_mem_sourceRows formed)
  have steps : (automaton.transitions.pairs.map fun step =>
        [step.1.1, step.1.2, step.2]).filterMap transitionOfRow? =
      automaton.transitions.pairs := by
    rw [List.filterMap_map]
    exact List.filterMap_some
  rw [read_eq_ok_iff]
  refine ⟨_, _, _, _, _, cut, ?_, ?_, formed⟩
  · intro symbols listed
    obtain ⟨step, _, rfl⟩ := List.mem_map.1 listed
    exact Or.inr rfl
  · rw [steps, ofLists, OrderedSet.ofList_toList, OrderedSet.ofList_toList,
      OrderedSet.ofList_toList, Grouping.ofList_pairs readable.filled]

/-- A well-formed automaton is read back from its written form, up to order, exactly if
it is readable, and then with every order kept. Any automaton that has been read is
read again from what is written of it. -/
theorem read_source_iff_tokens_and_filled :
    (∀ automaton : Automaton, automaton.WellFormed →
        ((∃ copy, read automaton.source.text = .ok copy ∧ copy.Same automaton) ↔
            automaton.Readable) ∧
          (automaton.Readable → read automaton.source.text = .ok automaton)) ∧
      ∀ (text : String) (automaton : Automaton), read text = .ok automaton →
        read automaton.source.text = .ok automaton := by
  constructor
  · intro automaton formed
    refine ⟨⟨?_, ?_⟩, fun readable => readable.read_source formed⟩
    · rintro ⟨copy, described, same⟩
      exact same.readable (readable_of_read described)
    · intro readable
      exact ⟨automaton, readable.read_source formed, Same.refl automaton⟩
  · intro text automaton described
    exact (readable_of_read described).read_source (wellFormed_of_read described)

/-- An automaton with names of several characters, whose transitions are written in
another order than their keys. -/
def interleaved : Automaton :=
  .ofLists [⟨"q1"⟩, ⟨"q0"⟩, ⟨"ab"⟩] [⟨"ab"⟩, ⟨"c"⟩]
    [((⟨"q0"⟩, ⟨"c"⟩), [⟨"ab"⟩, ⟨"q0"⟩]), ((⟨"ab"⟩, ⟨"ab"⟩), [⟨"q1"⟩])] ⟨"q0"⟩ []

/-- An automaton that lists a source and letter without any target. -/
def unfilled : Automaton :=
  .ofLists [⟨"p"⟩] [⟨"a"⟩] [((⟨"p"⟩, ⟨"a"⟩), [])] ⟨"p"⟩ [⟨"p"⟩]

theorem interleaved_read_source :
    read "q1 q0  ab\nab\tc\r\n q0\n\nq0 c ab\n\nab ab q1\nq0 c q0\nq0 c ab" =
        .ok interleaved ∧
      read interleaved.source.text = .ok interleaved ∧
      unfilled.WellFormed ∧
      ¬ ∃ copy, read unfilled.source.text = .ok copy ∧ copy.Same unfilled := by
  have described : read "q1 q0  ab\nab\tc\r\n q0\n\nq0 c ab\n\nab ab q1\nq0 c q0\nq0 c ab" =
      .ok interleaved := by rfl
  have formed : unfilled.WellFormed := defect?_eq_none_iff.1 (by decide)
  refine ⟨described, read_source_iff_tokens_and_filled.2 _ _ described, formed, ?_⟩
  rw [(read_source_iff_tokens_and_filled.1 unfilled formed).1]
  intro readable
  exact readable.filled ((⟨"p"⟩, ⟨"a"⟩), ∅) (by decide) rfl

end Automaton
end RightLinear
