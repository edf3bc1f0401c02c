import RightLinear.Automaton.Basic
import RightLinear.Grammar.Basic
import RightLinear.Proofs.Automaton.Run
import RightLinear.Proofs.Grammar.Derivation
import RightLinear.Proofs.Regrouping
import RightLinear.Proofs.Results

/-! # What declarations add up to

Each declaration adds symbols of one kind or productions or transitions, and touches nothing
else. So what is put together from some declarations is given by the lists of all that they
mention, and up to order by the sets of it. Whether the parts fit is asked at the end only,
and is a question about these sets as well.
-/

namespace RightLinear

namespace Grammar

variable {grammar : Grammar} {start : Symbol} {declarations : List Declaration}

namespace Declaration

def addedNonTerminals : Declaration → List Symbol
  | .nonTerminals symbols => symbols
  | _ => []

def addedTerminals : Declaration → List Symbol
  | .terminals symbols => symbols
  | _ => []

/-- The productions that are added, one for each alternative. -/
def addedProductions : Declaration → List (Symbol × RightSide)
  | .productions left alternatives => alternatives.map (left, ·)
  | _ => []

end Declaration

def declaredNonTerminals (declarations : List Declaration) : List Symbol :=
  declarations.flatMap Declaration.addedNonTerminals

def declaredTerminals (declarations : List Declaration) : List Symbol :=
  declarations.flatMap Declaration.addedTerminals

/-- All productions that are declared, in the order in which they are mentioned. -/
def declaredProductions (declarations : List Declaration) : List (Symbol × RightSide) :=
  declarations.flatMap Declaration.addedProductions

theorem declare_eq (grammar : Grammar) (declaration : Declaration) :
    grammar.declare declaration =
      ⟨grammar.nonTerminals.insertAll declaration.addedNonTerminals,
        grammar.terminals.insertAll declaration.addedTerminals,
        grammar.productions.mergeAll
          (declaration.addedProductions.map fun production => (production.1, [production.2])),
        grammar.start⟩ := by
  cases declaration with
  | nonTerminals symbols => rfl
  | terminals symbols => rfl
  | productions left alternatives =>
      cases alternatives with
      | nil => rfl
      | cons first others =>
          have merged := Grouping.mergeAll_merge_singletons grammar.productions left [first] others
          have steps : (Declaration.productions left (first :: others)).addedProductions.map
              (fun production => (production.1, [production.2])) =
                (left, [first]) :: others.map fun side => (left, [side]) := by
            simp [Declaration.addedProductions]
          rw [steps]
          change _ = Grammar.mk _ _ ((grammar.productions.merge left [first]).mergeAll _) _
          rw [merged]
          rfl

theorem foldl_declare (grammar : Grammar) (declarations : List Declaration) :
    declarations.foldl declare grammar =
      ⟨grammar.nonTerminals.insertAll (declaredNonTerminals declarations),
        grammar.terminals.insertAll (declaredTerminals declarations),
        grammar.productions.mergeAll
          ((declaredProductions declarations).map
            fun production => (production.1, [production.2])),
        grammar.start⟩ := by
  induction declarations generalizing grammar with
  | nil => rfl
  | cons declaration declarations induction =>
      rw [List.foldl_cons, induction, declare_eq]
      simp only [declaredNonTerminals, declaredTerminals, declaredProductions,
        List.flatMap_cons, List.map_append, OrderedSet.insertAll_append,
        Grouping.mergeAll_append]

theorem ofDeclarations_eq_ofLists (start : Symbol) (declarations : List Declaration) :
    ofDeclarations start declarations =
      ofLists (declaredNonTerminals declarations)
        (declaredTerminals declarations)
        ((declaredProductions declarations).map
          fun production => (production.1, [production.2])) start :=
  foldl_declare (blank start) declarations

/-- Declarations that mention the same symbols and the same productions, in whatever order,
distributed in whatever way and as often as they like. -/
structure SameDeclared (first second : List Declaration) : Prop where
  nonTerminals : ∀ symbol, symbol ∈ declaredNonTerminals first ↔
    symbol ∈ declaredNonTerminals second
  terminals : ∀ symbol, symbol ∈ declaredTerminals first ↔
    symbol ∈ declaredTerminals second
  productions : ∀ production, production ∈ declaredProductions first ↔
    production ∈ declaredProductions second

/-- What is declared fits together: the start is among the non-terminals, and productions
replace non-terminals by the empty word or by some declared symbols. -/
structure Coherent (start : Symbol) (declarations : List Declaration) : Prop where
  start_mem : start ∈ declaredNonTerminals declarations
  left_mem : ∀ left side, (left, side) ∈ declaredProductions declarations →
    left ∈ declaredNonTerminals declarations
  right_ne_nil : ∀ left word,
    (left, .symbols word) ∈ declaredProductions declarations → word ≠ []
  right_mem : ∀ left word,
    (left, .symbols word) ∈ declaredProductions declarations →
      ∀ symbol ∈ word, symbol ∈ declaredTerminals declarations ∨
        symbol ∈ declaredNonTerminals declarations

/-- A grammar that has what is declared and nothing else. Only a symbol that some alternative
is declared for is a key. -/
structure ConsistsOf (grammar : Grammar) (start : Symbol) (declarations : List Declaration) :
    Prop where
  start_eq : grammar.start = start
  mem_nonTerminals_iff : ∀ symbol, symbol ∈ grammar.nonTerminals ↔
    symbol ∈ declaredNonTerminals declarations
  mem_terminals_iff : ∀ symbol, symbol ∈ grammar.terminals ↔
    symbol ∈ declaredTerminals declarations
  mem_alternatives_iff : ∀ left side, side ∈ grammar.alternatives left ↔
    (left, side) ∈ declaredProductions declarations
  mem_keys_iff : ∀ left, left ∈ grammar.productions.keys ↔
    ∃ side, (left, side) ∈ declaredProductions declarations

theorem consistsOf_ofDeclarations (start : Symbol) (declarations : List Declaration) :
    (ofDeclarations start declarations).ConsistsOf start declarations := by
  rw [ofDeclarations_eq_ofLists]
  exact {
    start_eq := rfl
    mem_nonTerminals_iff := fun _ => OrderedSet.mem_ofList
    mem_terminals_iff := fun _ => OrderedSet.mem_ofList
    mem_alternatives_iff := fun _ _ => Grouping.mem_values_ofList_singletons
    mem_keys_iff := fun _ => Grouping.mem_keys_ofList_singletons }

namespace ConsistsOf

theorem same {first second : Grammar} {firstDeclarations secondDeclarations : List Declaration}
    (consists : first.ConsistsOf start firstDeclarations)
    (otherConsists : second.ConsistsOf start secondDeclarations)
    (alike : SameDeclared firstDeclarations secondDeclarations) : first.Same second := by
  refine ⟨OrderedSet.same_iff.2 ?_, OrderedSet.same_iff.2 ?_, Grouping.same_of_members ?_ ?_, ?_⟩
  · intro symbol
    rw [consists.mem_nonTerminals_iff, otherConsists.mem_nonTerminals_iff, alike.nonTerminals]
  · intro symbol
    rw [consists.mem_terminals_iff, otherConsists.mem_terminals_iff, alike.terminals]
  · intro left
    simp only [consists.mem_keys_iff, otherConsists.mem_keys_iff, alike.productions]
  · intro left side
    change side ∈ first.alternatives left ↔ side ∈ second.alternatives left
    rw [consists.mem_alternatives_iff, otherConsists.mem_alternatives_iff, alike.productions]
  · rw [consists.start_eq, otherConsists.start_eq]

theorem declares_iff (consists : grammar.ConsistsOf start declarations) {symbol : Symbol} :
    grammar.Declares symbol ↔
      symbol ∈ declaredTerminals declarations ∨
        symbol ∈ declaredNonTerminals declarations :=
  or_congr (consists.mem_terminals_iff symbol) (consists.mem_nonTerminals_iff symbol)

theorem wellFormed_iff (consists : grammar.ConsistsOf start declarations) :
    grammar.WellFormed ↔ Coherent start declarations := by
  constructor
  · intro formed
    have production : ∀ left side, (left, side) ∈ declaredProductions declarations →
        side ∈ grammar.alternatives left :=
      fun left side => (consists.mem_alternatives_iff left side).2
    constructor
    · rw [← consists.mem_nonTerminals_iff, ← consists.start_eq]
      exact formed.start_mem
    · intro left side declared
      rw [← consists.mem_nonTerminals_iff]
      exact formed.left_mem (production left side declared)
    · intro left word declared
      exact (formed.admits_of_mem (production left _ declared)).1
    · intro left word declared symbol member
      rw [← consists.declares_iff]
      exact (formed.admits_of_mem (production left _ declared)).2 symbol member
  · intro coherent
    constructor
    · rw [consists.mem_nonTerminals_iff, consists.start_eq]
      exact coherent.start_mem
    · intro group listed
      have isKey : group.1 ∈ grammar.productions.keys := List.mem_map.2 ⟨group, listed, rfl⟩
      obtain ⟨side, declared⟩ := (consists.mem_keys_iff group.1).1 isKey
      rw [consists.mem_nonTerminals_iff]
      exact coherent.left_mem group.1 side declared
    · intro group listed side member
      have declared := (consists.mem_alternatives_iff group.1 side).1
        (mem_alternatives_of_mem_group listed member)
      cases side with
      | epsilon => trivial
      | symbols word =>
          refine ⟨coherent.right_ne_nil group.1 word declared, ?_⟩
          intro symbol inWord
          rw [consists.declares_iff]
          exact coherent.right_mem group.1 word declared symbol inWord

end ConsistsOf

theorem SameDeclared.coherent {first second : List Declaration}
    (alike : SameDeclared first second) (coherent : Coherent start first) :
    Coherent start second := by
  obtain ⟨nonTerminals, terminals, productions⟩ := alike
  obtain ⟨start_mem, left_mem, right_ne_nil, right_mem⟩ := coherent
  simp only [nonTerminals, terminals, productions] at start_mem left_mem right_ne_nil right_mem
  exact ⟨start_mem, left_mem, right_ne_nil, right_mem⟩

theorem SameDeclared.symm {first second : List Declaration} (alike : SameDeclared first second) :
    SameDeclared second first where
  nonTerminals symbol := (alike.nonTerminals symbol).symm
  terminals symbol := (alike.terminals symbol).symm
  productions production := (alike.productions production).symm

theorem exists_checked_ofDeclarations_iff :
    (∃ grammar, (ofDeclarations start declarations).checked = .ok grammar) ↔
      Coherent start declarations := by
  rw [← (consistsOf_ofDeclarations start declarations).wellFormed_iff]
  simp only [checked_eq_ok_iff, exists_eq_left']

theorem consistsOf_of_checked (built : (ofDeclarations start declarations).checked = .ok grammar) :
    grammar.ConsistsOf start declarations := by
  obtain ⟨rfl, _⟩ := checked_eq_ok_iff.1 built
  exact consistsOf_ofDeclarations start declarations

theorem SameDeclared.checked {first second : List Declaration}
    (alike : SameDeclared first second) (start : Symbol) :
    (∃ defect other, (ofDeclarations start first).checked = .error defect ∧
        (ofDeclarations start second).checked = .error other) ∨
      ∃ grammar other, (ofDeclarations start first).checked = .ok grammar ∧
        (ofDeclarations start second).checked = .ok other ∧ grammar.Same other := by
  have together : (∃ grammar, (ofDeclarations start first).checked = .ok grammar) ↔
      ∃ other, (ofDeclarations start second).checked = .ok other := by
    rw [exists_checked_ofDeclarations_iff, exists_checked_ofDeclarations_iff]
    exact ⟨alike.coherent, alike.symm.coherent⟩
  apply (exists_errors_or_exists_oks together).imp id
  intro both
  obtain ⟨grammar, other, built, again⟩ := both
  exact ⟨grammar, other, built, again,
    (consistsOf_of_checked built).same (consistsOf_of_checked again) alike⟩

end Grammar

namespace Automaton

variable {automaton : Automaton} {initial : Symbol} {declarations : List Declaration}

namespace Declaration

def addedStates : Declaration → List Symbol
  | .states symbols => symbols
  | _ => []

def addedLetters : Declaration → List Symbol
  | .alphabet symbols => symbols
  | _ => []

def addedFinals : Declaration → List Symbol
  | .finals symbols => symbols
  | _ => []

/-- The transition that is added, as a source and a letter with a target. -/
def addedTransitions : Declaration → List ((Symbol × Symbol) × Symbol)
  | .transition source letter target => [((source, letter), target)]
  | _ => []

end Declaration

def declaredStates (declarations : List Declaration) : List Symbol :=
  declarations.flatMap Declaration.addedStates

def declaredLetters (declarations : List Declaration) : List Symbol :=
  declarations.flatMap Declaration.addedLetters

def declaredFinals (declarations : List Declaration) : List Symbol :=
  declarations.flatMap Declaration.addedFinals

/-- All transitions that are declared, in the order in which they are mentioned. -/
def declaredTransitions (declarations : List Declaration) : List ((Symbol × Symbol) × Symbol) :=
  declarations.flatMap Declaration.addedTransitions

theorem declare_eq (automaton : Automaton) (declaration : Declaration) :
    automaton.declare declaration =
      ⟨automaton.states.insertAll declaration.addedStates,
        automaton.alphabet.insertAll declaration.addedLetters,
        automaton.transitions.mergeAll
          (declaration.addedTransitions.map fun transition => (transition.1, [transition.2])),
        automaton.initial, automaton.finals.insertAll declaration.addedFinals⟩ := by
  cases declaration with
  | states symbols => rfl
  | alphabet symbols => rfl
  | finals symbols => rfl
  | transition source letter target => rfl

theorem foldl_declare (automaton : Automaton) (declarations : List Declaration) :
    declarations.foldl declare automaton =
      ⟨automaton.states.insertAll (declaredStates declarations),
        automaton.alphabet.insertAll (declaredLetters declarations),
        automaton.transitions.mergeAll
          ((declaredTransitions declarations).map
            fun transition => (transition.1, [transition.2])),
        automaton.initial, automaton.finals.insertAll (declaredFinals declarations)⟩ := by
  induction declarations generalizing automaton with
  | nil => rfl
  | cons declaration declarations induction =>
      rw [List.foldl_cons, induction, declare_eq]
      simp only [declaredStates, declaredLetters, declaredFinals, declaredTransitions,
        List.flatMap_cons, List.map_append, OrderedSet.insertAll_append,
        Grouping.mergeAll_append]

theorem ofDeclarations_eq_ofLists (initial : Symbol) (declarations : List Declaration) :
    ofDeclarations initial declarations =
      ofLists (declaredStates declarations) (declaredLetters declarations)
        ((declaredTransitions declarations).map
          fun transition => (transition.1, [transition.2])) initial
        (declaredFinals declarations) :=
  foldl_declare (blank initial) declarations

/-- Declarations that mention the same states, letters and transitions, in whatever order,
distributed in whatever way and as often as they like. -/
structure SameDeclared (first second : List Declaration) : Prop where
  states : ∀ state, state ∈ declaredStates first ↔ state ∈ declaredStates second
  letters : ∀ letter, letter ∈ declaredLetters first ↔ letter ∈ declaredLetters second
  finals : ∀ state, state ∈ declaredFinals first ↔ state ∈ declaredFinals second
  transitions : ∀ transition, transition ∈ declaredTransitions first ↔
    transition ∈ declaredTransitions second

/-- What is declared fits together: the initial state, the final states, and the sources and
targets of the transitions are states, and their letters are in the alphabet. -/
structure Coherent (initial : Symbol) (declarations : List Declaration) : Prop where
  initial_mem : initial ∈ declaredStates declarations
  finals_mem : ∀ state ∈ declaredFinals declarations, state ∈ declaredStates declarations
  source_mem : ∀ source letter target,
    ((source, letter), target) ∈ declaredTransitions declarations →
      source ∈ declaredStates declarations
  letter_mem : ∀ source letter target,
    ((source, letter), target) ∈ declaredTransitions declarations →
      letter ∈ declaredLetters declarations
  target_mem : ∀ source letter target,
    ((source, letter), target) ∈ declaredTransitions declarations →
      target ∈ declaredStates declarations

/-- An automaton that has what is declared and nothing else. Only a source and letter that
some target is declared for are a key. -/
structure ConsistsOf (automaton : Automaton) (initial : Symbol)
    (declarations : List Declaration) : Prop where
  initial_eq : automaton.initial = initial
  mem_states_iff : ∀ state, state ∈ automaton.states ↔ state ∈ declaredStates declarations
  mem_alphabet_iff : ∀ letter, letter ∈ automaton.alphabet ↔
    letter ∈ declaredLetters declarations
  mem_finals_iff : ∀ state, state ∈ automaton.finals ↔ state ∈ declaredFinals declarations
  mem_targets_iff : ∀ source letter target, target ∈ automaton.targets source letter ↔
    ((source, letter), target) ∈ declaredTransitions declarations
  mem_keys_iff : ∀ source letter, (source, letter) ∈ automaton.transitions.keys ↔
    ∃ target, ((source, letter), target) ∈ declaredTransitions declarations

theorem consistsOf_ofDeclarations (initial : Symbol) (declarations : List Declaration) :
    (ofDeclarations initial declarations).ConsistsOf initial declarations := by
  rw [ofDeclarations_eq_ofLists]
  exact {
    initial_eq := rfl
    mem_states_iff := fun _ => OrderedSet.mem_ofList
    mem_alphabet_iff := fun _ => OrderedSet.mem_ofList
    mem_finals_iff := fun _ => OrderedSet.mem_ofList
    mem_targets_iff := fun _ _ _ => Grouping.mem_values_ofList_singletons
    mem_keys_iff := fun _ _ => Grouping.mem_keys_ofList_singletons }

namespace ConsistsOf

theorem same {first second : Automaton} {firstDeclarations secondDeclarations : List Declaration}
    (consists : first.ConsistsOf initial firstDeclarations)
    (otherConsists : second.ConsistsOf initial secondDeclarations)
    (alike : SameDeclared firstDeclarations secondDeclarations) : first.Same second := by
  refine ⟨OrderedSet.same_iff.2 ?_, OrderedSet.same_iff.2 ?_, Grouping.same_of_members ?_ ?_, ?_,
    OrderedSet.same_iff.2 ?_⟩
  · intro state
    rw [consists.mem_states_iff, otherConsists.mem_states_iff, alike.states]
  · intro letter
    rw [consists.mem_alphabet_iff, otherConsists.mem_alphabet_iff, alike.letters]
  · intro (source, letter)
    simp only [consists.mem_keys_iff, otherConsists.mem_keys_iff, alike.transitions]
  · intro (source, letter) target
    change target ∈ first.targets source letter ↔ target ∈ second.targets source letter
    rw [consists.mem_targets_iff, otherConsists.mem_targets_iff, alike.transitions]
  · rw [consists.initial_eq, otherConsists.initial_eq]
  · intro state
    rw [consists.mem_finals_iff, otherConsists.mem_finals_iff, alike.finals]

theorem wellFormed_iff (consists : automaton.ConsistsOf initial declarations) :
    automaton.WellFormed ↔ Coherent initial declarations := by
  constructor
  · intro formed
    have declared : ∀ source letter target,
        ((source, letter), target) ∈ declaredTransitions declarations →
          source ∈ automaton.states ∧ letter ∈ automaton.alphabet ∧ target ∈ automaton.states := by
      intro source letter target listed
      exact formed.declared_of_mem_targets ((consists.mem_targets_iff source letter target).2 listed)
    constructor
    · rw [← consists.mem_states_iff, ← consists.initial_eq]
      exact formed.initial_mem
    · intro state isFinal
      rw [← consists.mem_states_iff]
      exact formed.finals_mem state ((consists.mem_finals_iff state).2 isFinal)
    · intro source letter target listed
      rw [← consists.mem_states_iff]
      exact (declared source letter target listed).1
    · intro source letter target listed
      rw [← consists.mem_alphabet_iff]
      exact (declared source letter target listed).2.1
    · intro source letter target listed
      rw [← consists.mem_states_iff]
      exact (declared source letter target listed).2.2
  · intro coherent
    have listedTarget : ∀ group ∈ automaton.transitions.groups,
        ∃ target, ((group.1.1, group.1.2), target) ∈ declaredTransitions declarations := by
      intro group listed
      exact (consists.mem_keys_iff group.1.1 group.1.2).1 (List.mem_map.2 ⟨group, listed, rfl⟩)
    constructor
    · rw [consists.mem_states_iff, consists.initial_eq]
      exact coherent.initial_mem
    · intro state isFinal
      rw [consists.mem_states_iff]
      exact coherent.finals_mem state ((consists.mem_finals_iff state).1 isFinal)
    · intro group listed
      obtain ⟨target, declared⟩ := listedTarget group listed
      rw [consists.mem_states_iff]
      exact coherent.source_mem _ _ target declared
    · intro group listed
      obtain ⟨target, declared⟩ := listedTarget group listed
      rw [consists.mem_alphabet_iff]
      exact coherent.letter_mem _ _ target declared
    · intro group listed target member
      have declared := (consists.mem_targets_iff group.1.1 group.1.2 target).1
        (mem_targets_of_mem_group listed member)
      rw [consists.mem_states_iff]
      exact coherent.target_mem _ _ target declared

end ConsistsOf

theorem SameDeclared.symm {first second : List Declaration} (alike : SameDeclared first second) :
    SameDeclared second first where
  states state := (alike.states state).symm
  letters letter := (alike.letters letter).symm
  finals state := (alike.finals state).symm
  transitions transition := (alike.transitions transition).symm

theorem SameDeclared.coherent {first second : List Declaration}
    (alike : SameDeclared first second) (coherent : Coherent initial first) :
    Coherent initial second := by
  obtain ⟨states, letters, finals, transitions⟩ := alike
  obtain ⟨initial_mem, finals_mem, source_mem, letter_mem, target_mem⟩ := coherent
  simp only [states, finals] at initial_mem finals_mem
  simp only [states, letters, transitions] at source_mem letter_mem target_mem
  exact ⟨initial_mem, finals_mem, source_mem, letter_mem, target_mem⟩

theorem exists_checked_ofDeclarations_iff :
    (∃ automaton, (ofDeclarations initial declarations).checked = .ok automaton) ↔
      Coherent initial declarations := by
  rw [← (consistsOf_ofDeclarations initial declarations).wellFormed_iff]
  simp only [checked_eq_ok_iff, exists_eq_left']

theorem consistsOf_of_checked
    (built : (ofDeclarations initial declarations).checked = .ok automaton) :
    automaton.ConsistsOf initial declarations := by
  obtain ⟨rfl, _⟩ := checked_eq_ok_iff.1 built
  exact consistsOf_ofDeclarations initial declarations

theorem SameDeclared.checked {first second : List Declaration}
    (alike : SameDeclared first second) (initial : Symbol) :
    (∃ defect other, (ofDeclarations initial first).checked = .error defect ∧
        (ofDeclarations initial second).checked = .error other) ∨
      ∃ automaton other, (ofDeclarations initial first).checked = .ok automaton ∧
        (ofDeclarations initial second).checked = .ok other ∧ automaton.Same other := by
  have together : (∃ automaton, (ofDeclarations initial first).checked = .ok automaton) ↔
      ∃ other, (ofDeclarations initial second).checked = .ok other := by
    rw [exists_checked_ofDeclarations_iff, exists_checked_ofDeclarations_iff]
    exact ⟨alike.coherent, alike.symm.coherent⟩
  apply (exists_errors_or_exists_oks together).imp id
  intro both
  obtain ⟨automaton, other, built, again⟩ := both
  exact ⟨automaton, other, built, again,
    (consistsOf_of_checked built).same (consistsOf_of_checked again) alike⟩

end Automaton

/-- What is put together from declarations depends, up to order, on the sets of what they
mention only, and so does whether it is accepted. It is accepted exactly if these sets fit
together, and it then consists of just what has been declared. -/
theorem built_from_declared_sets :
    (∀ (start : Symbol) (first second : List Grammar.Declaration),
        Grammar.SameDeclared first second →
          (∃ defect other, (Grammar.ofDeclarations start first).checked = .error defect ∧
              (Grammar.ofDeclarations start second).checked = .error other) ∨
            ∃ grammar other, (Grammar.ofDeclarations start first).checked = .ok grammar ∧
              (Grammar.ofDeclarations start second).checked = .ok other ∧ grammar.Same other) ∧
      (∀ (start : Symbol) (declarations : List Grammar.Declaration),
        ((∃ grammar, (Grammar.ofDeclarations start declarations).checked = .ok grammar) ↔
            Grammar.Coherent start declarations) ∧
          ∀ grammar, (Grammar.ofDeclarations start declarations).checked = .ok grammar →
            grammar.ConsistsOf start declarations) ∧
      (∀ (initial : Symbol) (first second : List Automaton.Declaration),
        Automaton.SameDeclared first second →
          (∃ defect other, (Automaton.ofDeclarations initial first).checked = .error defect ∧
              (Automaton.ofDeclarations initial second).checked = .error other) ∨
            ∃ automaton other,
              (Automaton.ofDeclarations initial first).checked = .ok automaton ∧
                (Automaton.ofDeclarations initial second).checked = .ok other ∧
                automaton.Same other) ∧
      ∀ (initial : Symbol) (declarations : List Automaton.Declaration),
        ((∃ automaton, (Automaton.ofDeclarations initial declarations).checked = .ok automaton) ↔
            Automaton.Coherent initial declarations) ∧
          ∀ automaton, (Automaton.ofDeclarations initial declarations).checked = .ok automaton →
            automaton.ConsistsOf initial declarations := by
  refine ⟨fun start _ _ alike => alike.checked start, ?_,
    fun initial _ _ alike => alike.checked initial, ?_⟩
  · intro start declarations
    exact ⟨Grammar.exists_checked_ofDeclarations_iff,
      fun _ built => Grammar.consistsOf_of_checked built⟩
  · intro initial declarations
    exact ⟨Automaton.exists_checked_ofDeclarations_iff,
      fun _ built => Automaton.consistsOf_of_checked built⟩

/-- A grammar with one declaration for each kind of symbol and each non-terminal. -/
def gathered : List Grammar.Declaration :=
  [.nonTerminals [⟨"S"⟩, ⟨"A"⟩], .terminals [⟨"a"⟩, ⟨"b"⟩],
    .productions ⟨"S"⟩ [.symbols [⟨"a"⟩, ⟨"A"⟩], .symbols [⟨"b"⟩]],
    .productions ⟨"A"⟩ [.epsilon]]

/-- The same symbols and productions, mixed up and in part repeated. Nothing is declared for
`B`, which does not become a key. -/
def scattered : List Grammar.Declaration :=
  [.productions ⟨"A"⟩ [.epsilon], .terminals [⟨"b"⟩], .productions ⟨"S"⟩ [.symbols [⟨"b"⟩]],
    .productions ⟨"B"⟩ [], .nonTerminals [⟨"A"⟩],
    .productions ⟨"S"⟩ [.symbols [⟨"b"⟩], .symbols [⟨"a"⟩, ⟨"A"⟩]], .terminals [⟨"a"⟩, ⟨"b"⟩],
    .nonTerminals [⟨"A"⟩, ⟨"S"⟩]]

/-- Transitions with targets that are no states. -/
def astray : List Automaton.Declaration :=
  [.states [⟨"p"⟩], .transition ⟨"p"⟩ ⟨"a"⟩ ⟨"q"⟩, .alphabet [⟨"a"⟩],
    .transition ⟨"p"⟩ ⟨"a"⟩ ⟨"r"⟩]

theorem gathered_and_astray_built :
    Grammar.SameDeclared gathered scattered ∧
      (∃ grammar other, (Grammar.ofDeclarations ⟨"S"⟩ gathered).checked = .ok grammar ∧
        (Grammar.ofDeclarations ⟨"S"⟩ scattered).checked = .ok other ∧ grammar.Same other ∧
        grammar ≠ other ∧ other.ConsistsOf ⟨"S"⟩ scattered) ∧
      Automaton.SameDeclared astray astray.reverse ∧
      ∃ defect other, (Automaton.ofDeclarations ⟨"p"⟩ astray).checked = .error defect ∧
        (Automaton.ofDeclarations ⟨"p"⟩ astray.reverse).checked = .error other ∧
        defect ≠ other := by
  have alike : Grammar.SameDeclared gathered scattered := by
    have nonTerminals : Grammar.declaredNonTerminals gathered ⊆
        Grammar.declaredNonTerminals scattered ∧ Grammar.declaredNonTerminals scattered ⊆
        Grammar.declaredNonTerminals gathered := by decide
    have terminals : Grammar.declaredTerminals gathered ⊆ Grammar.declaredTerminals scattered ∧
        Grammar.declaredTerminals scattered ⊆ Grammar.declaredTerminals gathered := by decide
    have productions : Grammar.declaredProductions gathered ⊆
        Grammar.declaredProductions scattered ∧ Grammar.declaredProductions scattered ⊆
        Grammar.declaredProductions gathered := by decide
    exact ⟨fun _ => ⟨(nonTerminals.1 ·), (nonTerminals.2 ·)⟩,
      fun _ => ⟨(terminals.1 ·), (terminals.2 ·)⟩,
      fun _ => ⟨(productions.1 ·), (productions.2 ·)⟩⟩
  have turned : Automaton.SameDeclared astray astray.reverse := by
    constructor
    · simp [Automaton.declaredStates, List.mem_flatMap]
    · simp [Automaton.declaredLetters, List.mem_flatMap]
    · simp [Automaton.declaredFinals, List.mem_flatMap]
    · simp [Automaton.declaredTransitions, List.mem_flatMap]
  obtain ⟨together, declared, automataTogether, _⟩ := built_from_declared_sets
  refine ⟨alike, ?_, turned, ?_⟩
  · rcases together ⟨"S"⟩ gathered scattered alike with ⟨_, _, refused, _⟩ |
      ⟨grammar, other, built, again, same⟩
    · exact nomatch refused
    · have apart : grammar ≠ other := by
        cases built
        cases again
        decide
      exact ⟨grammar, other, built, again, same, apart, (declared _ _).2 other again⟩
  · rcases automataTogether ⟨"p"⟩ astray astray.reverse turned with
      ⟨defect, other, refused, again⟩ | ⟨_, _, built, _⟩
    · have apart : defect ≠ other := by
        cases refused
        cases again
        decide
      exact ⟨defect, other, refused, again, apart⟩
    · exact nomatch built

end RightLinear
