import RightLinear.Proofs.Grouping
import RightLinear.Proofs.Layout.Automaton
import RightLinear.Proofs.Results

/-! # Which texts describe an automaton

Of a text only its rows of symbols decide whether it describes an automaton. The fourth
row must be there, but it may be empty; behind it an empty row is passed over, and the
transitions of one source and letter may stand on any rows. A later row that is neither
empty nor a transition is named by its number among all lines and quoted, whatever else
is wrong further on.
-/

namespace RightLinear
namespace Automaton

open Layout

variable {automaton : Automaton} {text : String}

/-- The third symbols of all rows that begin with this source and letter. -/
def targetsOn (source letter : Symbol) (later : List (List Symbol)) : List Symbol :=
  (later.filter fun symbols => symbols.take 2 = [source, letter]).filterMap (·[2]?)

theorem targetsOn_cons (source letter first second third : Symbol)
    (later : List (List Symbol)) :
    targetsOn source letter ([first, second, third] :: later) =
      (if (first, second) = (source, letter) then [third] else []) ++
        targetsOn source letter later := by
  unfold targetsOn
  by_cases same : (first, second) = (source, letter)
  · cases same
    rw [if_pos rfl, List.filter_cons_of_pos (by simp)]
    rfl
  · rw [if_neg same, List.filter_cons_of_neg (by simpa using same), List.nil_append]

/-- An automaton that has just what its header rows and later rows say: the first two
symbols of a later row are a key, and under it stand the third symbols of all its rows.
All are listed in the order in which they are first mentioned. -/
structure DescribedBy (automaton : Automaton) (states alphabet : List Symbol)
    (initial : Symbol) (finals : List Symbol) (later : List (List Symbol)) : Prop where
  states_eq : automaton.states = .ofList states
  alphabet_eq : automaton.alphabet = .ofList alphabet
  initial_eq : automaton.initial = initial
  finals_eq : automaton.finals = .ofList finals
  keySet_eq : automaton.transitions.keySet =
    .ofList ((later.filterMap transitionOfRow?).map Prod.fst)
  targets_eq : ∀ source letter,
    automaton.targets source letter = .ofList (targetsOn source letter later)

section Described

variable {states alphabet finals : List Symbol} {initial : Symbol} {later : List (List Symbol)}

/-- Each row of three symbols adds its target under its key, and no other row does. -/
theorem flatMap_snd_transitionSteps
    (fit : ∀ symbols ∈ later, symbols = [] ∨ symbols.length = 3) (source letter : Symbol) :
    (((later.filterMap transitionOfRow?).map fun step => (step.1, [step.2])).filter
        fun step => step.1 = (source, letter)).flatMap Prod.snd =
      targetsOn source letter later := by
  induction later with
  | nil => rfl
  | cons symbols later induction =>
      obtain ⟨fitsHere, fitLater⟩ := List.forall_mem_cons.1 fit
      have rest := induction fitLater
      rcases fitsHere with rfl | three
      · exact rest
      · obtain ⟨first, second, third, rfl⟩ := List.length_eq_three.1 three
        have declared : transitionOfRow? [first, second, third] =
            some ((first, second), third) := rfl
        rw [List.filterMap_cons_some declared, List.map_cons, targetsOn_cons, ← rest]
        by_cases same : (first, second) = (source, letter)
        · rw [if_pos same, List.filter_cons_of_pos (by simpa using same)]
          rfl
        · rw [if_neg same, List.filter_cons_of_neg (by simpa using same)]
          rfl

theorem describedBy_ofLists
    (fit : ∀ symbols ∈ later, symbols = [] ∨ symbols.length = 3) :
    (ofLists states alphabet
        ((later.filterMap transitionOfRow?).map fun step => (step.1, [step.2]))
        initial finals).DescribedBy states alphabet initial finals later where
  states_eq := rfl
  alphabet_eq := rfl
  initial_eq := rfl
  finals_eq := rfl
  keySet_eq := by
    have keys : (later.filterMap transitionOfRow?).map Prod.fst =
        ((later.filterMap transitionOfRow?).map fun step => (step.1, [step.2])).map
          Prod.fst := by
      rw [List.map_map]
      rfl
    rw [keys]
    exact Grouping.keySet_mergeAll ∅ _
  targets_eq source letter := by
    rw [← flatMap_snd_transitionSteps fit source letter]
    exact Grouping.values_mergeAll ∅ _ (source, letter)

theorem DescribedBy.unique {first second : Automaton}
    (byFirst : first.DescribedBy states alphabet initial finals later)
    (bySecond : second.DescribedBy states alphabet initial finals later) : first = second := by
  have transitions : first.transitions = second.transitions := by
    apply Grouping.eq_of_keySet_of_values
    · rw [byFirst.keySet_eq, bySecond.keySet_eq]
    · intro key
      exact (byFirst.targets_eq key.1 key.2).trans (bySecond.targets_eq key.1 key.2).symm
  have states := byFirst.states_eq.trans bySecond.states_eq.symm
  have alphabet := byFirst.alphabet_eq.trans bySecond.alphabet_eq.symm
  have initial := byFirst.initial_eq.trans bySecond.initial_eq.symm
  have finals := byFirst.finals_eq.trans bySecond.finals_eq.symm
  cases first
  cases second
  congr

theorem ofLists_eq_iff_describedBy
    (fit : ∀ symbols ∈ later, symbols = [] ∨ symbols.length = 3) :
    ofLists states alphabet
        ((later.filterMap transitionOfRow?).map fun step => (step.1, [step.2]))
        initial finals = automaton ↔
      automaton.DescribedBy states alphabet initial finals later := by
  constructor
  · intro made
    rw [← made]
    exact describedBy_ofLists fit
  · intro described
    exact (describedBy_ofLists fit).unique described

theorem existsUnique_describedBy
    (fit : ∀ symbols ∈ later, symbols = [] ∨ symbols.length = 3) :
    ∃! automaton : Automaton, automaton.DescribedBy states alphabet initial finals later :=
  ⟨_, describedBy_ofLists fit, fun _ described => described.unique (describedBy_ofLists fit)⟩

end Described

theorem read_eq_ok_iff_describedBy :
    read text = .ok automaton ↔
      ∃ states alphabet initial finals later,
        symbolRows text = states :: alphabet :: [initial] :: finals :: later ∧
          (∀ symbols ∈ later, symbols = [] ∨ symbols.length = 3) ∧
          automaton.DescribedBy states alphabet initial finals later ∧
          automaton.checked = .ok automaton := by
  simp only [read_eq_ok_iff, checked_eq_ok_iff, true_and]
  constructor
  · intro described
    obtain ⟨states, alphabet, initial, finals, later, cut, fit, made, formed⟩ := described
    exact ⟨states, alphabet, initial, finals, later, cut, fit,
      (ofLists_eq_iff_describedBy fit).1 made, formed⟩
  · intro described
    obtain ⟨states, alphabet, initial, finals, later, cut, fit, describes, formed⟩ := described
    exact ⟨states, alphabet, initial, finals, later, cut, fit,
      (ofLists_eq_iff_describedBy fit).2 describes, formed⟩

section Outlines

/-- The number of rows cannot be told from the outline, where a missing row and an empty
one look alike. So it is asked for here. -/
theorem outline_eq_headers_iff {rows later : List (List Symbol)}
    {states alphabet finals : List Symbol} {initial : Symbol} (long : 4 ≤ rows.length) :
    Text.outline 4 rows = states :: alphabet :: [initial] :: finals :: later ↔
      ∃ all, rows = states :: alphabet :: [initial] :: finals :: all ∧
        all.filter (! ·.isEmpty) = later :=
  Text.outline_eq_append_iff [states, alphabet, [initial], finals] long

/-- Which texts of at least four lines are read, and as what: of the rows of symbols only
the outline decides. -/
theorem read_eq_ok_iff_outline (long : 4 ≤ (symbolRows text).length) :
    read text = .ok automaton ↔
      ∃ states alphabet initial finals later,
        Text.outline 4 (symbolRows text) =
            states :: alphabet :: [initial] :: finals :: later ∧
          (∀ symbols ∈ later, symbols = [] ∨ symbols.length = 3) ∧
          ofLists states alphabet
            ((later.filterMap transitionOfRow?).map fun step => (step.1, [step.2]))
            initial finals = automaton ∧
          automaton.WellFormed := by
  rw [read_eq_ok_iff]
  constructor
  · intro described
    obtain ⟨states, alphabet, initial, finals, later, cut, fit, made⟩ := described
    refine ⟨states, alphabet, initial, finals, _,
      (outline_eq_headers_iff long).2 ⟨later, cut, rfl⟩,
      (Text.forall_mem_filter_not_isEmpty (Or.inl rfl) later).2 fit, ?_⟩
    rwa [Text.filterMap_filter_not_isEmpty rfl]
  · intro described
    obtain ⟨states, alphabet, initial, finals, _, outlined, fit, made⟩ := described
    obtain ⟨later, cut, rfl⟩ := (outline_eq_headers_iff long).1 outlined
    rw [Text.filterMap_filter_not_isEmpty rfl] at made
    exact ⟨states, alphabet, initial, finals, later, cut,
      (Text.forall_mem_filter_not_isEmpty (Or.inl rfl) later).1 fit, made⟩

theorem read_eq_ok_iff_of_relaid {first second : String}
    (relaid : Relation.EqvGen (Text.Relaid 4) first.toList second.toList)
    (longFirst : 4 ≤ (Text.lines first.toList).length)
    (longSecond : 4 ≤ (Text.lines second.toList).length) :
    read first = .ok automaton ↔ read second = .ok automaton := by
  have outlines : Text.outline 4 (symbolRows first) = Text.outline 4 (symbolRows second) := by
    rw [outline_symbolRows, outline_symbolRows, Text.tokenOutline_eq_of_eqvGen relaid]
  rw [← length_symbolRows] at longFirst longSecond
  rw [read_eq_ok_iff_outline longFirst, read_eq_ok_iff_outline longSecond, outlines]

end Outlines

section Refusals

variable {later : List Row} {fault : Fault} {number : Nat} {line : String}

theorem declarationOf_eq_error_iff {row : Row} :
    declarationOf row = .error fault ↔
      (row.symbols ≠ [] ∧ row.symbols.length ≠ 3) ∧
        fault = .notTransition row.number row.text := by
  unfold declarationOf
  split
  · next blank => simp [Row.isEmpty_iff.1 blank]
  · next filled =>
      have hasSymbols : row.symbols ≠ [] := mt Row.isEmpty_iff.2 filled
      split
      · next source letter target listed => simp [listed]
      · next notThree =>
          have apart : row.symbols.length ≠ 3 := by
            intro three
            obtain ⟨source, letter, target, listed⟩ := List.length_eq_three.1 three
            exact notThree source letter target listed
          simp [hasSymbols, apart, eq_comm]

theorem declarationsOf_eq_error_iff :
    declarationsOf later = .error fault ↔
      ∃ before row after, later = before ++ row :: after ∧
        (∀ earlier ∈ before, earlier.symbols = [] ∨ earlier.symbols.length = 3) ∧
          (row.symbols ≠ [] ∧ row.symbols.length ≠ 3) ∧
            fault = .notTransition row.number row.text := by
  rw [collect_eq_error_iff declarationOf declarationsOf rfl fun _ _ => rfl]
  simp only [declarationOf_eq_error_iff, declarationOf_eq_ok_iff, exists_and_left,
    exists_eq', and_true]

theorem ofRows_eq_error_iff {states alphabet finals : Row} {initial : Symbol}
    (numbered : fault.number? ≠ none) :
    ofRows initial states alphabet finals later = .error fault ↔
      declarationsOf later = .error fault := by
  unfold ofRows
  rw [bind_eq_error_iff]
  constructor
  · intro refused
    rcases refused with behind | ⟨_, _, malformed⟩
    · exact behind
    · obtain ⟨defect, _, rfl⟩ := mapError_eq_error_iff.1 malformed
      exact absurd rfl numbered
  · exact Or.inl

/-- A fault that names a row comes up only if the headers are fine. -/
theorem read_eq_error_iff (numbered : fault.number? ≠ none) :
    read text = .error fault ↔
      ∃ states alphabet initial finals later symbol,
        rows text = states :: alphabet :: initial :: finals :: later ∧
          initial.symbols = [symbol] ∧ declarationsOf later = .error fault := by
  have notMissing : ∀ header, Fault.missing header ≠ fault := by
    intro header same
    rw [← same] at numbered
    exact numbered rfl
  unfold read
  split
  · next noRow => simp [noRow, notMissing]
  · next first oneRow => simp [oneRow, notMissing]
  · next first second twoRows => simp [twoRows, notMissing]
  · next states alphabet initial rest cut =>
      rw [bind_eq_error_iff, cut]
      constructor
      · intro refused
        rcases refused with unread | ⟨symbol, only, refused⟩
        · exact absurd (number?_eq_none_of_single unread) numbered
        · cases rest with
          | nil => exact absurd (Except.error.inj refused) (notMissing .finals)
          | cons finals later =>
              exact ⟨states, alphabet, initial, finals, later, symbol, rfl,
                single_eq_ok_iff.1 only, (ofRows_eq_error_iff numbered).1 refused⟩
      · intro refused
        obtain ⟨_, _, _, finals, later, symbol, same, only, behind⟩ := refused
        cases same
        exact Or.inr ⟨symbol, single_eq_ok_iff.2 only, (ofRows_eq_error_iff numbered).2 behind⟩

/-- The headers are fine, and the first later row that is neither empty nor a transition
has this number among all lines, empty ones included, and this line without the blanks
around it. -/
def FirstMisfit (text : String) (number : Nat) (line : String) : Prop :=
  ∃ states alphabet initial finals before symbols after,
    symbolRows text =
        states :: alphabet :: [initial] :: finals :: (before ++ symbols :: after) ∧
      (∀ earlier ∈ before, earlier = [] ∨ earlier.length = 3) ∧
      (symbols ≠ [] ∧ symbols.length ≠ 3) ∧ number = before.length + 5 ∧
      (Text.lines text.toList)[before.length + 4]?.map
        (fun chars => String.ofList (Text.trim chars)) = some line

/-- The first misfit is what is refused, whatever the automaton of the other rows. -/
theorem read_eq_notTransition_iff :
    read text = .error (.notTransition number line) ↔ FirstMisfit text number line := by
  have numbered : (Fault.notTransition number line).number? ≠ none := nofun
  rw [read_eq_error_iff numbered]
  simp only [declarationsOf_eq_error_iff, Fault.notTransition.injEq]
  constructor
  · intro refused
    obtain ⟨states, alphabet, initial, finals, _, symbol, cut, only,
      before, row, after, rfl, earlier, misfit, rfl, rfl⟩ := refused
    have counted : rows text =
        (states :: alphabet :: initial :: finals :: before) ++ row :: after := cut
    obtain ⟨chars, found, rfl⟩ := exists_line_of_rows counted
    refine ⟨states.symbols, alphabet.symbols, symbol, finals.symbols, before.map Row.symbols,
      _, after.map Row.symbols, ?_, List.forall_mem_map.2 earlier, misfit, ?_, ?_⟩
    · simp [symbolRows, cut, only]
    · simp
    · rw [List.length_map]
      exact Option.map_eq_some_iff.2 ⟨chars, found, rfl⟩
  · intro misfit
    obtain ⟨states, alphabet, initial, finals, before, symbols, after, cut, earlier, misfit, rfl,
      quoted⟩ := misfit
    simp only [symbolRows, List.map_eq_cons_iff, List.map_eq_append_iff] at cut
    obtain ⟨first, _, listed, rfl, second, _, rfl, rfl, third, _, rfl, only, fourth, _, rfl, rfl,
      earlierRows, _, rfl, rfl, row, laterRows, rfl, rfl, rfl⟩ := cut
    have counted : rows text =
        (first :: second :: third :: fourth :: earlierRows) ++ row :: laterRows := listed
    obtain ⟨chars, found, rfl⟩ := exists_line_of_rows counted
    rw [List.length_map] at quoted ⊢
    obtain ⟨quotedChars, there, rfl⟩ := Option.map_eq_some_iff.1 quoted
    have same : chars = quotedChars := Option.some.inj (found.symm.trans there)
    rw [← same]
    exact ⟨first, second, third, fourth, _, initial, listed, only, earlierRows, _, laterRows, rfl,
      List.forall_mem_map.1 earlier, misfit, rfl, rfl⟩

/-- Of the rows behind the headers that fit nowhere, one is the first. -/
theorem exists_firstMisfit {states alphabet finals : List Symbol} {initial : Symbol}
    {later : List (List Symbol)}
    (cut : symbolRows text = states :: alphabet :: [initial] :: finals :: later)
    {symbols : List Symbol} (listed : symbols ∈ later)
    (misfit : symbols ≠ [] ∧ symbols.length ≠ 3) :
    ∃ number line, FirstMisfit text number line := by
  obtain ⟨first, misfitsFirst, before, after, rfl, earlier⟩ :=
    exists_isFirst (fun row : List Symbol => row ≠ [] ∧ row.length ≠ 3) listed misfit
  have fit : ∀ row ∈ before, row = [] ∨ row.length = 3 := by
    intro row among
    exact Decidable.not_not.1 (mt not_or.1 (earlier row among))
  have there : before.length + 4 < (Text.lines text.toList).length := by
    rw [← length_symbolRows, cut]
    simp
  obtain ⟨chars, found⟩ : ∃ chars, (Text.lines text.toList)[before.length + 4]? = some chars :=
    ⟨_, List.getElem?_eq_getElem there⟩
  exact ⟨before.length + 5, String.ofList (Text.trim chars), states, alphabet, initial, finals,
    before, first, after, cut, fit, misfitsFirst, rfl,
    Option.map_eq_some_iff.2 ⟨chars, found, rfl⟩⟩

end Refusals

/-- A text is read exactly if it has four rows, the third of one symbol, and later rows of
none or three symbols, and if the one automaton described by these symbols is well-formed;
this automaton is then the result. Another layout of the same symbols makes no difference
as long as there are four lines. A fault quotes a line exactly if this is the first later
one that is neither empty nor a transition, and if there is such a line, it is reported with
its number among all lines, whatever the automaton of the other rows would be. -/
theorem read_decided_by_lines :
    (∀ (text : String) (automaton : Automaton), read text = .ok automaton ↔
        ∃ states alphabet initial finals later,
          symbolRows text = states :: alphabet :: [initial] :: finals :: later ∧
            (∀ symbols ∈ later, symbols = [] ∨ symbols.length = 3) ∧
            automaton.DescribedBy states alphabet initial finals later ∧
            automaton.checked = .ok automaton) ∧
      (∀ states alphabet initial finals later,
        (∀ symbols ∈ later, symbols = [] ∨ symbols.length = 3) →
          ∃! automaton : Automaton,
            automaton.DescribedBy states alphabet initial finals later) ∧
      (∀ first second : String,
        Relation.EqvGen (Text.Relaid 4) first.toList second.toList →
          4 ≤ (Text.lines first.toList).length → 4 ≤ (Text.lines second.toList).length →
            ∀ automaton, read first = .ok automaton ↔ read second = .ok automaton) ∧
      (∀ (text : String) (number : Nat) (line : String),
        read text = .error (.notTransition number line) ↔ FirstMisfit text number line) ∧
      ∀ (text : String) states alphabet initial finals later,
        symbolRows text = states :: alphabet :: [initial] :: finals :: later →
          (∃ symbols ∈ later, symbols ≠ [] ∧ symbols.length ≠ 3) →
            ∃ number line, FirstMisfit text number line ∧
              (read text).mapError Fault.report =
                .error ⟨.other, [s!"Line {number}: expected 'from symbol to', found '{line}'"]⟩ := by
  refine ⟨fun _ _ => read_eq_ok_iff_describedBy, fun _ _ _ _ _ => existsUnique_describedBy,
    fun _ _ relaid longFirst longSecond _ => read_eq_ok_iff_of_relaid relaid longFirst longSecond,
    fun _ _ _ => read_eq_notTransition_iff, ?_⟩
  intro text states alphabet initial finals later cut someMisfit
  obtain ⟨symbols, listed, misfit⟩ := someMisfit
  obtain ⟨number, line, first⟩ := exists_firstMisfit cut listed misfit
  refine ⟨number, line, first, ?_⟩
  rw [read_eq_notTransition_iff.2 first]
  rfl

/-- An automaton without final states whose transitions of one source and letter are not
described one after the other. -/
def rejoined : Automaton :=
  .ofLists [⟨"p"⟩, ⟨"q"⟩] [⟨"a"⟩, ⟨"b"⟩]
    [((⟨"p"⟩, ⟨"a"⟩), [⟨"q"⟩, ⟨"p"⟩]), ((⟨"q"⟩, ⟨"b"⟩), [⟨"p"⟩])] ⟨"p"⟩ []

theorem rejoined_read :
    read "p q\na b\np\n\np a q\nq b p\np a p" = .ok rejoined ∧
      read "p q\na b\r\np\n\n\np a q\nq b p\np\t a p" = .ok rejoined ∧
      (∃! automaton : Automaton,
        automaton.DescribedBy [⟨"p"⟩] [⟨"a"⟩] ⟨"p"⟩ [] [[], [⟨"q"⟩, ⟨"a"⟩, ⟨"r"⟩]]) ∧
      read "p\na\np\n\np a z\n \n\tp b \r\nz\n" = .error (.notTransition 7 "p b") ∧
      ∃ number line,
        FirstMisfit "p\na\np\n\np a z\n \n\tp b \r\nz\n" number line ∧
          (read "p\na\np\n\np a z\n \n\tp b \r\nz\n").mapError Fault.report =
            .error ⟨.other, [s!"Line {number}: expected 'from symbol to', found '{line}'"]⟩ := by
  obtain ⟨accepted, one, relaidLines, refused, reported⟩ := read_decided_by_lines
  have described : rejoined.DescribedBy [⟨"p"⟩, ⟨"q"⟩] [⟨"a"⟩, ⟨"b"⟩] ⟨"p"⟩ []
      [[⟨"p"⟩, ⟨"a"⟩, ⟨"q"⟩], [⟨"q"⟩, ⟨"b"⟩, ⟨"p"⟩], [⟨"p"⟩, ⟨"a"⟩, ⟨"p"⟩]] :=
    (ofLists_eq_iff_describedBy (by decide)).1 (by rfl)
  have plain : read "p q\na b\np\n\np a q\nq b p\np a p" = .ok rejoined :=
    (accepted _ _).2 ⟨_, _, _, _, _, by rfl, by decide, described, by rfl⟩
  have returned : Text.Relaid 4 "p q\na b\np\n\np a q\nq b p\np a p".toList
      "p q\na b\r\np\n\np a q\nq b p\np a p".toList :=
    .blank "p q\na b".toList "\np\n\np a q\nq b p\np a p".toList '\r' (by decide) (by decide)
      (by decide)
  have parted : Text.Relaid 4 "p q\na b\r\np\n\np a q\nq b p\np a p".toList
      "p q\na b\r\np\n\n\np a q\nq b p\np a p".toList :=
    .emptyLine "p q\na b\r\np\n".toList "p a q\nq b p\np a p".toList (by decide)
  have widened : Text.Relaid 4 "p q\na b\r\np\n\n\np a q\nq b p\np a p".toList
      "p q\na b\r\np\n\n\np a q\nq b p\np\t a p".toList :=
    .blank "p q\na b\r\np\n\n\np a q\nq b p\np".toList " a p".toList '\t' (by decide)
      (by decide) (by decide)
  have relaid := ((Relation.EqvGen.rel _ _ returned).trans _ _ _ (.rel _ _ parted)).trans _ _ _
    (.rel _ _ widened)
  refine ⟨plain, (relaidLines _ _ relaid (by decide) (by decide) _).1 plain,
    one _ _ _ _ _ (by decide), ?_, ?_⟩
  · exact (refused _ _ _).2 ⟨_, _, _, _, [[⟨"p"⟩, ⟨"a"⟩, ⟨"z"⟩], []], _, _, by rfl, by decide,
      by decide, rfl, by rfl⟩
  · exact reported _ [⟨"p"⟩] [⟨"a"⟩] ⟨"p"⟩ []
      [[⟨"p"⟩, ⟨"a"⟩, ⟨"z"⟩], [], [⟨"p"⟩, ⟨"b"⟩], [⟨"z"⟩]] (by rfl)
      ⟨[⟨"z"⟩], by decide, by decide⟩

end Automaton
end RightLinear
