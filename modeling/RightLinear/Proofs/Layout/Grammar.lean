import Mathlib.Data.List.Basic
import RightLinear.Layout.Grammar
import RightLinear.Proofs.Grammar.RightSide
import RightLinear.Proofs.Grammar.Derivation
import RightLinear.Proofs.Layout.Rows
import RightLinear.Proofs.Regrouping

/-! # Grammars as they are read and written

A text describes a grammar if it has three header rows and no later row of a
single symbol, and if the grammar of these rows is well-formed. All names of such
a grammar are tokens, all symbols in its right-hand sides single characters.
These grammars are also the ones that are read back from their written form, and
then nothing of them is lost, not even an order.
-/

namespace RightLinear
namespace Grammar

open Layout

variable {grammar : Grammar} {text : String}

/-- The productions that a row after the headers declares. -/
def productionStep? : List Symbol → Option (Symbol × List RightSide)
  | left :: first :: others =>
      some (left, (first :: others).map fun alternative => RightSide.ofText alternative.text)
  | _ => none

theorem declarationOf_eq_ok_iff {row : Row} {result : Option Declaration} :
    declarationOf row = .ok result ↔
      row.symbols.length ≠ 1 ∧
        (productionStep? row.symbols).map (fun step => .productions step.1 step.2) = result := by
  unfold declarationOf
  split
  · next blank => simp [Row.isEmpty_iff.1 blank, productionStep?]
  · next filled =>
      split
      · next none => exact absurd (Row.isEmpty_iff.2 none) filled
      · next left only => simp [only]
      · next left alternatives several listed =>
          obtain ⟨first, others, rfl⟩ := List.exists_cons_of_ne_nil several
          simp [listed, productionStep?]

theorem declarationsOf_eq_ok_iff {later : List Row} {declarations : List Declaration} :
    declarationsOf later = .ok declarations ↔
      (∀ symbols ∈ later.map Row.symbols, symbols.length ≠ 1) ∧
        ((later.map Row.symbols).filterMap productionStep?).map
          (fun step => .productions step.1 step.2) = declarations := by
  have reads : ∀ row result, declarationOf row = .ok result ↔ row.symbols.length ≠ 1 ∧
      (productionStep? row.symbols).map (fun step => .productions step.1 step.2) = result :=
    fun _ _ => declarationOf_eq_ok_iff
  rw [List.map_filterMap]
  exact collect_eq_ok_iff declarationOf declarationsOf rfl (fun _ _ => rfl) reads

theorem filled_of_productionStep? {symbols : List Symbol} {step : Symbol × List RightSide}
    (declared : productionStep? symbols = some step) : step.2 ≠ [] := by
  unfold productionStep? at declared
  split at declared
  · cases declared
    simp
  · exact nomatch declared

theorem foldl_declare_productions {steps : List (Symbol × List RightSide)}
    (filled : ∀ step ∈ steps, step.2 ≠ []) (grammar : Grammar) :
    (steps.map fun step => Declaration.productions step.1 step.2).foldl declare grammar =
      { grammar with productions := grammar.productions.mergeAll steps } := by
  induction steps generalizing grammar with
  | nil => rfl
  | cons step steps induction =>
      obtain ⟨left, alternatives⟩ := step
      have later := induction fun other member => filled other (List.mem_cons_of_mem _ member)
      cases alternatives with
      | nil => exact absurd rfl (filled (left, []) List.mem_cons_self)
      | cons first others =>
          rw [List.map_cons, List.foldl_cons, later]
          rfl

theorem ofDeclarations_rows (start : Symbol) (nonTerminals terminals : List Symbol)
    (later : List (List Symbol)) :
    ofDeclarations start (.nonTerminals nonTerminals :: .terminals terminals ::
        (later.filterMap productionStep?).map fun step => .productions step.1 step.2) =
      ofLists nonTerminals terminals (later.filterMap productionStep?) start := by
  have filled : ∀ step ∈ later.filterMap productionStep?, step.2 ≠ [] := by
    intro step listed
    obtain ⟨symbols, _, declared⟩ := List.mem_filterMap.1 listed
    exact filled_of_productionStep? declared
  rw [ofDeclarations, List.foldl_cons, List.foldl_cons, foldl_declare_productions filled]
  rfl

theorem ofRows_eq_ok_iff {nonTerminals terminals start : Row} {later : List Row} :
    ofRows nonTerminals terminals start later = .ok grammar ↔
      ∃ symbol, start.symbols = [symbol] ∧
        (∀ symbols ∈ later.map Row.symbols, symbols.length ≠ 1) ∧
          ofLists nonTerminals.symbols terminals.symbols
            ((later.map Row.symbols).filterMap productionStep?) symbol = grammar ∧
          grammar.WellFormed := by
  simp only [ofRows, bind_eq_ok_iff, single_eq_ok_iff, declarationsOf_eq_ok_iff,
    mapError_eq_ok_iff, checked_eq_ok_iff]
  constructor
  · rintro ⟨symbol, only, _, ⟨fit, rfl⟩, rfl, formed⟩
    rw [ofDeclarations_rows] at formed ⊢
    exact ⟨symbol, only, fit, rfl, formed⟩
  · rintro ⟨symbol, only, fit, rfl, formed⟩
    refine ⟨symbol, only, _, ⟨fit, rfl⟩, ?_⟩
    rw [ofDeclarations_rows]
    exact ⟨rfl, formed⟩

/-- Which texts are read, and as what: the rows of symbols decide. -/
theorem read_eq_ok_iff :
    read text = .ok grammar ↔
      ∃ nonTerminals terminals start later,
        symbolRows text = nonTerminals :: terminals :: [start] :: later ∧
          (∀ symbols ∈ later, symbols.length ≠ 1) ∧
          ofLists nonTerminals terminals (later.filterMap productionStep?) start = grammar ∧
          grammar.WellFormed := by
  unfold read symbolRows
  split
  · next none => simp [none]
  · next first one => simp [one]
  · next first second two => simp [two]
  · next nonTerminals terminals start later cut =>
      rw [ofRows_eq_ok_iff, cut]
      simp only [List.map_cons, List.cons.injEq]
      constructor
      · rintro ⟨symbol, only, described⟩
        exact ⟨_, _, symbol, _, ⟨rfl, rfl, only, rfl⟩, described⟩
      · rintro ⟨_, _, symbol, _, ⟨rfl, rfl, only, rfl⟩, described⟩
        exact ⟨symbol, only, described⟩

theorem wellFormed_of_read (described : read text = .ok grammar) : grammar.WellFormed := by
  obtain ⟨_, _, _, _, _, _, _, formed⟩ := read_eq_ok_iff.1 described
  exact formed

/-- A grammar that can be read back from its written form: its names are tokens, every
symbol in a right-hand side is a single character, no sequence of symbols looks like
the empty word, and no key is without alternatives. -/
structure Readable (grammar : Grammar) : Prop where
  isToken : ∀ symbol, grammar.Declares symbol → symbol.IsToken
  single : ∀ left, ∀ side ∈ grammar.alternatives left,
    ∀ symbol ∈ side.word, symbol.text.length = 1
  notMarker : ∀ left word, .symbols word ∈ grammar.alternatives left →
    Word.text word ≠ epsilonMarker
  filled : ∀ group ∈ grammar.productions.groups, group.2.toList ≠ []

theorem exists_ofText_of_mem_productionStep? {later : List (List Symbol)} {left : Symbol}
    {side : RightSide}
    (production : side ∈ (Grouping.ofList (later.filterMap productionStep?)).values left) :
    ∃ text, side = RightSide.ofText text := by
  obtain ⟨step, listed, _, member⟩ := Grouping.mem_values_ofList.1 production
  obtain ⟨symbols, _, declared⟩ := List.mem_filterMap.1 listed
  unfold productionStep? at declared
  split at declared
  · cases declared
    obtain ⟨alternative, _, rfl⟩ := List.mem_map.1 member
    exact ⟨alternative.text, rfl⟩
  · exact nomatch declared

/-- Whatever the text, what is read from it can be read back from its written form. -/
theorem readable_of_read (described : read text = .ok grammar) : grammar.Readable := by
  obtain ⟨nonTerminals, terminals, start, later, cut, _, rfl, _⟩ := read_eq_ok_iff.1 described
  have tokenOf : ∀ symbols ∈ symbolRows text, ∀ symbol ∈ symbols, symbol.IsToken :=
    fun symbols listed symbol => isToken_of_mem_symbolRows listed
  rw [cut, List.forall_mem_cons, List.forall_mem_cons] at tokenOf
  obtain ⟨nonTerminalTokens, terminalTokens, _⟩ := tokenOf
  exact {
    isToken := by
      rintro symbol (isTerminal | isNonTerminal)
      · exact terminalTokens symbol (OrderedSet.mem_ofList.1 isTerminal)
      · exact nonTerminalTokens symbol (OrderedSet.mem_ofList.1 isNonTerminal)
    single := by
      intro left side production symbol member
      obtain ⟨read, rfl⟩ := exists_ofText_of_mem_productionStep? production
      exact RightSide.length_eq_one_of_mem_word_ofText member
    notMarker := by
      intro left word production
      obtain ⟨read, same⟩ := exists_ofText_of_mem_productionStep? production
      exact RightSide.text_ne_marker_of_ofText same.symm
    filled := by
      intro group
      apply Grouping.toList_ne_nil_of_mem_groups_ofList
      intro step listed
      obtain ⟨symbols, _, declared⟩ := List.mem_filterMap.1 listed
      exact filled_of_productionStep? declared }

theorem Same.refl (grammar : Grammar) : grammar.Same grammar :=
  ⟨.refl grammar.nonTerminals, .refl grammar.terminals, .refl grammar.productions, rfl⟩

theorem Same.readable {first second : Grammar} (same : first.Same second)
    (readable : first.Readable) : second.Readable := by
  obtain ⟨nonTerminals, terminals, productions, _⟩ := same
  have alternatives : ∀ left side,
      side ∈ second.alternatives left → side ∈ first.alternatives left :=
    fun left side production => productions.mem_values_iff.2 production
  exact {
    isToken := by
      intro symbol declared
      apply readable.isToken
      exact declared.imp (OrderedSet.same_iff.1 terminals symbol).2
        (OrderedSet.same_iff.1 nonTerminals symbol).2
    single := fun left side production =>
      readable.single left side (alternatives left side production)
    notMarker := fun left word production =>
      readable.notMarker left word (alternatives left _ production)
    filled := productions.filled readable.filled }

theorem Readable.ofText_text (readable : grammar.Readable) {left : Symbol} {side : RightSide}
    (production : side ∈ grammar.alternatives left) : RightSide.ofText side.text = side := by
  cases side with
  | epsilon => rfl
  | symbols word =>
      exact RightSide.ofText_text_symbols (readable.single left _ production)
        (readable.notMarker left word production)

/-- The symbols on the line of a group: the replaced one, and its alternatives as
single tokens. -/
def groupRow (group : Symbol × OrderedSet RightSide) : List Symbol :=
  group.1 :: group.2.toList.map fun side => ⟨side.text⟩

/-- The symbols on the lines of the written form. -/
def sourceRows (grammar : Grammar) : List (List Symbol) :=
  grammar.nonTerminals.toList :: grammar.terminals.toList :: [grammar.start] ::
    grammar.productions.groups.map groupRow

theorem text_sourceLine {group : Symbol × OrderedSet RightSide} (filled : group.2.toList ≠ []) :
    (sourceLine group).text = lineText (groupRow group) := by
  obtain ⟨first, others, listed⟩ := List.exists_cons_of_ne_nil filled
  simp [sourceLine, Piece.line, lineText, groupRow, Symbol.joined, listed, Function.comp_def]

theorem map_text_source (filled : ∀ group ∈ grammar.productions.groups, group.2.toList ≠ []) :
    grammar.source.map Piece.text = grammar.sourceRows.map lineText := by
  have later : grammar.productions.groups.map (Piece.text ∘ sourceLine) =
      grammar.productions.groups.map (lineText ∘ groupRow) :=
    List.map_congr_left fun group listed => text_sourceLine (filled group listed)
  simp [source, sourceRows, later, Piece.line, lineText, Symbol.joined]

/-- The text of an alternative is a token, because its symbols are. -/
theorem isToken_text (areTokens : ∀ symbol, grammar.Declares symbol → symbol.IsToken)
    (formed : grammar.WellFormed) {left : Symbol} {side : RightSide}
    (production : side ∈ grammar.alternatives left) : Text.IsToken side.text.toList := by
  cases side with
  | epsilon => decide
  | symbols word =>
      have admitted := formed.admits_of_mem production
      have tokens : ∀ symbol ∈ word, symbol.IsToken :=
        fun symbol member => areTokens symbol (admitted.2 symbol member)
      obtain ⟨first, others, rfl⟩ := List.exists_cons_of_ne_nil admitted.1
      refine ⟨?_, ?_⟩
      · rw [RightSide.text, Word.toList_text_cons]
        exact List.append_ne_nil_of_left_ne_nil (tokens first List.mem_cons_self).1 _
      · intro char member
        obtain ⟨symbol, inWord, inSymbol⟩ := Word.mem_toList_text.1 member
        exact (tokens symbol inWord).2 char inSymbol

theorem isToken_of_mem_sourceRows (areTokens : ∀ symbol, grammar.Declares symbol → symbol.IsToken)
    (formed : grammar.WellFormed) :
    ∀ symbols ∈ grammar.sourceRows, ∀ symbol ∈ symbols, symbol.IsToken := by
  have nonTerminal : ∀ symbol ∈ grammar.nonTerminals, symbol.IsToken :=
    fun symbol declared => areTokens symbol (Or.inr declared)
  simp only [sourceRows, List.forall_mem_cons, List.forall_mem_map]
  refine ⟨nonTerminal, fun symbol declared => areTokens symbol (Or.inl declared),
    ⟨nonTerminal _ formed.start_mem, by simp⟩, ?_⟩
  intro group listed
  rw [groupRow, List.forall_mem_cons, List.forall_mem_map]
  refine ⟨nonTerminal _ (formed.keys_mem group listed), fun side member => ?_⟩
  exact isToken_text areTokens formed (mem_alternatives_of_mem_group listed member)

theorem productionStep?_groupRow {group : Symbol × OrderedSet RightSide}
    (filled : group.2.toList ≠ []) :
    productionStep? (groupRow group) =
      some (group.1, group.2.toList.map fun side => RightSide.ofText side.text) := by
  obtain ⟨first, others, sides⟩ := List.exists_cons_of_ne_nil filled
  rw [groupRow, sides, List.map_cons, productionStep?, List.map_cons, List.map_cons, List.map_map]
  rfl

/-- What becomes of a grammar if each right-hand side is read again from its text. -/
def respelled (grammar : Grammar) : Grammar :=
  { grammar with
    productions := .ofList (grammar.productions.groups.map fun group =>
      (group.1, group.2.toList.map fun side => RightSide.ofText side.text)) }

theorem mem_alternatives_respelled {left : Symbol} {side : RightSide} :
    side ∈ grammar.respelled.alternatives left ↔
      ∃ written ∈ grammar.alternatives left, RightSide.ofText written.text = side := by
  rw [alternatives, respelled, Grouping.mem_values_ofList]
  constructor
  · rintro ⟨step, listed, rfl, member⟩
    obtain ⟨group, inGroups, rfl⟩ := List.mem_map.1 listed
    obtain ⟨written, inGroup, rfl⟩ := List.mem_map.1 member
    exact ⟨written, mem_alternatives_of_mem_group inGroups inGroup, rfl⟩
  · rintro ⟨written, production, rfl⟩
    obtain ⟨group, inGroups, rfl, inGroup⟩ := mem_alternatives_iff_exists_group.1 production
    exact ⟨_, List.mem_map.2 ⟨group, inGroups, rfl⟩, rfl, List.mem_map.2 ⟨written, inGroup, rfl⟩⟩

/-- A grammar of tokens is read back with its right-hand sides respelled, if that leaves
a well-formed grammar. -/
theorem read_source_eq_ok_iff (areTokens : ∀ symbol, grammar.Declares symbol → symbol.IsToken)
    (filled : ∀ group ∈ grammar.productions.groups, group.2.toList ≠ [])
    (formed : grammar.WellFormed) {copy : Grammar} :
    read grammar.source.text = .ok copy ↔ grammar.respelled = copy ∧ copy.WellFormed := by
  have cut := symbolRows_of_document (map_text_source filled)
    (isToken_of_mem_sourceRows areTokens formed)
  have whole : ∀ symbols ∈ grammar.productions.groups.map groupRow, symbols.length ≠ 1 := by
    intro symbols listed
    obtain ⟨group, member, rfl⟩ := List.mem_map.1 listed
    simpa [groupRow] using filled group member
  have steps : (grammar.productions.groups.map groupRow).filterMap productionStep? =
      grammar.productions.groups.map fun group =>
        (group.1, group.2.toList.map fun side => RightSide.ofText side.text) := by
    rw [List.filterMap_map, ← List.filterMap_eq_map]
    exact List.filterMap_congr fun group listed => productionStep?_groupRow (filled group listed)
  have described : ofLists grammar.nonTerminals.toList grammar.terminals.toList
      ((grammar.productions.groups.map groupRow).filterMap productionStep?) grammar.start =
        grammar.respelled := by
    rw [steps, ofLists, OrderedSet.ofList_toList, OrderedSet.ofList_toList, respelled]
  rw [read_eq_ok_iff, cut, sourceRows, ← described]
  constructor
  · rintro ⟨_, _, _, _, ⟨⟩, _, same, copyFormed⟩
    exact ⟨same, copyFormed⟩
  · rintro ⟨same, copyFormed⟩
    exact ⟨_, _, _, _, rfl, whole, same, copyFormed⟩

theorem respelled_eq (spelled : ∀ left, ∀ side ∈ grammar.alternatives left,
    RightSide.ofText side.text = side) : grammar.respelled = grammar := by
  have steps : (grammar.productions.groups.map fun group =>
        (group.1, group.2.toList.map fun side => RightSide.ofText side.text)) =
      grammar.productions.groups.map fun group => (group.1, group.2.toList) := by
    apply List.map_congr_left
    intro group listed
    have kept : (group.2.toList.map fun side => RightSide.ofText side.text) =
        group.2.toList.map id :=
      List.map_congr_left fun side member =>
        spelled group.1 side (mem_alternatives_of_mem_group listed member)
    rw [kept, List.map_id]
  rw [respelled, steps, Grouping.ofList_groups]

theorem Readable.read_source (readable : grammar.Readable) (formed : grammar.WellFormed) :
    read grammar.source.text = .ok grammar :=
  (read_source_eq_ok_iff readable.isToken readable.filled formed).2
    ⟨respelled_eq fun _ _ => readable.ofText_text, formed⟩

/-- A well-formed grammar is read back from its written form, up to order, exactly if
it is readable, and then with every order kept. Any grammar that has been read is
read again from what is written of it, and writing it once more gives the same text. -/
theorem read_source_iff_readable :
    (∀ grammar : Grammar, grammar.WellFormed →
        ((∃ copy, read grammar.source.text = .ok copy ∧ copy.Same grammar) ↔
            grammar.Readable) ∧
          (grammar.Readable → read grammar.source.text = .ok grammar)) ∧
      ∀ (text : String) (grammar : Grammar), read text = .ok grammar →
        read grammar.source.text = .ok grammar ∧
          ∀ copy, read grammar.source.text = .ok copy →
            copy.source.text = grammar.source.text := by
  constructor
  · intro grammar formed
    refine ⟨⟨?_, ?_⟩, fun readable => readable.read_source formed⟩
    · rintro ⟨copy, described, same⟩
      exact same.readable (readable_of_read described)
    · intro readable
      exact ⟨grammar, readable.read_source formed, Same.refl grammar⟩
  · intro text grammar described
    have again := (readable_of_read described).read_source (wellFormed_of_read described)
    refine ⟨again, fun copy copied => ?_⟩
    rw [again] at copied
    cases copied
    rfl

/-- A grammar with names of several characters, also that of the marker, and with
productions in an order of their own. -/
def shuffled : Grammar :=
  .ofLists [⟨"S"⟩, ⟨"start"⟩, ⟨"A"⟩] [⟨"b"⟩, ⟨"eps"⟩, ⟨"a"⟩]
    [(⟨"A"⟩, [.symbols [⟨"b"⟩, ⟨"A"⟩], .epsilon]),
      (⟨"start"⟩, [.symbols [⟨"A"⟩, ⟨"a"⟩, ⟨"a"⟩], .symbols [⟨"S"⟩]])]
    ⟨"start"⟩

/-- A grammar with a right-hand side of one symbol that reads like two. -/
def ambiguous : Grammar :=
  .ofLists [⟨"S"⟩] [⟨"a"⟩, ⟨"b"⟩, ⟨"ab"⟩] [(⟨"S"⟩, [.symbols [⟨"ab"⟩]])] ⟨"S"⟩

theorem shuffled_read_source :
    read "S start  A\r\nb\teps a\n start \nA bA\n\nstart Aaa\nA eps bA\nstart S" =
        .ok shuffled ∧
      read shuffled.source.text = .ok shuffled ∧
      ambiguous.WellFormed ∧
      ¬ ∃ copy, read ambiguous.source.text = .ok copy ∧ copy.Same ambiguous := by
  have described : read "S start  A\r\nb\teps a\n start \nA bA\n\nstart Aaa\nA eps bA\nstart S" =
      .ok shuffled := by rfl
  have formed : ambiguous.WellFormed := defect?_eq_none_iff.1 (by decide)
  refine ⟨described, (read_source_iff_readable.2 _ _ described).1, formed, ?_⟩
  rw [(read_source_iff_readable.1 ambiguous formed).1]
  intro readable
  have single := readable.single ⟨"S"⟩ (.symbols [⟨"ab"⟩]) (by decide) ⟨"ab"⟩ (by decide)
  exact absurd single (by decide)

end Grammar
end RightLinear
