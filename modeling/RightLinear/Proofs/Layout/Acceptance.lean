import RightLinear.Proofs.Layout.Grammar

/-! # Which texts describe a grammar

Of a text only its rows of symbols decide whether it describes a grammar, and of these
rows only the outline: a row that declares nothing may be left out behind the headers.
A later row of a single symbol is named by its number among all rows, whatever else is
wrong further on.
-/

namespace RightLinear
namespace Grammar

open Layout

variable {grammar : Grammar} {text : String}

/-- The alternatives of a symbol on all rows that begin with it. -/
def alternativesOn (left : Symbol) (later : List (List Symbol)) : List RightSide :=
  (later.filter fun symbols => symbols.head? = some left).flatMap fun symbols =>
    symbols.tail.map fun alternative => RightSide.ofText alternative.text

theorem alternativesOn_cons (left head : Symbol) (alternatives : List Symbol)
    (later : List (List Symbol)) :
    alternativesOn left ((head :: alternatives) :: later) =
      (if head = left then
          alternatives.map fun alternative => RightSide.ofText alternative.text
        else []) ++ alternativesOn left later := by
  unfold alternativesOn
  by_cases same : head = left
  · rw [if_pos same, List.filter_cons_of_pos (by simpa using same), List.flatMap_cons]
    rfl
  · rw [if_neg same, List.filter_cons_of_neg (by simpa using same), List.nil_append]

/-- A grammar that has just what its header rows and later rows say: each first symbol
of a later row is a key, and under it stands the union of the alternatives on all its
rows. All are listed in the order in which they are first mentioned. -/
structure DescribedBy (grammar : Grammar) (nonTerminals terminals : List Symbol)
    (start : Symbol) (later : List (List Symbol)) : Prop where
  nonTerminals_eq : grammar.nonTerminals = .ofList nonTerminals
  terminals_eq : grammar.terminals = .ofList terminals
  start_eq : grammar.start = start
  keySet_eq : grammar.productions.keySet = .ofList (later.filterMap List.head?)
  alternatives_eq : ∀ left, grammar.alternatives left = .ofList (alternativesOn left later)

section Described

variable {later : List (List Symbol)}

theorem map_fst_productionSteps (fit : ∀ symbols ∈ later, symbols.length ≠ 1) :
    (later.filterMap productionStep?).map Prod.fst = later.filterMap List.head? := by
  rw [List.map_filterMap]
  apply List.filterMap_congr
  intro symbols listed
  match symbols, fit symbols listed with
  | [], _ => rfl
  | [_], lone => exact absurd rfl lone
  | left :: first :: others, _ => rfl

theorem flatMap_snd_productionSteps (fit : ∀ symbols ∈ later, symbols.length ≠ 1)
    (left : Symbol) :
    ((later.filterMap productionStep?).filter fun step => step.1 = left).flatMap Prod.snd =
      alternativesOn left later := by
  induction later with
  | nil => rfl
  | cons symbols later induction =>
      obtain ⟨fitsHere, fitLater⟩ := List.forall_mem_cons.1 fit
      have rest := induction fitLater
      match symbols, fitsHere with
      | [], _ => exact rest
      | [_], lone => exact absurd rfl lone
      | other :: first :: others, _ =>
          have declared : productionStep? (other :: first :: others) = some (other,
              (first :: others).map fun alternative => RightSide.ofText alternative.text) := rfl
          rw [List.filterMap_cons_some declared, alternativesOn_cons, ← rest]
          by_cases same : other = left
          · rw [List.filter_cons_of_pos (by simpa using same), if_pos same]
            rfl
          · rw [List.filter_cons_of_neg (by simpa using same), if_neg same]
            rfl

theorem describedBy_ofLists (fit : ∀ symbols ∈ later, symbols.length ≠ 1)
    (nonTerminals terminals : List Symbol) (start : Symbol) :
    (ofLists nonTerminals terminals (later.filterMap productionStep?) start).DescribedBy
      nonTerminals terminals start later where
  nonTerminals_eq := rfl
  terminals_eq := rfl
  start_eq := rfl
  keySet_eq := by
    rw [← map_fst_productionSteps fit]
    exact Grouping.keySet_mergeAll ∅ _
  alternatives_eq left := by
    rw [← flatMap_snd_productionSteps fit left]
    exact Grouping.values_mergeAll ∅ _ left

theorem DescribedBy.unique {nonTerminals terminals : List Symbol} {start : Symbol}
    {first second : Grammar} (byFirst : first.DescribedBy nonTerminals terminals start later)
    (bySecond : second.DescribedBy nonTerminals terminals start later) : first = second := by
  have productions : first.productions = second.productions := by
    apply Grouping.eq_of_keySet_of_values
    · rw [byFirst.keySet_eq, bySecond.keySet_eq]
    · intro left
      exact (byFirst.alternatives_eq left).trans (bySecond.alternatives_eq left).symm
  have nonTerminals := byFirst.nonTerminals_eq.trans bySecond.nonTerminals_eq.symm
  have terminals := byFirst.terminals_eq.trans bySecond.terminals_eq.symm
  have start := byFirst.start_eq.trans bySecond.start_eq.symm
  cases first
  cases second
  congr

theorem ofLists_eq_iff_describedBy (fit : ∀ symbols ∈ later, symbols.length ≠ 1)
    {nonTerminals terminals : List Symbol} {start : Symbol} :
    ofLists nonTerminals terminals (later.filterMap productionStep?) start = grammar ↔
      grammar.DescribedBy nonTerminals terminals start later := by
  constructor
  · rintro rfl
    exact describedBy_ofLists fit nonTerminals terminals start
  · exact fun described =>
      (describedBy_ofLists fit nonTerminals terminals start).unique described

end Described

theorem read_eq_ok_iff_describedBy :
    read text = .ok grammar ↔
      ∃ nonTerminals terminals start later,
        symbolRows text = nonTerminals :: terminals :: [start] :: later ∧
          (∀ symbols ∈ later, symbols = [] ∨ 2 ≤ symbols.length) ∧
          grammar.DescribedBy nonTerminals terminals start later ∧
          grammar.checked = .ok grammar := by
  have fits : ∀ symbols : List Symbol,
      symbols.length ≠ 1 ↔ symbols = [] ∨ 2 ≤ symbols.length := by
    intro symbols
    rw [← List.length_eq_zero_iff]
    omega
  simp only [read_eq_ok_iff, checked_eq_ok_iff, true_and, ← fits]
  constructor
  · rintro ⟨nonTerminals, terminals, start, later, cut, fit, made, formed⟩
    exact ⟨nonTerminals, terminals, start, later, cut, fit,
      (ofLists_eq_iff_describedBy fit).1 made, formed⟩
  · rintro ⟨nonTerminals, terminals, start, later, cut, fit, described, formed⟩
    exact ⟨nonTerminals, terminals, start, later, cut, fit,
      (ofLists_eq_iff_describedBy fit).2 described, formed⟩

section Outlines

/-- A third row of one symbol is seen in the outline, so the headers are there. -/
theorem outline_eq_headers_iff {rows later : List (List Symbol)}
    {nonTerminals terminals : List Symbol} {start : Symbol} :
    Text.outline 3 rows = nonTerminals :: terminals :: [start] :: later ↔
      ∃ all, rows = nonTerminals :: terminals :: [start] :: all ∧
        all.filter (! ·.isEmpty) = later := by
  match rows with
  | [] | [_] | [_, _] => simp [Text.outline]
  | first :: second :: third :: all =>
      exact Text.outline_eq_append_iff [nonTerminals, terminals, [start]] (by simp)

/-- Which texts are read, and as what: of the rows of symbols only the outline decides. -/
theorem read_eq_ok_iff_outline :
    read text = .ok grammar ↔
      ∃ nonTerminals terminals start later,
        Text.outline 3 (symbolRows text) = nonTerminals :: terminals :: [start] :: later ∧
          (∀ symbols ∈ later, symbols.length ≠ 1) ∧
          ofLists nonTerminals terminals (later.filterMap productionStep?) start = grammar ∧
          grammar.WellFormed := by
  rw [read_eq_ok_iff]
  constructor
  · rintro ⟨nonTerminals, terminals, start, later, cut, fit, described⟩
    refine ⟨nonTerminals, terminals, start, _, outline_eq_headers_iff.2 ⟨later, cut, rfl⟩,
      (Text.forall_mem_filter_not_isEmpty Nat.zero_ne_one later).2 fit, ?_⟩
    rwa [Text.filterMap_filter_not_isEmpty rfl]
  · rintro ⟨nonTerminals, terminals, start, _, outlined, fit, described⟩
    obtain ⟨later, cut, rfl⟩ := outline_eq_headers_iff.1 outlined
    rw [Text.filterMap_filter_not_isEmpty rfl] at described
    exact ⟨nonTerminals, terminals, start, later, cut,
      (Text.forall_mem_filter_not_isEmpty Nat.zero_ne_one later).1 fit, described⟩

theorem read_eq_ok_iff_of_relaid {first second : String}
    (relaid : Relation.EqvGen (Text.Relaid 3) first.toList second.toList) :
    read first = .ok grammar ↔ read second = .ok grammar := by
  have outlines : Text.outline 3 (symbolRows first) = Text.outline 3 (symbolRows second) := by
    rw [outline_symbolRows, outline_symbolRows, Text.tokenOutline_eq_of_eqvGen relaid]
  rw [read_eq_ok_iff_outline, read_eq_ok_iff_outline, outlines]

end Outlines

section Alike

theorem declarationOf_eq_of_alike {first second : Row} (alike : first.Alike second) :
    declarationOf first = declarationOf second := by
  rw [declarationOf, declarationOf, alike.isEmpty_eq, alike.symbols_eq, alike.number_eq]

theorem declarationsOf_eq_of_alike {first second : List Row}
    (alike : List.Forall₂ Row.Alike first second) :
    declarationsOf first = declarationsOf second := by
  induction alike with
  | nil => rfl
  | cons here _ induction =>
      rw [declarationsOf, declarationsOf, declarationOf_eq_of_alike here, induction]

/-- Up to the line that is quoted, the rows of symbols decide also how a text is refused. -/
theorem read_eq_of_symbolRows_eq {first second : String}
    (same : symbolRows first = symbolRows second) :
    (read first).mapError Fault.unquoted = (read second).mapError Fault.unquoted := by
  have alike := forall₂_alike_rows same
  unfold read
  generalize rows first = firstRows at alike ⊢
  generalize rows second = secondRows at alike ⊢
  rcases alike with _ | ⟨nonTerminals, _ | ⟨terminals, _ | ⟨start, later⟩⟩⟩
  · rfl
  · rfl
  · rfl
  · simp only [ofRows, mapError_bind, start.single_eq .start, declarationsOf_eq_of_alike later,
      nonTerminals.symbols_eq, terminals.symbols_eq]

end Alike

section Refusals

variable {later : List Row} {fault : Fault} {number : Nat} {left : Symbol}

/-- The only fault of a later row is that it has a single symbol. -/
theorem declarationOf_eq_error_iff {row : Row} :
    declarationOf row = .error fault ↔
      ∃ left, row.symbols = [left] ∧ fault = .noAlternatives row.number left := by
  unfold declarationOf
  split
  · next blank => simp [Row.isEmpty_iff.1 blank]
  · next filled =>
      split
      · next none => exact absurd (Row.isEmpty_iff.2 none) filled
      · next left only => simp [only, eq_comm]
      · next left alternatives several listed =>
          obtain ⟨first, others, rfl⟩ := List.exists_cons_of_ne_nil several
          simp [listed]

theorem declarationsOf_eq_error_iff :
    declarationsOf later = .error fault ↔
      ∃ before row after left, later = before ++ row :: after ∧
        (∀ earlier ∈ before, earlier.symbols.length ≠ 1) ∧ row.symbols = [left] ∧
          fault = .noAlternatives row.number left := by
  rw [collect_eq_error_iff declarationOf declarationsOf rfl fun _ _ => rfl]
  simp only [declarationOf_eq_error_iff, declarationOf_eq_ok_iff]
  constructor
  · rintro ⟨before, row, after, cut, earlier, left, only, named⟩
    refine ⟨before, row, after, left, cut, fun other listed => ?_, only, named⟩
    obtain ⟨_, fits, _⟩ := earlier other listed
    exact fits
  · rintro ⟨before, row, after, left, cut, earlier, only, named⟩
    exact ⟨before, row, after, cut, fun other listed => ⟨_, earlier other listed, rfl⟩, left,
      only, named⟩

/-- A fault that names a row is one of a later row, and comes up only if the headers are
fine. -/
theorem ofRows_eq_error_iff {nonTerminals terminals start : Row}
    (numbered : fault.number? ≠ none) :
    ofRows nonTerminals terminals start later = .error fault ↔
      ∃ symbol, start.symbols = [symbol] ∧ declarationsOf later = .error fault := by
  unfold ofRows
  rw [bind_eq_error_iff]
  constructor
  · rintro (unread | ⟨symbol, only, refused⟩)
    · exact absurd (number?_eq_none_of_single unread) numbered
    · rcases bind_eq_error_iff.1 refused with behind | ⟨_, _, malformed⟩
      · exact ⟨symbol, single_eq_ok_iff.1 only, behind⟩
      · obtain ⟨defect, _, rfl⟩ := mapError_eq_error_iff.1 malformed
        exact absurd rfl numbered
  · rintro ⟨symbol, only, refused⟩
    exact Or.inr ⟨symbol, single_eq_ok_iff.2 only, bind_eq_error_iff.2 (Or.inl refused)⟩

theorem read_eq_error_iff (numbered : fault.number? ≠ none) :
    read text = .error fault ↔
      ∃ nonTerminals terminals start later symbol,
        rows text = nonTerminals :: terminals :: start :: later ∧
          start.symbols = [symbol] ∧ declarationsOf later = .error fault := by
  have notMissing : ∀ header, Fault.missing header ≠ fault := by
    rintro header rfl
    exact numbered rfl
  unfold read
  split
  · next noRow => simp [noRow, notMissing]
  · next first oneRow => simp [oneRow, notMissing]
  · next first second twoRows => simp [twoRows, notMissing]
  · next nonTerminals terminals start later cut =>
      rw [ofRows_eq_error_iff numbered, cut]
      constructor
      · rintro ⟨symbol, only, refused⟩
        exact ⟨_, _, _, _, symbol, rfl, only, refused⟩
      · rintro ⟨_, _, _, _, symbol, same, only, refused⟩
        cases same
        exact ⟨symbol, only, refused⟩

/-- The first later row of a single symbol is refused, with its number among all rows. -/
theorem read_eq_noAlternatives_iff :
    read text = .error (.noAlternatives number left) ↔
      ∃ nonTerminals terminals start before after,
        symbolRows text = nonTerminals :: terminals :: [start] :: (before ++ [left] :: after) ∧
          (∀ symbols ∈ before, symbols.length ≠ 1) ∧ number = before.length + 4 := by
  have numbered : (Fault.noAlternatives number left).number? ≠ none := nofun
  rw [read_eq_error_iff numbered]
  simp only [declarationsOf_eq_error_iff, Fault.noAlternatives.injEq]
  constructor
  · rintro ⟨nonTerminals, terminals, start, _, symbol, cut, only,
      before, row, after, _, rfl, earlier, lone, rfl, rfl⟩
    have counted : row.number = (nonTerminals :: terminals :: start :: before).length + 1 :=
      number_of_rows cut
    refine ⟨nonTerminals.symbols, terminals.symbols, symbol, before.map Row.symbols,
      after.map Row.symbols, ?_, List.forall_mem_map.2 earlier, ?_⟩
    · simp [symbolRows, cut, only, lone]
    · simpa using counted
  · rintro ⟨nonTerminals, terminals, start, before, after, cut, earlier, rfl⟩
    simp only [symbolRows, List.map_eq_cons_iff, List.map_eq_append_iff] at cut
    obtain ⟨first, _, listed, rfl, second, _, rfl, rfl, third, _, rfl, only,
      earlierRows, _, rfl, rfl, row, laterRows, rfl, lone, rfl⟩ := cut
    have counted : row.number = (first :: second :: third :: earlierRows).length + 1 :=
      number_of_rows listed
    have apart : ∀ other ∈ earlierRows, other.symbols.length ≠ 1 :=
      fun other among => earlier other.symbols (List.mem_map_of_mem among)
    refine ⟨first, second, third, _, start, listed, only, earlierRows, row, laterRows, left, rfl,
      apart, lone, ?_, rfl⟩
    simpa using counted.symm

theorem read_ne_noLeftSide (text : String) (number : Nat) :
    read text ≠ .error (.noLeftSide number) := by
  intro refused
  have numbered : (Fault.noLeftSide number).number? ≠ none := nofun
  obtain ⟨_, _, _, _, _, _, _, behind⟩ := (read_eq_error_iff numbered).1 refused
  obtain ⟨_, _, _, _, _, _, _, impossible⟩ := declarationsOf_eq_error_iff.1 behind
  exact nomatch impossible

end Refusals

/-- A text is read exactly if it has three rows, the third of one symbol, and later rows
of none or at least two symbols, and if the grammar described by these symbols is
well-formed; this grammar is then the result. So the symbols on the rows decide the
outcome, up to the line that a fault quotes, and another layout of the same symbols makes
no difference to what is read. The first later row of a single symbol is refused by its
number among all rows, whatever the grammar of the other rows would be, and no row is ever
said to lack its first symbol. -/
theorem read_decided_by_symbols :
    (∀ (text : String) (grammar : Grammar), read text = .ok grammar ↔
        ∃ nonTerminals terminals start later,
          symbolRows text = nonTerminals :: terminals :: [start] :: later ∧
            (∀ symbols ∈ later, symbols = [] ∨ 2 ≤ symbols.length) ∧
            grammar.DescribedBy nonTerminals terminals start later ∧
            grammar.checked = .ok grammar) ∧
      (∀ first second : String, symbolRows first = symbolRows second →
        (read first).mapError Fault.unquoted = (read second).mapError Fault.unquoted) ∧
      (∀ first second : String,
        Relation.EqvGen (Text.Relaid 3) first.toList second.toList →
          ∀ grammar, read first = .ok grammar ↔ read second = .ok grammar) ∧
      (∀ (text : String) (number : Nat) (left : Symbol),
        read text = .error (.noAlternatives number left) ↔
          ∃ nonTerminals terminals start before after,
            symbolRows text =
                nonTerminals :: terminals :: [start] :: (before ++ [left] :: after) ∧
              (∀ symbols ∈ before, symbols.length ≠ 1) ∧ number = before.length + 4) ∧
      (∀ (text : String) nonTerminals terminals start before left after,
        symbolRows text = nonTerminals :: terminals :: [start] :: (before ++ [left] :: after) →
          (∀ symbols ∈ before, symbols.length ≠ 1) →
            (read text).mapError Fault.report = .error ⟨.other,
              [s!"Line {before.length + 4}: production for '{left}' has no alternatives"]⟩) ∧
      ∀ (text : String) (number : Nat), read text ≠ .error (.noLeftSide number) := by
  refine ⟨fun _ _ => read_eq_ok_iff_describedBy,
    fun _ _ same => read_eq_of_symbolRows_eq same,
    fun _ _ relaid _ => read_eq_ok_iff_of_relaid relaid,
    fun _ _ _ => read_eq_noAlternatives_iff, ?_, read_ne_noLeftSide⟩
  intro text nonTerminals terminals start before left after cut noneBefore
  rw [read_eq_noAlternatives_iff.2 ⟨_, _, _, before, after, cut, noneBefore, rfl⟩]
  rfl

/-- A grammar that is described with one non-terminal on two rows. -/
def regathered : Grammar :=
  .ofLists [⟨"S"⟩] [⟨"a"⟩, ⟨"b"⟩]
    [(⟨"S"⟩, [.symbols [⟨"a"⟩, ⟨"S"⟩], .symbols [⟨"b"⟩]])] ⟨"S"⟩

theorem regathered_read :
    read "S\na b\nS\nS aS\nS b aS\n" = .ok regathered ∧
      read "S\r\na b\nS\n\nS aS\nS b\u2003 aS" = .ok regathered ∧
      (read "S \na\nS\ta\nS").mapError Fault.unquoted =
        (read "S\na\nS a\nS").mapError Fault.unquoted ∧
      read "S\n\n S\n\nT cc\n\t\n\tT \r\nS\n" = .error (.noAlternatives 7 ⟨"T"⟩) ∧
      (read "S\n\n S\n\nT cc\n\t\n\tT \r\nS\n").mapError Fault.report =
        .error ⟨.other, ["Line 7: production for 'T' has no alternatives"]⟩ ∧
      read "\n\nS\n\n " ≠ .error (.noLeftSide 4) := by
  obtain ⟨accepted, sameRows, relaidRows, refused, reported, neverMissing⟩ :=
    read_decided_by_symbols
  have described : regathered.DescribedBy [⟨"S"⟩] [⟨"a"⟩, ⟨"b"⟩] ⟨"S"⟩
      [[⟨"S"⟩, ⟨"aS"⟩], [⟨"S"⟩, ⟨"b"⟩, ⟨"aS"⟩]] :=
    (ofLists_eq_iff_describedBy (by decide)).1 (by rfl)
  have plain : read "S\na b\nS\nS aS\nS b aS\n" = .ok regathered :=
    (accepted _ _).2 ⟨_, _, _, _, by rfl, by decide, described, by rfl⟩
  have returned : Text.Relaid 3 "S\na b\nS\nS aS\nS b aS\n".toList
      "S\r\na b\nS\nS aS\nS b aS\n".toList :=
    .blank "S".toList "\na b\nS\nS aS\nS b aS\n".toList '\r' (by decide) (by decide) (by decide)
  have parted : Text.Relaid 3 "S\r\na b\nS\nS aS\nS b aS\n".toList
      "S\r\na b\nS\n\nS aS\nS b aS\n".toList :=
    .emptyLine "S\r\na b\nS".toList "S aS\nS b aS\n".toList (by decide)
  have widened : Text.Relaid 3 "S\r\na b\nS\n\nS aS\nS b aS\n".toList
      "S\r\na b\nS\n\nS aS\nS b\u2003 aS\n".toList :=
    .blank "S\r\na b\nS\n\nS aS\nS b".toList " aS\n".toList '\u2003' (by decide) (by decide)
      (by decide)
  have ended : Text.Relaid 3 "S\r\na b\nS\n\nS aS\nS b\u2003 aS".toList
      "S\r\na b\nS\n\nS aS\nS b\u2003 aS\n".toList := .ended _
  have relaid := ((Relation.EqvGen.rel _ _ returned).trans _ _ _ (.rel _ _ parted)).trans _ _ _
    ((Relation.EqvGen.rel _ _ widened).trans _ _ _ (.symm _ _ (.rel _ _ ended)))
  refine ⟨plain, (relaidRows _ _ relaid _).1 plain, sameRows _ _ (by rfl), ?_, ?_,
    neverMissing _ _⟩
  · exact (refused _ _ _).2 ⟨_, _, _, [[], [⟨"T"⟩, ⟨"cc"⟩], []], _, by rfl, by decide, by rfl⟩
  · exact reported "S\n\n S\n\nT cc\n\t\n\tT \r\nS\n" [⟨"S"⟩] [] ⟨"S"⟩
      [[], [⟨"T"⟩, ⟨"cc"⟩], []] ⟨"T"⟩ [[⟨"S"⟩]] (by rfl) (by decide)

end Grammar
end RightLinear
