import RightLinear.Document
import RightLinear.Layout.Rows
import RightLinear.Proofs.Results
import RightLinear.Proofs.Text.Relaid

/-! # Rows of symbols

Of each line of a description only its symbols decide whether it is accepted and
what it declares. Rows are counted over all lines, and of those that are not accepted
the first is named. A document whose lines are tokens with plain spaces between
them has rows of just these symbols, and a row of any text has symbols that are
tokens.
-/

namespace RightLinear

/-- A name that can stand in a description: it is not empty and has no blank. -/
def Symbol.IsToken (symbol : Symbol) : Prop := Text.IsToken symbol.text.toList

instance (symbol : Symbol) : Decidable symbol.IsToken :=
  inferInstanceAs (Decidable (Text.IsToken _))

theorem Symbol.IsToken.length_ne_zero {symbol : Symbol} (isToken : symbol.IsToken) :
    symbol.text.length ≠ 0 := by
  rw [← String.length_toList]
  exact mt List.length_eq_zero_iff.1 isToken.1

namespace Layout

theorem Row.isEmpty_iff {row : Row} : row.isEmpty = true ↔ row.symbols = [] := by
  rw [Row.isEmpty, List.isEmpty_iff, Text.trim_eq_nil_iff, Row.symbols, List.map_eq_nil_iff,
    Text.tokens_eq_nil_iff]

/-- The symbols of the lines of a text. -/
def symbolRows (text : String) : List (List Symbol) := (rows text).map Row.symbols

theorem symbolRows_eq (text : String) :
    symbolRows text =
      (Text.lines text.toList).map fun line =>
        (Text.tokens line).map fun token => ⟨String.ofList token⟩ := by
  have numbered : symbolRows text =
      (((Text.lines text.toList).zipIdx 1).map Prod.fst).map fun line =>
        (Text.tokens line).map fun token => ⟨String.ofList token⟩ := by
    simp only [symbolRows, rows, List.map_map]
    rfl
  rw [numbered, List.zipIdx_map_fst]

theorem length_symbolRows (text : String) :
    (symbolRows text).length = (Text.lines text.toList).length := by
  rw [symbolRows_eq, List.length_map]

/-- Rows are counted from one, and none is left out. -/
theorem getElem?_rows (text : String) (index : Nat) :
    (rows text)[index]? =
      (Text.lines text.toList)[index]?.map fun line => ⟨index + 1, line⟩ := by
  rw [rows, List.getElem?_map, List.getElem?_zipIdx, Option.map_map, Nat.add_comm 1 index]
  rfl

theorem exists_line_of_rows {text : String} {before after : List Row} {row : Row}
    (cut : rows text = before ++ row :: after) :
    ∃ line, (Text.lines text.toList)[before.length]? = some line ∧
      ⟨before.length + 1, line⟩ = row := by
  have found : (rows text)[before.length]? = some row := by simp [cut]
  rwa [getElem?_rows, Option.map_eq_some_iff] at found

theorem number_of_rows {text : String} {before after : List Row} {row : Row}
    (cut : rows text = before ++ row :: after) : row.number = before.length + 1 := by
  obtain ⟨line, _, rfl⟩ := exists_line_of_rows cut
  rfl

/-- The outline of the rows of symbols is that of the tokens. -/
theorem outline_symbolRows (headers : Nat) (text : String) :
    Text.outline headers (symbolRows text) =
      (Text.tokenOutline headers text.toList).map
        (List.map fun token => ⟨String.ofList token⟩) := by
  rw [symbolRows_eq, Text.tokenOutline, ← Text.outline_map, List.map_map]
  rfl

/-- Rows of one number with the same symbols. -/
structure Row.Alike (first second : Row) : Prop where
  number_eq : first.number = second.number
  symbols_eq : first.symbols = second.symbols

theorem Row.Alike.isEmpty_eq {first second : Row} (alike : first.Alike second) :
    first.isEmpty = second.isEmpty := by
  rw [Bool.eq_iff_iff, Row.isEmpty_iff, Row.isEmpty_iff, alike.symbols_eq]

/-- Texts with the same rows of symbols differ only within their lines. -/
theorem forall₂_alike_rows {first second : String}
    (same : symbolRows first = symbolRows second) :
    List.Forall₂ Row.Alike (rows first) (rows second) := by
  unfold symbolRows rows at *
  generalize Text.lines first.toList = firstLines at same ⊢
  generalize Text.lines second.toList = secondLines at same ⊢
  generalize 1 = start at same ⊢
  induction firstLines generalizing secondLines start with
  | nil =>
      cases secondLines with
      | nil => exact .nil
      | cons line later => exact nomatch same
  | cons line later induction =>
      cases secondLines with
      | nil => exact nomatch same
      | cons other others =>
          obtain ⟨here, behind⟩ := List.cons.inj same
          exact .cons ⟨rfl, here⟩ (induction others (start + 1) behind)

theorem isToken_of_mem_symbolRows {text : String} {symbols : List Symbol} {symbol : Symbol}
    (listed : symbols ∈ symbolRows text) (member : symbol ∈ symbols) : symbol.IsToken := by
  rw [symbolRows_eq] at listed
  obtain ⟨line, _, rfl⟩ := List.mem_map.1 listed
  obtain ⟨token, inLine, rfl⟩ := List.mem_map.1 member
  rw [Symbol.IsToken, String.toList_ofList]
  exact Text.isToken_of_mem_tokens inLine

/-- The line of some symbols, as it is written. -/
def lineText (symbols : List Symbol) : String := Symbol.joined " " symbols ++ "\n"

section Written

variable {symbols : List Symbol}

theorem isToken_of_mem_texts (areTokens : ∀ symbol ∈ symbols, symbol.IsToken) :
    ∀ token ∈ symbols.map fun symbol => symbol.text.toList, Text.IsToken token := by
  intro token listed
  obtain ⟨symbol, member, rfl⟩ := List.mem_map.1 listed
  exact areTokens symbol member

theorem newline_not_mem_joined (separator : String) (plain : ¬ '\n' ∈ separator.toList)
    (areTokens : ∀ symbol ∈ symbols, symbol.IsToken) :
    ¬ '\n' ∈ (Symbol.joined separator symbols).toList := by
  rw [Symbol.toList_joined]
  exact Text.newline_not_mem_intercalate plain (isToken_of_mem_texts areTokens)

theorem tokens_joined (areTokens : ∀ symbol ∈ symbols, symbol.IsToken) :
    (Text.tokens (Symbol.joined " " symbols).toList).map (fun token => ⟨String.ofList token⟩) =
      symbols := by
  have written : (Symbol.joined " " symbols).toList =
      [' '].intercalate (symbols.map fun symbol => symbol.text.toList) :=
    Symbol.toList_joined " " symbols
  rw [written, Text.tokens_intercalate_space (isToken_of_mem_texts areTokens), List.map_map]
  calc
    symbols.map _ = symbols.map id := by
      apply List.map_congr_left
      intro symbol _
      simp
    _ = symbols := List.map_id symbols

end Written

/-- A document whose lines hold tokens is read as rows of these tokens. -/
theorem symbolRows_of_document {document : Document} {all : List (List Symbol)}
    (written : document.map Piece.text = all.map lineText)
    (areTokens : ∀ symbols ∈ all, ∀ symbol ∈ symbols, symbol.IsToken) :
    symbolRows document.text = all := by
  have chars : document.text.toList =
      (all.map fun symbols => (Symbol.joined " " symbols).toList).flatMap (· ++ ['\n']) := by
    rw [Document.text, written, String.toList_join]
    simp [List.flatMap_map, lineText]
  have whole : ∀ line ∈ all.map fun symbols => (Symbol.joined " " symbols).toList,
      ¬ '\n' ∈ line := by
    intro line listed
    obtain ⟨symbols, inAll, rfl⟩ := List.mem_map.1 listed
    exact newline_not_mem_joined " " (by decide) (areTokens symbols inAll)
  rw [symbolRows_eq, chars, Text.lines_flatMap_append_newline whole, List.map_map]
  calc
    all.map _ = all.map id := by
      apply List.map_congr_left
      intro symbols listed
      exact tokens_joined (areTokens symbols listed)
    _ = all := List.map_id all

section Collecting

variable {δ : Type} (reading : Row → Except Fault (Option δ))
  (collect : List Row → Except Fault (List δ)) {fits : List Symbol → Prop}
  {said? : List Symbol → Option δ}

/-- Where the symbols of a row decide whether it is accepted and what it declares, the
symbols of all rows decide what is collected from them. -/
theorem collect_eq_ok_iff (nil : collect [] = .ok [])
    (cons : ∀ row later, collect (row :: later) = do
      let declaration ← reading row
      let declarations ← collect later
      return declaration.toList ++ declarations)
    (reads : ∀ row result, reading row = .ok result ↔
      fits row.symbols ∧ said? row.symbols = result)
    {later : List Row} {declarations : List δ} :
    collect later = .ok declarations ↔
      (∀ symbols ∈ later.map Row.symbols, fits symbols) ∧
        (later.map Row.symbols).filterMap said? = declarations := by
  induction later generalizing declarations with
  | nil => simp [nil]
  | cons row later induction =>
      have split : (row.symbols :: later.map Row.symbols).filterMap said? =
          (said? row.symbols).toList ++ (later.map Row.symbols).filterMap said? := by
        cases said : said? row.symbols with
        | none => rw [List.filterMap_cons_none said, Option.toList_none, List.nil_append]
        | some declaration =>
            rw [List.filterMap_cons_some said, Option.toList_some, List.singleton_append]
      rw [cons, List.map_cons, List.forall_mem_cons, split]
      simp only [bind_eq_ok_iff, reads, induction, pure, Except.pure, Except.ok.injEq]
      constructor
      · rintro ⟨_, ⟨fitsHere, rfl⟩, _, ⟨fitLater, rfl⟩, rfl⟩
        exact ⟨⟨fitsHere, fitLater⟩, rfl⟩
      · rintro ⟨⟨fitsHere, fitLater⟩, rfl⟩
        exact ⟨_, ⟨fitsHere, rfl⟩, _, ⟨fitLater, rfl⟩, rfl⟩

theorem collect_eq_error_iff (nil : collect [] = .ok [])
    (cons : ∀ row later, collect (row :: later) = do
      let declaration ← reading row
      let declarations ← collect later
      return declaration.toList ++ declarations)
    {later : List Row} {fault : Fault} :
    collect later = .error fault ↔
      ∃ before row after, later = before ++ row :: after ∧
        (∀ earlier ∈ before, ∃ result, reading earlier = .ok result) ∧
          reading row = .error fault := by
  induction later with
  | nil => simp [nil]
  | cons row later induction =>
      rw [cons, bind_eq_error_iff]
      constructor
      · rintro (refused | ⟨result, accepted, refused⟩)
        · exact ⟨[], row, later, rfl, List.forall_mem_nil _, refused⟩
        · rcases bind_eq_error_iff.1 refused with behind | ⟨_, _, impossible⟩
          · obtain ⟨before, other, after, rfl, earlier, atOther⟩ := induction.1 behind
            exact ⟨row :: before, other, after, rfl,
              List.forall_mem_cons.2 ⟨⟨result, accepted⟩, earlier⟩, atOther⟩
          · exact nomatch impossible
      · rintro ⟨before, other, after, cut, earlier, atOther⟩
        cases before with
        | nil =>
            cases cut
            exact Or.inl atOther
        | cons first before =>
            cases cut
            obtain ⟨⟨result, accepted⟩, earlier⟩ := List.forall_mem_cons.1 earlier
            have behind := induction.2 ⟨before, other, after, rfl, earlier, atOther⟩
            exact Or.inr ⟨result, accepted, bind_eq_error_iff.2 (Or.inl behind)⟩

end Collecting

/-- A fault without the line that it quotes. -/
def Fault.unquoted : Fault → Fault
  | .crowded header _ => .crowded header ""
  | .notTransition number _ => .notTransition number ""
  | fault => fault

/-- The number of the row that a fault names. -/
def Fault.number? : Fault → Option Nat
  | .noLeftSide number => some number
  | .noAlternatives number _ => some number
  | .notTransition number _ => some number
  | _ => none

theorem single_eq_ok_iff {header : Header} {row : Row} {symbol : Symbol} :
    single header row = .ok symbol ↔ row.symbols = [symbol] := by
  unfold single
  split
  · next only found => simp [found]
  · next found => simp [found]
  · next notSingle notEmpty =>
      simp only [reduceCtorEq, false_iff]
      exact notSingle symbol

theorem Row.Alike.single_eq {first second : Row} (alike : first.Alike second) (header : Header) :
    (single header first).mapError Fault.unquoted =
      (single header second).mapError Fault.unquoted := by
  unfold single
  rw [alike.symbols_eq]
  split
  · rfl
  · rfl
  · rfl

theorem number?_eq_none_of_single {header : Header} {row : Row} {fault : Fault}
    (refused : single header row = .error fault) : fault.number? = none := by
  unfold single at refused
  split at refused
  · exact nomatch refused
  · cases refused
    rfl
  · cases refused
    rfl

end Layout
end RightLinear
