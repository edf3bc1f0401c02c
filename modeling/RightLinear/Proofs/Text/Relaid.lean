import Mathlib.Logic.Relation
import RightLinear.Proofs.Text.Tokens

/-! # Texts laid out in another way

A text can be laid out in many ways without a token being lost or moved to another
line: blanks can be wider or of another kind, lines can end in a carriage return, the
last line feed can be left out, and, behind the first lines, lines can be left empty.
The outline of a text is what all of these leave alone.
-/

namespace RightLinear
namespace Text

section Outline

variable {α β : Type}

/-- Some first rows, where a missing row counts as an empty one, and those of the later
rows that are not empty. -/
def outline : Nat → List (List α) → List (List α)
  | 0, rows => rows.filter (! ·.isEmpty)
  | headers + 1, rows => rows.headD [] :: outline headers rows.tail

theorem outline_append_empty (headers : Nat) (rows : List (List α)) :
    outline headers (rows ++ [[]]) = outline headers rows := by
  induction headers generalizing rows with
  | zero => simp [outline]
  | succ headers induction =>
      cases rows with
      | nil => cases headers <;> rfl
      | cons row rows => exact congrArg (row :: ·) (induction rows)

theorem outline_append_empty_cons {headers : Nat} {before : List (List α)}
    (behind : headers ≤ before.length) (after : List (List α)) :
    outline headers (before ++ [] :: after) = outline headers (before ++ after) := by
  induction headers generalizing before with
  | zero => simp [outline]
  | succ headers induction =>
      obtain ⟨row, rows, rfl⟩ := List.exists_cons_of_length_pos (Nat.zero_lt_of_lt behind)
      exact congrArg (row :: ·) (induction (Nat.le_of_succ_le_succ behind))

theorem outline_map (change : α → β) (headers : Nat) (rows : List (List α)) :
    outline headers (rows.map (List.map change)) =
      (outline headers rows).map (List.map change) := by
  induction headers generalizing rows with
  | zero => simp [outline, List.filter_map, Function.comp_def]
  | succ headers induction =>
      cases rows with
      | nil => simpa [outline] using induction []
      | cons row rows => simpa [outline] using induction rows

/-- Rows that are there begin the outline, and behind them empty rows are left out. -/
theorem outline_eq_append_iff (front : List (List α)) {rows later : List (List α)}
    (long : front.length ≤ rows.length) :
    outline front.length rows = front ++ later ↔
      ∃ all, rows = front ++ all ∧ all.filter (! ·.isEmpty) = later := by
  induction front generalizing rows with
  | nil => simp [outline]
  | cons row front induction =>
      obtain ⟨first, rest, rfl⟩ := List.exists_cons_of_length_pos (Nat.zero_lt_of_lt long)
      have behind := induction (Nat.le_of_succ_le_succ long)
      rw [List.length_cons, outline, List.headD_cons, List.tail_cons, List.cons_append,
        List.cons.injEq, behind]
      simp only [List.cons_append, List.cons.injEq, and_assoc, exists_and_left]

/-- Nothing is lost with the empty rows if they have nothing to say. -/
theorem filterMap_filter_not_isEmpty {said? : List α → Option β} (nothing : said? [] = none)
    (rows : List (List α)) :
    (rows.filter (! ·.isEmpty)).filterMap said? = rows.filterMap said? := by
  rw [List.filterMap_filter]
  apply List.filterMap_congr
  intro row _
  cases row with
  | nil => exact nothing.symm
  | cons item rest => rfl

theorem forall_mem_filter_not_isEmpty {fits : List α → Prop} (empty : fits [])
    (rows : List (List α)) :
    (∀ row ∈ rows.filter (! ·.isEmpty), fits row) ↔ ∀ row ∈ rows, fits row := by
  constructor
  · intro fit row listed
    cases row with
    | nil => exact empty
    | cons item rest => exact fit _ (List.mem_filter.2 ⟨listed, rfl⟩)
  · exact fun fit row listed => fit row (List.mem_of_mem_filter listed)

end Outline

/-- The outline of the tokens on the lines of a text. -/
def tokenOutline (headers : Nat) (text : List Char) : List (List (List Char)) :=
  outline headers ((lines text).map tokens)

/-- Whether an empty piece is left behind the last line feed makes no difference. -/
theorem tokenOutline_eq (headers : Nat) (text : List Char) :
    tokenOutline headers text = outline headers ((pieces (· == '\n') text).map tokens) := by
  rw [tokenOutline, lines]
  generalize pieces (· == '\n') text = all
  split
  · next ends =>
      have cut : all.dropLast ++ [[]] = all := List.dropLast_append_getLast? [] ends
      calc
        outline headers (all.dropLast.map tokens) =
            outline headers (all.dropLast.map tokens ++ [[]]) :=
          (outline_append_empty headers _).symm
        _ = outline headers ((all.dropLast ++ [[]]).map tokens) := by
          rw [List.map_append]
          rfl
        _ = outline headers (all.map tokens) := by rw [cut]
  · rfl

/-- No token of the text before goes on in the text after. -/
def Apart (before after : List Char) : Prop :=
  before.getLast?.all isBlank = true ∨ after.head?.all isBlank = true

instance (before after : List Char) : Decidable (Apart before after) :=
  inferInstanceAs (Decidable (_ ∨ _))

/-- One change of the layout, behind the given number of first lines or within a line. -/
inductive Relaid (headers : Nat) : List Char → List Char → Prop
  /-- One more blank at the beginning, at the end or next to another blank. The line
  feed is not meant here, but it counts as a blank that another one can stand next to. -/
  | blank (before after : List Char) (extra : Char) (blanks : isBlank extra = true)
      (sameLine : extra ≠ '\n') (apart : Apart before after) :
      Relaid headers (before ++ after) (before ++ extra :: after)
  /-- One more line feed at the end. -/
  | ended (text : List Char) : Relaid headers text (text ++ ['\n'])
  /-- One more empty line behind the first lines. -/
  | emptyLine (before after : List Char) (behind : headers ≤ before.count '\n' + 1) :
      Relaid headers (before ++ '\n' :: after) (before ++ '\n' :: '\n' :: after)

variable {headers : Nat} {first second : List Char}

theorem Apart.of_suffix_of_prefix {before after last head : List Char} (apart : Apart before after)
    (isSuffix : last <:+ before) (isPrefix : head <+: after) : Apart last head := by
  obtain ⟨front, rfl⟩ := isSuffix
  obtain ⟨back, rfl⟩ := isPrefix
  simp only [Apart, Option.all_eq_true] at apart ⊢
  apply apart.imp
  · intro blankLast item isLast
    exact blankLast item (List.mem_getLast?_append_of_mem_getLast? isLast)
  · intro blankNext item isNext
    exact blankNext item (List.mem_head?_append_of_mem_head? isNext)

theorem Apart.tokens_append {before after : List Char} (apart : Apart before after) :
    tokens (before ++ after) = tokens before ++ tokens after := by
  rcases apart with blankLast | blankNext
  · rcases List.eq_nil_or_concat' before with rfl | ⟨rest, last, rfl⟩
    · rfl
    · have blanks : isBlank last = true := by simpa using blankLast
      rw [List.append_assoc, List.singleton_append, tokens_append_blank blanks,
        tokens_append_singleton_blank blanks]
  · cases after with
    | nil => simp [tokens, pieces]
    | cons next rest =>
        have blanks : isBlank next = true := blankNext
        rw [tokens_append_blank blanks, tokens_blank_cons blanks]

/-- A blank where no token goes on leaves the tokens on each line as they are. -/
theorem Apart.map_tokens_pieces {before after : List Char} (apart : Apart before after)
    {extra : Char} (blanks : isBlank extra = true) (sameLine : extra ≠ '\n') :
    (pieces (· == '\n') (before ++ extra :: after)).map tokens =
      (pieces (· == '\n') (before ++ after)).map tokens := by
  obtain ⟨whole, last, isSuffix, joined⟩ := exists_pieces_append (· == '\n') before
  obtain ⟨head, tail, cut⟩ := List.exists_cons_of_ne_nil (pieces_ne_nil (· == '\n') after)
  have cutBehind : pieces (· == '\n') (extra :: after) = (extra :: head) :: tail := by
    rw [pieces, if_neg (by simpa using sameLine), cut]
  have apartHere : Apart last head :=
    apart.of_suffix_of_prefix isSuffix (prefix_of_pieces_eq_cons cut)
  rw [joined _ _ _ cutBehind, joined _ _ _ cut, List.map_append, List.map_append, List.map_cons,
    List.map_cons, tokens_append_blank blanks, apartHere.tokens_append]

theorem Relaid.tokenOutline_eq (relaid : Relaid headers first second) :
    tokenOutline headers first = tokenOutline headers second := by
  rw [Text.tokenOutline_eq, Text.tokenOutline_eq]
  cases relaid with
  | blank before after extra blanks sameLine apart =>
      rw [apart.map_tokens_pieces blanks sameLine]
  | ended =>
      rw [pieces_append_separator (by rfl), List.map_append]
      exact (outline_append_empty headers _).symm
  | emptyLine before after behind =>
      have long : headers ≤ ((pieces (· == '\n') before).map tokens).length := by
        rw [List.length_map, length_pieces]
        exact behind
      rw [pieces_append_separator (by rfl), pieces_append_separator (by rfl), List.map_append,
        List.map_append]
      exact (outline_append_empty_cons long _).symm

theorem tokenOutline_eq_of_eqvGen (relaid : Relation.EqvGen (Relaid headers) first second) :
    tokenOutline headers first = tokenOutline headers second := by
  induction relaid with
  | rel _ _ once => exact once.tokenOutline_eq
  | refl _ => rfl
  | symm _ _ _ induction => exact induction.symm
  | trans _ _ _ _ _ firstInduction secondInduction =>
      exact firstInduction.trans secondInduction

end Text
end RightLinear
