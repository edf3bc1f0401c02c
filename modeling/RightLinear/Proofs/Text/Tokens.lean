import Mathlib.Data.List.DropRight
import RightLinear.Text.Lines

/-! # Putting lines and tokens together

Cutting undoes joining. Tokens with a plain space between them are the tokens of
the line that they form, and lines that each end in a line feed are the lines of
the text that they form. What is cut out of a text is always a token: it is not
empty, and no blank is in it.
-/

namespace RightLinear
namespace Text

section Pieces

variable {α : Type} {separates : α → Bool}

theorem not_separates_of_mem_pieces {items piece : List α} {item : α}
    (listed : piece ∈ pieces separates items) (member : item ∈ piece) :
    separates item = false := by
  induction items generalizing piece with
  | nil =>
      cases List.mem_singleton.1 listed
      exact absurd member List.not_mem_nil
  | cons head items induction =>
      unfold pieces at listed
      split at listed
      · rcases List.mem_cons.1 listed with first | later
        · exact absurd (first ▸ member) List.not_mem_nil
        · exact induction later member
      · next plain =>
          obtain ⟨first, later, cut⟩ := List.exists_cons_of_ne_nil (pieces_ne_nil separates items)
          rw [cut] at listed induction
          rcases List.mem_cons.1 listed with atHead | behind
          · cases atHead
            rcases List.mem_cons.1 member with isHead | inFirst
            · rw [isHead]
              simpa using plain
            · exact induction List.mem_cons_self inFirst
          · exact induction (List.mem_cons_of_mem first behind) member

/-- Behind a last item that separates nothing, no empty piece is left. -/
theorem getLast?_pieces_ne_nil {items : List α} {last : α} (isLast : items.getLast? = some last)
    (plain : separates last = false) : (pieces separates items).getLast? ≠ some [] := by
  induction items with
  | nil => simp at isLast
  | cons item items induction =>
      cases items with
      | nil =>
          have same : item = last := by simpa using isLast
          simp [pieces, same, plain]
      | cons second rest =>
          rw [List.getLast?_cons_cons] at isLast
          obtain ⟨first, later, cut⟩ :=
            List.exists_cons_of_ne_nil (pieces_ne_nil separates (second :: rest))
          have filled := induction isLast
          rw [cut] at filled
          rw [pieces, cut]
          by_cases here : separates item = true
          · rwa [if_pos here, List.getLast?_cons_cons]
          · rw [if_neg here]
            cases later with
            | nil => simp
            | cons next later => rwa [List.getLast?_cons_cons] at filled ⊢

theorem pieces_append_separator {separator : α} (isSeparator : separates separator = true)
    (before after : List α) :
    pieces separates (before ++ separator :: after) =
      pieces separates before ++ pieces separates after := by
  induction before with
  | nil => simp [pieces, isSeparator]
  | cons item before induction =>
      obtain ⟨first, later, cut⟩ := List.exists_cons_of_ne_nil (pieces_ne_nil separates before)
      rw [List.cons_append, pieces, pieces, induction, cut]
      split
      · rfl
      · rfl

/-- What is put in front goes to the first piece, from its own last separator on. -/
theorem exists_pieces_append (separates : α → Bool) (first : List α) :
    ∃ whole last, last <:+ first ∧ ∀ second head tail, pieces separates second = head :: tail →
      pieces separates (first ++ second) = whole ++ (last ++ head) :: tail := by
  induction first using List.reverseRecOn with
  | nil => exact ⟨[], [], List.suffix_rfl, fun second head tail cut => cut⟩
  | append_singleton first item induction =>
      by_cases here : separates item = true
      · refine ⟨pieces separates first, [], List.nil_suffix, fun second head tail cut => ?_⟩
        rw [List.append_assoc, List.singleton_append, pieces_append_separator here, cut,
          List.nil_append]
      · obtain ⟨whole, last, isSuffix, joined⟩ := induction
        refine ⟨whole, last ++ [item], List.suffix_append_self_iff.2 isSuffix,
          fun second head tail cut => ?_⟩
        have behind : pieces separates (item :: second) = (item :: head) :: tail := by
          rw [pieces, if_neg here, cut]
        rw [List.append_assoc, List.singleton_append, joined _ _ _ behind, List.append_assoc,
          List.singleton_append]

theorem prefix_of_pieces_eq_cons {items head : List α} {tail : List (List α)}
    (cut : pieces separates items = head :: tail) : head <+: items := by
  induction items generalizing head tail with
  | nil =>
      cases cut
      exact List.prefix_rfl
  | cons item items induction =>
      obtain ⟨first, later, found⟩ := List.exists_cons_of_ne_nil (pieces_ne_nil separates items)
      rw [pieces, found] at cut
      split at cut
      · cases cut
        exact List.nil_prefix
      · cases cut
        exact List.cons_prefix_cons.2 ⟨rfl, induction found⟩

theorem length_pieces (separates : α → Bool) (items : List α) :
    (pieces separates items).length = items.countP separates + 1 := by
  induction items with
  | nil => rfl
  | cons item items induction =>
      obtain ⟨first, later, cut⟩ := List.exists_cons_of_ne_nil (pieces_ne_nil separates items)
      rw [cut] at induction
      rw [pieces, cut, List.countP_cons]
      by_cases here : separates item = true
      · rw [if_pos here, if_pos here, List.length_cons, induction]
      · rw [if_neg here, if_neg here, ← induction]
        rfl

/-- Pieces that each end in a separator are cut out again, with nothing left behind
the last one. -/
theorem pieces_flatMap_append_singleton {separator : α} (isSeparator : separates separator = true)
    {all : List (List α)} (plain : ∀ piece ∈ all, ∀ item ∈ piece, separates item = false) :
    pieces separates (all.flatMap (· ++ [separator])) = all ++ [[]] := by
  induction all with
  | nil => rfl
  | cons first others induction =>
      rw [List.flatMap_cons, List.append_assoc, List.singleton_append,
        pieces_append_separator isSeparator, pieces_of_plain (plain first List.mem_cons_self),
        induction fun piece listed => plain piece (List.mem_cons_of_mem first listed),
        List.singleton_append, List.cons_append]

end Pieces

theorem lines_flatMap_append_newline {all : List (List Char)}
    (whole : ∀ line ∈ all, ¬ '\n' ∈ line) : lines (all.flatMap (· ++ ['\n'])) = all := by
  have plain : ∀ line ∈ all, ∀ char ∈ line, (char == '\n') = false := by
    intro line listed char member
    exact beq_false_of_ne fun same => whole line listed (same ▸ member)
  have cut : pieces (· == '\n') (all.flatMap (· ++ ['\n'])) = all ++ [[]] :=
    pieces_flatMap_append_singleton rfl plain
  simp [lines, cut]

/-- A token is not empty, and no blank is in it. -/
def IsToken (chars : List Char) : Prop := chars ≠ [] ∧ ∀ char ∈ chars, isBlank char = false

instance (chars : List Char) : Decidable (IsToken chars) :=
  @instDecidableAnd (chars ≠ []) (∀ char ∈ chars, isBlank char = false) inferInstance
    (List.decidableBAll _ chars)

theorem isToken_of_mem_tokens {text token : List Char} (listed : token ∈ tokens text) :
    IsToken token := by
  obtain ⟨isPiece, filled⟩ := List.mem_filter.1 listed
  refine ⟨by simpa using filled, ?_⟩
  intro char member
  exact not_separates_of_mem_pieces isPiece member

theorem tokens_singleton {token : List Char} (isToken : IsToken token) :
    tokens token = [token] := by
  rw [tokens, pieces_of_plain isToken.2]
  simp [isToken.1]

/-- What stands on the two sides of a blank has its tokens apart. -/
theorem tokens_append_blank {blank : Char} (blanks : isBlank blank = true)
    (before after : List Char) :
    tokens (before ++ blank :: after) = tokens before ++ tokens after := by
  rw [tokens, pieces_append_separator blanks, List.filter_append]
  rfl

theorem tokens_blank_cons {blank : Char} (blanks : isBlank blank = true) (rest : List Char) :
    tokens (blank :: rest) = tokens rest :=
  tokens_append_blank blanks [] rest

theorem tokens_append_singleton_blank {blank : Char} (blanks : isBlank blank = true)
    (text : List Char) : tokens (text ++ [blank]) = tokens text := by
  rw [tokens_append_blank blanks]
  exact List.append_nil (tokens text)

theorem tokens_eq_nil_iff {text : List Char} :
    tokens text = [] ↔ ∀ char ∈ text, isBlank char = true := by
  induction text with
  | nil => simp [tokens, pieces]
  | cons char text induction =>
      rw [List.forall_mem_cons]
      by_cases blanks : isBlank char = true
      · rw [tokens_blank_cons blanks, induction]
        exact (and_iff_right blanks).symm
      · obtain ⟨first, later, cut⟩ := List.exists_cons_of_ne_nil (pieces_ne_nil isBlank text)
        have filled : tokens (char :: text) ≠ [] := by
          rw [tokens, pieces, if_neg blanks, cut]
          exact List.cons_ne_nil (char :: first) _
        exact iff_of_false filled fun allBlank => blanks allBlank.1

/-- What trimming leaves begins with no blank, so nothing is left only of blanks. -/
theorem trim_eq_nil_iff {text : List Char} :
    trim text = [] ↔ ∀ char ∈ text, isBlank char = true := by
  calc
    trim text = [] ↔ (text.dropWhile isBlank).rdropWhile isBlank = [] := Iff.rfl
    _ ↔ ∀ char ∈ text.dropWhile isBlank, isBlank char = true := List.rdropWhile_eq_nil_iff
    _ ↔ (text.dropWhile isBlank).dropWhile isBlank = [] := List.dropWhile_eq_nil_iff.symm
    _ ↔ text.dropWhile isBlank = [] := by rw [List.dropWhile_idempotent]
    _ ↔ ∀ char ∈ text, isBlank char = true := List.dropWhile_eq_nil_iff

theorem tokens_intercalate_space {all : List (List Char)}
    (areTokens : ∀ token ∈ all, IsToken token) : tokens ([' '].intercalate all) = all := by
  induction all with
  | nil => rfl
  | cons first others induction =>
      have isToken := areTokens first List.mem_cons_self
      have later := induction fun token listed =>
        areTokens token (List.mem_cons_of_mem first listed)
      cases others with
      | nil => rw [List.intercalate_singleton, tokens_singleton isToken]
      | cons second others =>
          rw [List.intercalate_cons_cons, List.append_assoc, List.singleton_append,
            tokens_append_blank (by decide), tokens_singleton isToken, later,
            List.singleton_append]

theorem newline_not_mem_of_isToken {token : List Char} (isToken : IsToken token) :
    ¬ '\n' ∈ token := by
  intro member
  have plain := isToken.2 '\n' member
  exact absurd plain (by decide)

theorem mem_intercalate {char : Char} {separator : List Char} {all : List (List Char)}
    (isOther : ¬ char ∈ separator) :
    char ∈ separator.intercalate all ↔ ∃ text ∈ all, char ∈ text := by
  induction all with
  | nil => simp
  | cons first others induction =>
      cases others with
      | nil => simp
      | cons second others =>
          rw [List.intercalate_cons_cons, List.append_assoc, List.mem_append, List.mem_append,
            induction, List.exists_mem_cons_iff]
          simp [isOther]

theorem newline_not_mem_intercalate {separator : List Char} {all : List (List Char)}
    (plain : ¬ '\n' ∈ separator) (areTokens : ∀ token ∈ all, IsToken token) :
    ¬ '\n' ∈ separator.intercalate all := by
  rw [mem_intercalate plain]
  rintro ⟨token, listed, member⟩
  exact newline_not_mem_of_isToken (areTokens token listed) member

end Text
end RightLinear
