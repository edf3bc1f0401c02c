/-! # Blanks, lines and tokens

A character is blank if Unicode gives it the property `White_Space`. These are
the tab and the line and page ends, the plain space, and the spaces of various
widths; joiners and zero-width spaces are not among them.

A text is cut into lines at line feeds, and a line into tokens at blanks. A
line feed ends a line, so that a text that ends in one has no further, empty
line after it. A carriage return stays on its line, where it is a blank among
others. Tokens are what stands between blanks and is not empty.
-/

namespace RightLinear
namespace Text

/-- Tells whether a code point lies in one of the ranges. -/
def inRanges (ranges : List (Nat × Nat)) (char : Char) : Bool :=
  ranges.any fun range => range.1 ≤ char.toNat && char.toNat ≤ range.2

/-- The code points with the property `White_Space`. -/
def blankRanges : List (Nat × Nat) :=
  [(0x9, 0xd), (0x20, 0x20), (0x85, 0x85), (0xa0, 0xa0), (0x1680, 0x1680),
    (0x2000, 0x200a), (0x2028, 0x2029), (0x202f, 0x202f), (0x205f, 0x205f),
    (0x3000, 0x3000)]

/-- A character with the property `White_Space`. -/
def isBlank (char : Char) : Bool := inRanges blankRanges char

variable {α : Type}

/-- Cuts at every separator; between two separators next to each other, and
before the first and after the last item, the piece is empty. -/
def pieces (separates : α → Bool) : List α → List (List α)
  | [] => [[]]
  | item :: items =>
      if separates item then [] :: pieces separates items
      else
        match pieces separates items with
        | [] => [[item]]
        | piece :: later => (item :: piece) :: later

theorem pieces_ne_nil (separates : α → Bool) (items : List α) :
    pieces separates items ≠ [] := by
  cases items with
  | nil => simp [pieces]
  | cons item items =>
      unfold pieces
      split
      · simp
      · split <;> simp

theorem pieces_of_plain {separates : α → Bool} {items : List α}
    (plain : ∀ item ∈ items, separates item = false) :
    pieces separates items = [items] := by
  induction items with
  | nil => rfl
  | cons item items induction =>
      have here : separates item = false := plain item List.mem_cons_self
      have later := induction fun other member =>
        plain other (List.mem_cons_of_mem item member)
      simp [pieces, here, later]

/-- The lines of a text, without their line feeds. -/
def lines (text : List Char) : List (List Char) :=
  let all := pieces (· == '\n') text
  if all.getLast? = some [] then all.dropLast else all

/-- The runs of characters between blanks. -/
def tokens (text : List Char) : List (List Char) :=
  (pieces isBlank text).filter (! ·.isEmpty)

/-- Takes the blanks away at both ends. -/
def trim (text : List Char) : List Char :=
  (((text.dropWhile isBlank).reverse).dropWhile isBlank).reverse

end Text
end RightLinear
