/-! # Symbols

One type of names serves terminals and non-terminals of a grammar, states and
letters of an automaton. A symbol is any text, and two symbols are the same if
their texts are.
-/

namespace RightLinear

/-- The text that stands for the empty word on a right-hand side. -/
def epsilonMarker : String := "eps"

/-- A name, given by its text. -/
structure Symbol where
  text : String
  deriving DecidableEq, Inhabited

/-- A word is a list of symbols. -/
abbrev Word := List Symbol

namespace Symbol

instance : ToString Symbol := ⟨text⟩

/-- Symbols are ordered as their texts, code point by code point. This is also
the order of their UTF-8 bytes. -/
instance : Ord Symbol := ⟨fun first second => compare first.text second.text⟩

def ofChar (char : Char) : Symbol := ⟨String.singleton char⟩

def isMarker (symbol : Symbol) : Bool := symbol.text == epsilonMarker

/-- The texts of some symbols with a separator between them. -/
def joined (separator : String) (symbols : List Symbol) : String :=
  String.intercalate separator (symbols.map text)

theorem toList_joined (separator : String) (symbols : List Symbol) :
    (joined separator symbols).toList =
      separator.toList.intercalate (symbols.map fun symbol => symbol.text.toList) := by
  rw [joined, String.toList_intercalate, List.map_map]
  rfl

end Symbol

/-- The word of a text has one symbol for each character. -/
def Word.ofText (text : String) : Word := text.toList.map Symbol.ofChar

/-- The texts of the symbols of a word, one after the other. -/
def Word.text (word : Word) : String := String.join (word.map Symbol.text)

theorem Word.text_ofText (text : String) : Word.text (Word.ofText text) = text := by
  apply String.toList_inj.1
  rw [Word.text, String.toList_join, Word.ofText, List.map_map, List.flatMap_map]
  generalize text.toList = chars
  induction chars with
  | nil => rfl
  | cons char chars induction =>
      simp only [List.flatMap_cons, induction]
      simp [Symbol.ofChar]

end RightLinear
