import RightLinear.Symbol

/-! # Right-hand sides

A right-hand side is the marker of the empty word or a sequence of symbols.
Its text runs the symbols together; read back, every character of the text
counts as a symbol of its own.
-/

namespace RightLinear

/-- What a production puts in the place of its non-terminal. -/
inductive RightSide
  | epsilon
  | symbols (word : Word)
  deriving DecidableEq, Inhabited

namespace RightSide

/-- Reads the marker as the empty word and any other text character by
character. -/
def ofText (text : String) : RightSide :=
  if text = epsilonMarker then .epsilon else .symbols (Word.ofText text)

/-- The symbols of a right-hand side; the empty word has none. -/
def word : RightSide → Word
  | .epsilon => []
  | .symbols word => word

/-- The marker, or the texts of the symbols one after the other. -/
def text : RightSide → String
  | .epsilon => epsilonMarker
  | .symbols word => Word.text word

instance : ToString RightSide := ⟨text⟩

def isExactly (side : RightSide) (symbol : Symbol) : Bool := side.word == [symbol]

@[simp] theorem word_epsilon : word .epsilon = [] := rfl

@[simp] theorem word_symbols (symbols : Word) : word (.symbols symbols) = symbols := rfl

@[simp] theorem text_ofText (text : String) : (ofText text).text = text := by
  unfold ofText
  split
  · next marker => exact marker.symm
  · exact Word.text_ofText text

end RightSide
end RightLinear
