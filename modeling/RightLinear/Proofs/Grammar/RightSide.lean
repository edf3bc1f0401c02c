import RightLinear.Grammar.RightSide

/-! # Reading a right-hand side back from its text

The text of a right-hand side runs its symbols together, so that it can be read
back only if every symbol is one character. Even then it is misread if it happens
to be the marker of the empty word. What is read from a text is never of these
kinds.
-/

namespace RightLinear

theorem Symbol.text_injective : Function.Injective Symbol.text := by
  rintro ⟨first⟩ ⟨second⟩ rfl
  rfl

theorem Symbol.exists_eq_ofChar {symbol : Symbol} (single : symbol.text.length = 1) :
    ∃ char, symbol = ofChar char := by
  rw [← String.length_toList] at single
  obtain ⟨char, chars⟩ := List.length_eq_one_iff.1 single
  refine ⟨char, Symbol.text_injective ?_⟩
  apply String.toList_inj.1
  rw [chars]
  simp [ofChar]

theorem Symbol.length_text_ofChar (char : Char) : (ofChar char).text.length = 1 := by
  simp [ofChar]

namespace Word

theorem length_ofText (text : String) : (Word.ofText text).length = text.length := by
  rw [Word.ofText, List.length_map, String.length_toList]

theorem toList_text_cons (symbol : Symbol) (word : Word) :
    (Word.text (symbol :: word)).toList = symbol.text.toList ++ (Word.text word).toList := by
  simp [Word.text, String.toList_join]

theorem mem_toList_text {char : Char} {word : Word} :
    char ∈ (Word.text word).toList ↔ ∃ symbol ∈ word, char ∈ symbol.text.toList := by
  rw [Word.text, String.toList_join, List.flatMap_map, List.mem_flatMap]

theorem ofText_text {word : Word} (singles : ∀ symbol ∈ word, symbol.text.length = 1) :
    Word.ofText (Word.text word) = word := by
  induction word with
  | nil => rfl
  | cons symbol word induction =>
      obtain ⟨char, rfl⟩ := Symbol.exists_eq_ofChar (singles symbol List.mem_cons_self)
      have later := induction fun other member => singles other (List.mem_cons_of_mem _ member)
      rw [Word.ofText] at later ⊢
      rw [toList_text_cons, List.map_append, later]
      simp [Symbol.ofChar]

end Word

namespace RightSide

theorem ofText_text_symbols {word : Word} (singles : ∀ symbol ∈ word, symbol.text.length = 1)
    (notMarker : Word.text word ≠ epsilonMarker) :
    ofText (text (.symbols word)) = .symbols word := by
  rw [ofText, text, if_neg notMarker, Word.ofText_text singles]

/-- One or two single characters are not taken for the marker, which has three. -/
theorem ofText_text_of_length_le {word : Word} (singles : ∀ symbol ∈ word, symbol.text.length = 1)
    (short : word.length ≤ 2) : ofText (text (.symbols word)) = .symbols word := by
  apply ofText_text_symbols singles
  intro marker
  have characters := Word.ofText_text singles
  rw [marker] at characters
  rw [← characters] at short
  exact absurd short (by decide)

theorem text_pair (first second : Symbol) :
    text (.symbols [first, second]) = first.text ++ second.text := by
  simp [text, Word.text, String.join]

theorem length_eq_one_of_mem_word_ofText {text : String} {symbol : Symbol}
    (member : symbol ∈ (ofText text).word) : symbol.text.length = 1 := by
  unfold ofText at member
  split at member
  · exact absurd member List.not_mem_nil
  · obtain ⟨char, _, rfl⟩ := List.mem_map.1 member
    exact Symbol.length_text_ofChar char

theorem text_ne_marker_of_ofText {text : String} {word : Word}
    (read : ofText text = .symbols word) : Word.text word ≠ epsilonMarker := by
  have same : Word.text word = text := by
    calc
      Word.text word = (ofText text).text := by rw [read]; rfl
      _ = text := text_ofText text
  rw [same]
  intro marker
  rw [ofText, if_pos marker] at read
  exact nomatch read

/-- The right-hand sides that texts spell: the empty word, and sequences of single characters
that do not look like its marker. -/
def Spelled (side : RightSide) : Prop :=
  side = .epsilon ∨
    ∃ word, side = .symbols word ∧ (∀ symbol ∈ word, symbol.text.length = 1) ∧
      Word.text word ≠ epsilonMarker

theorem ofText_text_eq_iff {side : RightSide} : ofText side.text = side ↔ side.Spelled := by
  constructor
  · intro same
    cases side with
    | epsilon => exact Or.inl rfl
    | symbols word =>
        refine Or.inr ⟨word, rfl, ?_, text_ne_marker_of_ofText same⟩
        intro symbol member
        have inRead : symbol ∈ (ofText (text (.symbols word))).word := by rwa [same]
        exact length_eq_one_of_mem_word_ofText inRead
  · rintro (rfl | ⟨word, rfl, singles, notMarker⟩)
    · rfl
    · exact ofText_text_symbols singles notMarker

theorem spelled_ofText (text : String) : (ofText text).Spelled :=
  ofText_text_eq_iff.1 (congrArg ofText (text_ofText text))

theorem ofText_injective : Function.Injective ofText := by
  intro first second same
  calc
    first = (ofText first).text := (text_ofText first).symm
    _ = (ofText second).text := by rw [same]
    _ = second := text_ofText second

theorem Spelled.eq_of_text_eq {first second : RightSide} (spelled : first.Spelled)
    (otherSpelled : second.Spelled) (same : first.text = second.text) : first = second := by
  calc
    first = ofText first.text := (ofText_text_eq_iff.2 spelled).symm
    _ = ofText second.text := by rw [same]
    _ = second := ofText_text_eq_iff.2 otherSpelled

/-- Texts and what they are read as determine each other. The right-hand sides that come back
from their own texts are those that are spelled by some text at all. -/
theorem reads_back_iff_spelled :
    (∀ text : String, (ofText text).text = text) ∧
      (∀ side : RightSide, ofText side.text = side ↔ side.Spelled) ∧
      (∀ side : RightSide, side.Spelled ↔ ∃ text, ofText text = side) ∧
      (∀ first second : RightSide, first.Spelled → second.Spelled →
        first.text = second.text → first = second) ∧
      Function.Injective ofText := by
  refine ⟨text_ofText, fun _ => ofText_text_eq_iff, fun side => ⟨?_, ?_⟩,
    fun _ _ spelled => spelled.eq_of_text_eq, ofText_injective⟩
  · intro spelled
    exact ⟨side.text, ofText_text_eq_iff.2 spelled⟩
  · rintro ⟨text, rfl⟩
    exact spelled_ofText text

/-- Sequences of symbols that all look like the marker. -/
def markerLookalikes : List RightSide :=
  [.symbols [⟨"e"⟩, ⟨"p"⟩, ⟨"s"⟩], .symbols [⟨"ep"⟩, ⟨"s"⟩], .symbols [⟨"eps"⟩],
    .symbols [⟨"e"⟩, ⟨""⟩, ⟨"ps"⟩]]

theorem markerLookalikes_not_spelled :
    (∀ side ∈ markerLookalikes, side.text = epsilonMarker ∧ ¬ side.Spelled) ∧
      Spelled .epsilon ∧ (.symbols [⟨"e"⟩, ⟨"p"⟩] : RightSide).Spelled ∧
      (.symbols [] : RightSide).Spelled ∧
      ofText "ep" = .symbols [⟨"e"⟩, ⟨"p"⟩] := by
  obtain ⟨_, back_iff, spelled_iff, only, _⟩ := reads_back_iff_spelled
  have pair : (.symbols [⟨"e"⟩, ⟨"p"⟩] : RightSide).Spelled := (back_iff _).1 (by decide)
  refine ⟨?_, Or.inl rfl, pair, (back_iff _).1 (by decide), ?_⟩
  · intro side listed
    have texts : ∀ side ∈ markerLookalikes, side.text = epsilonMarker := by decide
    have notBack : ∀ side ∈ markerLookalikes, ofText side.text ≠ side := by decide
    exact ⟨texts side listed, fun spelled => notBack side listed ((back_iff side).2 spelled)⟩
  · exact only _ _ ((spelled_iff _).2 ⟨"ep", rfl⟩) pair (by decide)

end RightSide
end RightLinear
