import RightLinear.Settings
import RightLinear.Proofs.Conversion.ToAutomaton
import RightLinear.Proofs.Layout.Automaton
import RightLinear.Proofs.Layout.Grammar

/-! # Writing what a conversion gives

Settings ask for a sink whose name is a token. If that is taken, the name becomes a
letter or gets a numeral behind it, which is a token again. So the automaton of a
readable grammar is readable, whatever the settings.
-/

namespace RightLinear

theorem Text.isBlank_of_isDigit {char : Char} (isDigit : char.isDigit = true) :
    isBlank char = false := by
  have bounds : 48 ≤ char.toNat ∧ char.toNat ≤ 57 := by
    simp only [Char.isDigit, Bool.and_eq_true, decide_eq_true_eq, ge_iff_le,
      UInt32.le_iff_toNat_le] at isDigit
    exact isDigit
  simp only [isBlank, inRanges, blankRanges, List.any_cons, List.any_nil, Bool.or_false,
    Bool.or_eq_false_iff, Bool.and_eq_false_iff, decide_eq_false_iff_not]
  omega

namespace Grammar

variable {grammar : Grammar} {wanted sink : Symbol}

theorem isToken_numberedName (isToken : wanted.IsToken) (number : Nat) :
    (numberedName wanted number).IsToken := by
  have chars : (numberedName wanted number).text.toList =
      wanted.text.toList ++ Nat.toDigits 10 number := by
    rw [numberedName, String.toList_append, Nat.toString_eq_ofList_toDigits,
      String.toList_ofList]
  rw [Symbol.IsToken, Text.IsToken, chars]
  refine ⟨List.append_ne_nil_of_left_ne_nil isToken.1 _, ?_⟩
  intro char member
  rcases List.mem_append.1 member with inWanted | isNumeral
  · exact isToken.2 char inWanted
  · exact Text.isBlank_of_isDigit (Nat.isDigit_of_mem_toDigits (by omega) (by omega) isNumeral)

theorem isToken_of_mem_candidateNames (isToken : wanted.IsToken) :
    ∀ name ∈ grammar.candidateNames wanted, name.IsToken := by
  have letters : ∀ name ∈ letterNames, name.IsToken := by decide
  intro name listed
  rcases List.mem_append.1 listed with early | numbered
  · rcases List.mem_cons.1 early with same | isLetter
    · rwa [same]
    · exact letters name isLetter
  · obtain ⟨number, _, rfl⟩ := List.mem_map.1 numbered
    exact isToken_numberedName isToken number

theorem isToken_freshName (isToken : wanted.IsToken) : (grammar.freshName wanted).IsToken := by
  unfold freshName
  cases chosen : (grammar.candidateNames wanted).find? fun name =>
      ! decide (grammar.Declares name) with
  | none => exact isToken
  | some name =>
      exact isToken_of_mem_candidateNames isToken name (List.mem_of_find?_eq_some chosen)

theorem Readable.automatonWithSink (readable : grammar.Readable) (isToken : sink.IsToken) :
    (grammar.automatonWithSink sink).Readable where
  isToken_state := by
    intro state declared
    rcases OrderedSet.mem_insert.1 declared with isNonTerminal | isSink
    · exact readable.isToken state (Or.inr isNonTerminal)
    · rwa [isSink]
  isToken_letter letter declared := readable.isToken letter (Or.inl declared)
  filled := filled_transitions_automatonWithSink

end Grammar

namespace Settings

variable {settings : Settings} {sink : Symbol}

theorem sinkFault?_eq_none_iff :
    sinkFault? sink = none ↔ sink.IsToken ∧ sink.isMarker = false := by
  have refused : (sink.text.toList = [] ∨ sink.text.toList.any Text.isBlank) ↔ ¬ sink.IsToken := by
    simp [Symbol.IsToken, Text.IsToken, or_iff_not_imp_left]
  rw [sinkFault?]
  by_cases isToken : sink.IsToken
  · rw [if_neg (mt refused.1 (not_not_intro isToken))]
    cases marker : sink.isMarker <;> simp [isToken]
  · rw [if_pos (refused.2 isToken)]
    simp [isToken]

theorem checked_eq_ok_iff {result : Settings} :
    settings.checked = .ok result ↔
      settings = result ∧ settings.sink.IsToken ∧ settings.sink.isMarker = false := by
  rw [← sinkFault?_eq_none_iff, checked]
  cases sinkFault? settings.sink <;> simp

theorem isToken_sink_of_resolve {lookup : String → Option String} {rule : Option EpsilonRule}
    {sink : Option String} (resolved : resolve lookup rule sink = .ok settings) :
    settings.sink.IsToken := by
  obtain ⟨chosen, _, accepted⟩ := bind_eq_ok_iff.1 resolved
  obtain ⟨rfl, isToken, _⟩ := checked_eq_ok_iff.1 accepted
  exact isToken

/-- The automaton of a grammar that has been read is read back from its written form. -/
theorem read_source_of_automatonOf (isToken : settings.sink.IsToken) {text : String}
    {grammar : Grammar} {automaton : Automaton} (parsed : Grammar.read text = .ok grammar)
    (converted : settings.automatonOf grammar = .ok automaton) :
    Automaton.read automaton.source.text = .ok automaton := by
  have formed := Grammar.wellFormed_of_read parsed
  have readable := Grammar.readable_of_read parsed
  obtain ⟨regular, rfl⟩ := (Grammar.toAutomaton_eq_ok_iff formed).1 converted
  exact (readable.automatonWithSink (Grammar.isToken_freshName isToken)).read_source
    (regular.wellFormed_automatonWithSink formed)

end Settings
end RightLinear
