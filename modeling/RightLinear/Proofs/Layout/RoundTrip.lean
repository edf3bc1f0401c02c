import RightLinear.Proofs.Conversion.Returned
import RightLinear.Proofs.Conversion.Rounds
import RightLinear.Proofs.Layout.Conversion

/-! # Round trips through sources

A grammar that has been read is converted to an automaton and back, and the source of
each result is written and read again. The automaton always comes through. In the source
of the grammar a letter and the sink behind it are run together, and a sink of several
characters is not found again there: the two are read as more than two symbols, or as the
empty word. So it depends on the name of the sink whether the grammar that is read in the
end is the one that was to be written.
-/

namespace RightLinear
namespace Settings

/-- Why a round trip stops. -/
inductive TripFault
  | notRead (fault : Layout.Fault)
  | notConverted (violation : Violation)
  deriving DecidableEq

/-- Reads a grammar and converts it to an automaton and back, where the source of each
result is written and read again. -/
def throughSources (settings : Settings) (text : String) : Except TripFault Grammar := do
  let grammar ← (Grammar.read text).mapError .notRead
  let automaton ← (settings.automatonOf grammar).mapError .notConverted
  let copy ← (Automaton.read automaton.source.text).mapError .notRead
  (Grammar.read copy.toGrammar.source.text).mapError .notRead

end Settings

namespace Grammar

variable {grammar : Grammar} {rule : EpsilonRule} {sink left letter : Symbol} {side : RightSide}

/-- Each letter that stands alone on a right-hand side is understood with the sink behind
it: the two are two characters, or they spell the empty word where there is one anyway. -/
def SinkUnderstood (grammar : Grammar) (sink : Symbol) : Prop :=
  ∀ left letter, .symbols [letter] ∈ grammar.alternatives left →
    sink.text.length = 1 ∨
      letter.text ++ sink.text = epsilonMarker ∧ left = grammar.start ∧
        .epsilon ∈ grammar.alternatives grammar.start

/-- What comes back beside the alternatives of a letter and the sink is spelled by single
characters. -/
theorem Readable.ofText_text_of_returnedBy (readable : grammar.Readable)
    (production : side ∈ (grammar.returnedBy sink).alternatives left) :
    RightSide.ofText side.text = side ∨
      ∃ letter, .symbols [letter] ∈ grammar.alternatives left ∧ side = .symbols [letter, sink] := by
  rcases Automaton.mem_alternatives_toGrammar.1 production with
    ⟨rfl, _⟩ | ⟨letter, target, transition, made⟩
  · exact Or.inl rfl
  · obtain ⟨next, origin, rfl⟩ := mem_targets_automatonWithSink.1 transition
    have single := readable.single left _ origin letter (by simp)
    have alone : RightSide.ofText (RightSide.text (.symbols [letter])) = .symbols [letter] :=
      RightSide.ofText_text_of_length_le (by simp [single]) (by simp)
    rcases Automaton.mem_alternativesFor_iff.1 made with rfl | ⟨rfl, _⟩
    · cases next with
      | none => exact Or.inr ⟨letter, origin, rfl⟩
      | some symbol => exact Or.inl (readable.ofText_text origin)
    · exact Or.inl alone

theorem Within.wellFormed_respelled (within : grammar.respelled.Within grammar)
    (formed : grammar.WellFormed) : grammar.respelled.WellFormed where
  start_mem := formed.start_mem
  keys_mem := by
    intro group listed
    obtain ⟨step, inSteps, same⟩ := Grouping.exists_step_of_mem_groups listed
    obtain ⟨origin, inGroups, rfl⟩ := List.mem_map.1 inSteps
    exact same ▸ formed.keys_mem origin inGroups
  admits := by
    intro group listed side member
    have production := mem_alternatives_of_mem_group listed member
    exact formed.admits_of_mem (within.alternatives group.1 side production)

theorem Readable.read_source_returnedBy (readable : grammar.Readable) (formed : grammar.WellFormed)
    (regular : grammar.Regular rule) (isToken : sink.IsToken) {back : Grammar} :
    read (grammar.returnedBy sink).source.text = .ok back ↔
      (grammar.returnedBy sink).respelled = back ∧ back.WellFormed := by
  have automatonReadable := readable.automatonWithSink isToken
  have areTokens : ∀ symbol, (grammar.returnedBy sink).Declares symbol → symbol.IsToken := by
    rintro symbol (isLetter | isState)
    · exact automatonReadable.isToken_letter symbol isLetter
    · exact automatonReadable.isToken_state symbol isState
  have filled := Automaton.filled_productions_toGrammar automatonReadable.filled
  exact read_source_eq_ok_iff areTokens filled (regular.wellFormed_returnedBy formed)

/-- With a sink of a single character nothing is misread. -/
theorem Readable.respelled_returnedBy_eq (readable : grammar.Readable)
    (single : sink.text.length = 1) :
    (grammar.returnedBy sink).respelled = grammar.returnedBy sink := by
  apply respelled_eq
  intro left side production
  rcases readable.ofText_text_of_returnedBy production with same | ⟨letter, origin, rfl⟩
  · exact same
  · have letterSingle := readable.single left _ origin letter (by simp)
    exact RightSide.ofText_text_of_length_le (by simp [letterSingle, single]) (by simp)

theorem Readable.within_respelled_returnedBy (readable : grammar.Readable)
    (regular : grammar.Regular rule) : grammar.Within (grammar.returnedBy sink).respelled where
  start := rfl
  alternatives left side production :=
    mem_alternatives_respelled.2
      ⟨side, regular.within_returnedBy.alternatives left side production,
        readable.ofText_text production⟩

theorem Readable.respelled_within_returnedBy (readable : grammar.Readable)
    (understood : grammar.SinkUnderstood sink) (regular : grammar.Regular rule) :
    (grammar.returnedBy sink).respelled.Within (grammar.returnedBy sink) where
  start := rfl
  alternatives left side production := by
    obtain ⟨written, returned, rfl⟩ := mem_alternatives_respelled.1 production
    rcases readable.ofText_text_of_returnedBy returned with same | ⟨letter, origin, rfl⟩
    · rwa [same]
    · have single := readable.single left _ origin letter (by simp)
      rcases understood left letter origin with sinkSingle | ⟨spelled, atStart, produced⟩
      · rw [RightSide.ofText_text_of_length_le (by simp [single, sinkSingle]) (by simp)]
        exact returned
      · have marker : RightSide.text (.symbols [letter, sink]) = epsilonMarker := by
          rw [← spelled, RightSide.text_pair]
        rw [RightSide.ofText, if_pos marker, atStart]
        exact regular.within_returnedBy.alternatives _ _ produced

/-- If the sink is understood, the grammar that is read keeps what the one that was
written keeps: its alternatives lie between those of the two grammars. -/
theorem Regular.respelled_returnedBy (regular : grammar.Regular rule)
    (readable : grammar.Readable) (formed : grammar.WellFormed) (free : ¬ grammar.Declares sink)
    (understood : grammar.SinkUnderstood sink) :
    (grammar.returnedBy sink).respelled.WellFormed ∧
      (grammar.returnedBy sink).respelled.Regular rule ∧
        ∀ word, (grammar.returnedBy sink).respelled.generates word = grammar.generates word := by
  have within := readable.respelled_within_returnedBy understood regular
  have contains : grammar.Within (grammar.returnedBy sink).respelled :=
    readable.within_respelled_returnedBy regular
  have returnedFormed : (grammar.returnedBy sink).WellFormed :=
    regular.wellFormed_returnedBy formed
  have kept := regular.round_keeps formed free
  refine ⟨within.wellFormed_respelled returnedFormed, ?_, ?_⟩
  · exact within.regular (.refl _) (.refl _) (regular.regular_toGrammar formed free)
  · intro word
    rw [Bool.eq_iff_iff]
    constructor
    · intro generated
      rw [← kept.generates word]
      exact within.generates generated
    · exact contains.generates

/-- If the grammar that is read is regular and has kept the language, the sink has been
understood. -/
theorem Readable.sinkUnderstood (readable : grammar.Readable) (isToken : sink.IsToken)
    (copyRegular : (grammar.returnedBy sink).respelled.Regular rule)
    (generates : ∀ word,
      (grammar.returnedBy sink).respelled.generates word = grammar.generates word) :
    grammar.SinkUnderstood sink := by
  intro left letter origin
  have single := readable.single left _ origin letter (by simp)
  by_cases sinkSingle : sink.text.length = 1
  · exact Or.inl sinkSingle
  · have production : RightSide.ofText (letter.text ++ sink.text) ∈
        (grammar.returnedBy sink).respelled.alternatives left :=
      mem_alternatives_respelled.2 ⟨_, pair_mem_alternatives_returnedBy origin, rfl⟩
    -- Together they are at least three characters, too many for a right-linear alternative.
    -- Only the marker is read as less, and then the start must have produced it before.
    by_cases marker : letter.text ++ sink.text = epsilonMarker
    · rw [RightSide.ofText, if_pos marker] at production
      have atStart : left = grammar.start := copyRegular.left_of_epsilon left production
      have producedAgain : (grammar.returnedBy sink).respelled.generates [] = true :=
        generates_nil_iff.2 (atStart ▸ production)
      rw [generates []] at producedAgain
      exact Or.inr ⟨marker, atStart, generates_nil_iff.1 producedAgain⟩
    · rw [RightSide.ofText, if_neg marker] at production
      have short := length_word_le_of_hasShape (copyRegular.shapes left _ production)
      rw [RightSide.word_symbols, Word.length_ofText, String.length_append, single] at short
      have present : sink.text.length ≠ 0 := isToken.length_ne_zero
      omega

end Grammar

namespace Settings

open Grammar

variable {settings : Settings} {text : String} {grammar back : Grammar}

/-- The automaton always comes through, so it is the reading of the last source that decides
what the trip ends with. -/
theorem throughSources_eq_ok_iff (isToken : settings.sink.IsToken)
    (parsed : Grammar.read text = .ok grammar) (regular : grammar.Regular settings.rule) :
    settings.throughSources text = .ok back ↔
      (grammar.returnedBy (grammar.freshName settings.sink)).respelled = back ∧
        back.WellFormed := by
  have formed := wellFormed_of_read parsed
  have readable := readable_of_read parsed
  have converted : settings.automatonOf grammar =
      .ok (grammar.automatonWithSink (grammar.freshName settings.sink)) :=
    regular.toAutomaton_eq formed settings.sink
  have copied := read_source_of_automatonOf isToken parsed converted
  simp only [throughSources, parsed, converted, copied, mapError_ok, ok_bind, mapError_eq_ok_iff]
  exact readable.read_source_returnedBy formed regular (isToken_freshName isToken)

/-- What is kept on a round trip of a regular grammar. The automaton is read back as it was,
and if the name of the sink is a single character so is the grammar. With a longer name the
trip ends in a regular grammar of the same language exactly if the sink is understood. -/
theorem throughSources_faithful_iff (accepted : settings.checked = .ok settings)
    (parsed : Grammar.read text = .ok grammar)
    (regular : grammar.isRegular settings.rule = true) :
    (∃ automaton, settings.automatonOf grammar = .ok automaton ∧
        Automaton.read automaton.source.text = .ok automaton ∧
        ((grammar.freshName settings.sink).text.length = 1 →
          settings.throughSources text = .ok automaton.toGrammar)) ∧
      ((∃ back, settings.throughSources text = .ok back ∧
          back.isRegular settings.rule = true ∧
          ∀ word, back.generates word = grammar.generates word) ↔
        grammar.SinkUnderstood (grammar.freshName settings.sink)) := by
  obtain ⟨_, isToken, _⟩ := checked_eq_ok_iff.1 accepted
  have formed := wellFormed_of_read parsed
  have readable := readable_of_read parsed
  have isRegular := (isRegular_iff formed).1 regular
  have free := @not_declares_freshName grammar settings.sink
  have arrives : ∀ back, settings.throughSources text = .ok back ↔
      (grammar.returnedBy (grammar.freshName settings.sink)).respelled = back ∧ back.WellFormed :=
    fun _ => throughSources_eq_ok_iff isToken parsed isRegular
  constructor
  · have converted : settings.automatonOf grammar =
        .ok (grammar.automatonWithSink (grammar.freshName settings.sink)) :=
      isRegular.toAutomaton_eq formed settings.sink
    refine ⟨_, converted, read_source_of_automatonOf isToken parsed converted, ?_⟩
    intro single
    exact (arrives _).2
      ⟨readable.respelled_returnedBy_eq single, isRegular.wellFormed_returnedBy formed⟩
  · constructor
    · rintro ⟨back, arrived, backRegular, generates⟩
      obtain ⟨rfl, backFormed⟩ := (arrives back).1 arrived
      exact readable.sinkUnderstood (isToken_freshName isToken)
        ((isRegular_iff backFormed).1 backRegular) generates
    · intro understood
      obtain ⟨backFormed, backRegular, generates⟩ :=
        isRegular.respelled_returnedBy readable formed free understood
      exact ⟨_, (arrives _).2 ⟨rfl, backFormed⟩, (isRegular_iff backFormed).2 backRegular,
        generates⟩

/-- Settings that want a name for the sink which the grammar below has taken. -/
def takenSink : Settings := ⟨.strict, ⟨"A"⟩⟩

theorem takenSink_faithful :
    ∃ grammar, Grammar.read "S A\na b\nS\nS aA b eps\nA bA a\n" = .ok grammar ∧
      grammar.isRegular takenSink.rule = true ∧ grammar.freshName takenSink.sink = ⟨"Z"⟩ ∧
      ∃ back, takenSink.throughSources "S A\na b\nS\nS aA b eps\nA bA a\n" = .ok back ∧
        back.isRegular takenSink.rule = true ∧
        ∀ word, back.generates word = grammar.generates word := by
  have accepted : takenSink.checked = .ok takenSink := by rfl
  obtain ⟨grammar, parsed, regular, chosen⟩ : ∃ grammar : Grammar,
      Grammar.read "S A\na b\nS\nS aA b eps\nA bA a\n" = .ok grammar ∧
        grammar.isRegular takenSink.rule = true ∧ grammar.freshName takenSink.sink = ⟨"Z"⟩ :=
    ⟨_, by rfl, by decide, by decide⟩
  have faithful := (throughSources_faithful_iff accepted parsed regular).2
  refine ⟨grammar, parsed, regular, chosen, faithful.2 ?_⟩
  intro _ _ _
  rw [chosen]
  exact Or.inl (by decide)

/-- Settings that want a sink of three characters. -/
def longSink : Settings := ⟨.sequential, ⟨"end"⟩⟩

/-- Settings that want a sink which spells the marker behind an `e`. -/
def spellingSink : Settings := ⟨.sequential, ⟨"ps"⟩⟩

/-- With a longer sink a round trip can stop, or end in another language. -/
theorem sinks_not_faithful :
    (longSink.checked = .ok longSink ∧
      ∃ grammar, Grammar.read "S\na\nS\nS a\n" = .ok grammar ∧
        grammar.isRegular longSink.rule = true ∧
        longSink.throughSources "S\na\nS\nS a\n" =
          .error (.notRead (.malformedGrammar
            (.symbolUndeclared ⟨"S"⟩ (.symbols (Word.ofText "aend")) ⟨"e"⟩)))) ∧
    spellingSink.checked = .ok spellingSink ∧
      ∃ grammar back, Grammar.read "S A\na e\nS\nS aA\nA e\n" = .ok grammar ∧
        grammar.isRegular spellingSink.rule = true ∧
        spellingSink.throughSources "S A\na e\nS\nS aA\nA e\n" = .ok back ∧
        back.isRegular spellingSink.rule = false ∧
        back.generates (Word.ofText "a") = true ∧
        grammar.generates (Word.ofText "a") = false := by
  refine ⟨⟨by rfl, _, by rfl, by decide, by rfl⟩, by rfl, _, _, by rfl, by decide, by rfl, ?_⟩
  exact ⟨by decide, by decide, by decide⟩

end Settings
end RightLinear
