import RightLinear.Proofs.Conversion.ToAutomaton
import RightLinear.Proofs.Conversion.ToGrammar
import RightLinear.Proofs.Layout.Automaton
import RightLinear.Proofs.Layout.Grammar

/-! # What can be obtained is well-formed

Parts, declarations and texts are checked before they become a grammar or an
automaton; a conversion hands its result on unchecked. As the conversions keep
grammars and automata well-formed, the check would find no fault in anything that
any number of such steps leads to.
-/

namespace RightLinear

/-- A grammar or an automaton. -/
inductive Entity
  | grammar (grammar : Grammar)
  | automaton (automaton : Automaton)

/-- The check finds no fault, and all names in the entity are declared. -/
def Entity.Sound : Entity → Prop
  | .grammar parts => parts.defect? = none ∧ parts.WellFormed
  | .automaton parts => parts.defect? = none ∧ parts.WellFormed

/-- What a finite number of steps leads to. Each step checks parts, makes some
declarations, reads a text or converts what has been obtained. -/
inductive Obtainable : Entity → Prop
  | grammarOfParts {parts grammar : Grammar} (accepted : parts.checked = .ok grammar) :
      Obtainable (.grammar grammar)
  | grammarOfDeclarations {start : Symbol} {declarations : List Grammar.Declaration}
      {grammar : Grammar}
      (accepted : (Grammar.ofDeclarations start declarations).checked = .ok grammar) :
      Obtainable (.grammar grammar)
  | grammarOfText {text : String} {grammar : Grammar}
      (described : Grammar.read text = .ok grammar) : Obtainable (.grammar grammar)
  | grammarOfAutomaton {automaton : Automaton} (source : Obtainable (.automaton automaton)) :
      Obtainable (.grammar automaton.toGrammar)
  | automatonOfParts {parts automaton : Automaton} (accepted : parts.checked = .ok automaton) :
      Obtainable (.automaton automaton)
  | automatonOfDeclarations {initial : Symbol} {declarations : List Automaton.Declaration}
      {automaton : Automaton}
      (accepted : (Automaton.ofDeclarations initial declarations).checked = .ok automaton) :
      Obtainable (.automaton automaton)
  | automatonOfText {text : String} {automaton : Automaton}
      (described : Automaton.read text = .ok automaton) : Obtainable (.automaton automaton)
  | automatonOfGrammar {grammar : Grammar} {rule : EpsilonRule} {wanted : Symbol}
      {automaton : Automaton} (source : Obtainable (.grammar grammar))
      (converted : grammar.toAutomaton rule wanted = .ok automaton) :
      Obtainable (.automaton automaton)

namespace Entity

theorem sound_grammar_iff {parts : Grammar} : Sound (.grammar parts) ↔ parts.WellFormed := by
  rw [Sound, Grammar.defect?_eq_none_iff, and_self]

theorem sound_automaton_iff {parts : Automaton} :
    Sound (.automaton parts) ↔ parts.WellFormed := by
  rw [Sound, Automaton.defect?_eq_none_iff, and_self]

end Entity

theorem Grammar.wellFormed_of_checked {parts grammar : Grammar}
    (accepted : parts.checked = .ok grammar) : grammar.WellFormed := by
  obtain ⟨rfl, formed⟩ := Grammar.checked_eq_ok_iff.1 accepted
  exact formed

theorem Automaton.wellFormed_of_checked {parts automaton : Automaton}
    (accepted : parts.checked = .ok automaton) : automaton.WellFormed := by
  obtain ⟨rfl, formed⟩ := Automaton.checked_eq_ok_iff.1 accepted
  exact formed

theorem Grammar.wellFormed_of_toAutomaton {grammar : Grammar} {rule : EpsilonRule}
    {wanted : Symbol} {automaton : Automaton} (formed : grammar.WellFormed)
    (converted : grammar.toAutomaton rule wanted = .ok automaton) : automaton.WellFormed := by
  obtain ⟨regular, rfl⟩ := (Grammar.toAutomaton_eq_ok_iff formed).1 converted
  exact regular.wellFormed_automatonWithSink formed

/-- The check would find no fault in anything that can be obtained. -/
theorem Obtainable.sound {entity : Entity} (obtainable : Obtainable entity) : entity.Sound := by
  induction obtainable with
  | grammarOfParts accepted =>
      exact Entity.sound_grammar_iff.2 (Grammar.wellFormed_of_checked accepted)
  | grammarOfDeclarations accepted =>
      exact Entity.sound_grammar_iff.2 (Grammar.wellFormed_of_checked accepted)
  | grammarOfText described =>
      exact Entity.sound_grammar_iff.2 (Grammar.wellFormed_of_read described)
  | grammarOfAutomaton _ induction =>
      have formed := Entity.sound_automaton_iff.1 induction
      exact Entity.sound_grammar_iff.2 (Automaton.wellFormed_toGrammar formed)
  | automatonOfParts accepted =>
      exact Entity.sound_automaton_iff.2 (Automaton.wellFormed_of_checked accepted)
  | automatonOfDeclarations accepted =>
      exact Entity.sound_automaton_iff.2 (Automaton.wellFormed_of_checked accepted)
  | automatonOfText described =>
      exact Entity.sound_automaton_iff.2 (Automaton.wellFormed_of_read described)
  | automatonOfGrammar _ converted induction =>
      have formed := Entity.sound_grammar_iff.1 induction
      exact Entity.sound_automaton_iff.2 (Grammar.wellFormed_of_toAutomaton formed converted)

/-- A grammar whose start returns to itself and produces the empty word, and that uses
the default name of the sink. -/
def returning : Grammar :=
  .ofLists [⟨"S"⟩, ⟨"K"⟩] [⟨"a"⟩]
    [(⟨"S"⟩, [.epsilon, .symbols [⟨"a"⟩, ⟨"S"⟩], .symbols [⟨"a"⟩]])] ⟨"S"⟩

/-- The grammar that comes back from the automaton of `returning`. -/
def returned : Grammar := (returning.automatonWithSink ⟨"Z"⟩).toGrammar

theorem returned_automatonWithSink_sound :
    Obtainable (.automaton (returned.automatonWithSink ⟨""⟩)) ∧
      Entity.Sound (.automaton (returned.automatonWithSink ⟨""⟩)) := by
  have described : Grammar.read "S K\na\nS\nS eps aS a\n" = .ok returning := by rfl
  have first : returning.toAutomaton .sequential ⟨"K"⟩ =
      .ok (returning.automatonWithSink ⟨"Z"⟩) := by rfl
  have second : returned.toAutomaton .sequential ⟨""⟩ =
      .ok (returned.automatonWithSink ⟨""⟩) := by rfl
  have chain : Obtainable (.automaton (returned.automatonWithSink ⟨""⟩)) :=
    .automatonOfGrammar (.grammarOfAutomaton
      (.automatonOfGrammar (.grammarOfText described) first)) second
  exact ⟨chain, chain.sound⟩

end RightLinear
