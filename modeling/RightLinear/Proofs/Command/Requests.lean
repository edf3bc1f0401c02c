import RightLinear.Proofs.Command.Run

/-! # What requests come to

With its settings resolved and its input read, a request either stops at the first thing that
cannot be done, with the world as it was, or delivers a text to its output. A conversion delivers
the form that the format asks for. A drawing of a grammar is refused before anything is opened,
so it does not matter what rendering one would do.
-/

namespace RightLinear

/-- What an automaton is written as in each format. -/
inductive Automaton.HasForm (automaton : Automaton) : Format → Document → Prop
  | text : HasForm automaton .text automaton.listing
  | source : HasForm automaton .source automaton.source
  | json : HasForm automaton .json automaton.json
  | dot : HasForm automaton .dot automaton.graph

/-- What a grammar is written as in each format. It is not drawn. -/
inductive Grammar.HasForm (grammar : Grammar) : Format → Document → Prop
  | text : HasForm grammar .text grammar.listing
  | source : HasForm grammar .source grammar.source
  | json : HasForm grammar .json grammar.json

namespace Command

section Forms

theorem exists_hasForm_of_automaton (automaton : Automaton) (format : Format) :
    ∃ document, automaton.HasForm format document ∧ ∀ output world,
      (emit output (automaton.render format) : OnTree Unit) world =
        deliver output document.text world := by
  cases format with
  | text => exact ⟨_, .text, run_emit_ofWriter automaton.writeListing_eq⟩
  | source => exact ⟨_, .source, run_emit_ofWriter automaton.writeSource_eq⟩
  | json => exact ⟨_, .json, run_emit_ofWriter automaton.toJson.write_eq⟩
  | dot => exact ⟨_, .dot, run_emit_ofWriter automaton.writeGraph_eq⟩

/-- Once a drawing has been refused, the rendering of a grammar is not stopped. -/
theorem exists_hasForm_of_grammar (grammar : Grammar) {format : Format} (other : format ≠ .dot) :
    ∃ document, grammar.HasForm format document ∧ ∀ output world,
      (emit output (grammar.render format) : OnTree Unit) world =
        deliver output document.text world := by
  cases format with
  | text => exact ⟨_, .text, run_emit_ofWriter grammar.writeListing_eq⟩
  | source => exact ⟨_, .source, run_emit_ofWriter grammar.writeSource_eq⟩
  | json => exact ⟨_, .json, run_emit_ofWriter grammar.toJson.write_eq⟩
  | dot => exact absurd rfl other

end Forms

section Refusals

/-- Whatever stands in the place of the drawing of a grammar, it is not reached. -/
theorem perform_toGrammar_eq (settings : Settings) (path : PathName) (output : Option PathName)
    (format : Option Format) (unreached : Rendering) :
    ((Request.toGrammar path output format).perform settings : OnTree Unit) =
      (do
        let automaton ← readAutomaton path
        let chosen ← MonadExcept.ofExcept ((Format.choose format output).mapError .format)
        if chosen = .dot then throw .drawingOfGrammar
        emit output (if chosen = .dot then unreached else automaton.toGrammar.render chosen)) := by
  rw [Request.perform]
  apply bind_congr
  intro automaton
  apply bind_congr
  intro chosen
  by_cases drawing : chosen = .dot
  · rw [if_pos drawing, if_pos drawing]
    rfl
  · rw [if_neg drawing, if_neg drawing]
    simp only [if_neg drawing]

end Refusals

section Runs

variable {session : Session} {settings : Settings} {path : PathName} {text : String}
  {grammar : Grammar} {automaton : Automaton} (resolved : session.settings = .ok settings)
  (opened : session.read path = .ok text)

include opened

theorem run_readGrammar_of_read (parsed : Grammar.read text = .ok grammar) :
    (readGrammar path : OnTree Grammar) session.world = .ok grammar session.world := by
  rw [run_readGrammar]
  have described := grammarIn_eq_ok_iff.2 ⟨text, opened, parsed⟩
  exact congrArg session.world.answer described

theorem run_readAutomaton_of_read (parsed : Automaton.read text = .ok automaton) :
    (readAutomaton path : OnTree Automaton) session.world = .ok automaton session.world := by
  rw [run_readAutomaton]
  have described := automatonIn_eq_ok_iff.2 ⟨text, opened, parsed⟩
  exact congrArg session.world.answer described

include resolved

theorem run_accept (parsed : Automaton.read text = .ok automaton) (word : String) :
    session.run (.accept path word) =
      ⟨(if automaton.accepts (Word.ofText word) then "accepted" else "rejected") ++ "\n",
        session.tree, none⟩ := by
  rw [session.run_of_settings_eq_ok resolved, Request.perform,
    bind_of_ok (run_readAutomaton_of_read opened parsed), run_print]
  exact session.delivered_none _

theorem run_verify (parsed : Grammar.read text = .ok grammar) :
    session.run (.verify path) =
      ⟨verdict (grammar.violation? settings.rule) ++ "\n", session.tree, none⟩ := by
  rw [session.run_of_settings_eq_ok resolved, Request.perform,
    bind_of_ok (run_readGrammar_of_read opened parsed), run_print]
  exact session.delivered_none _

theorem run_toAutomaton_of_violation (parsed : Grammar.read text = .ok grammar)
    {violation : Violation} (found : settings.automatonOf grammar = .error violation)
    (output : Option PathName) (format : Option Format) :
    session.run (.toAutomaton path output format) =
      ⟨"", session.tree, some (.notConverted path violation)⟩ := by
  rw [session.run_of_settings_eq_ok resolved, Request.perform,
    bind_of_ok (run_readGrammar_of_read opened parsed), found]
  rfl

variable {output : Option PathName} {format : Option Format} {chosen : Format}
  (choice : Format.choose format output = .ok chosen)

include choice

theorem run_toAutomaton (parsed : Grammar.read text = .ok grammar)
    (converted : settings.automatonOf grammar = .ok automaton) :
    ∃ document, automaton.HasForm chosen document ∧
      session.run (.toAutomaton path output format) = session.delivered output document.text := by
  obtain ⟨document, form, emitted⟩ := exists_hasForm_of_automaton automaton chosen
  refine ⟨document, form, ?_⟩
  rw [session.run_of_settings_eq_ok resolved, Request.perform,
    bind_of_ok (run_readGrammar_of_read opened parsed), converted, choice]
  exact congrArg Outcome.ofResult (emitted output session.world)

theorem run_toGrammar_of_dot (parsed : Automaton.read text = .ok automaton)
    (drawing : chosen = .dot) :
    session.run (.toGrammar path output format) =
      ⟨"", session.tree, some .drawingOfGrammar⟩ := by
  rw [session.run_of_settings_eq_ok resolved, Request.perform,
    bind_of_ok (run_readAutomaton_of_read opened parsed), choice, drawing]
  rfl

theorem run_toGrammar (parsed : Automaton.read text = .ok automaton) (other : chosen ≠ .dot) :
    ∃ document, automaton.toGrammar.HasForm chosen document ∧
      session.run (.toGrammar path output format) = session.delivered output document.text := by
  obtain ⟨document, form, emitted⟩ := exists_hasForm_of_grammar automaton.toGrammar other
  refine ⟨document, form, ?_⟩
  rw [session.run_of_settings_eq_ok resolved, Request.perform,
    bind_of_ok (run_readAutomaton_of_read opened parsed), choice, mapError_ok,
    bind_of_ok (run_ofExcept (.ok chosen) session.world), if_neg other]
  exact congrArg Outcome.ofResult (emitted output session.world)

end Runs

end Command
end RightLinear
