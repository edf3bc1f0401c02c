import RightLinear.Proofs.Command.Requests
import RightLinear.Proofs.Layout.Conversion

/-! # Checking, converting and accepting

Three commands deal with one grammar: one tells whether it is regular, one writes its
automaton to a file, and one tells whether an automaton from a file accepts a word. What
the first says is what the second does, and the third finds in the file the automaton
that the second wrote.
-/

namespace RightLinear

namespace Settings

variable {settings : Settings} {grammar : Grammar} {automaton : Automaton}

theorem automatonOf_of_violation?_eq_none (regular : grammar.violation? settings.rule = none) :
    settings.automatonOf grammar =
      .ok (grammar.automatonWithSink (grammar.freshName settings.sink)) := by
  rw [automatonOf, Grammar.toAutomaton, regular]

theorem automatonOf_of_violation?_eq_some {violation : Violation}
    (found : grammar.violation? settings.rule = some violation) :
    settings.automatonOf grammar = .error violation := by
  rw [automatonOf, Grammar.toAutomaton, found]

theorem accepts_of_automatonOf (formed : grammar.WellFormed)
    (converted : settings.automatonOf grammar = .ok automaton) (word : Word) :
    automaton.accepts word = grammar.generates word := by
  obtain ⟨regular, rfl⟩ := (Grammar.toAutomaton_eq_ok_iff formed).1 converted
  exact regular.accepts_automatonWithSink formed Grammar.freshName_not_mem_nonTerminals word

end Settings

namespace Command

/-- The two reports part at their fourth word. -/
theorem not_regular_ne (reason : String) :
    "The grammar is not regular: " ++ reason ++ "\n" ≠ "The grammar is regular\n" := by
  intro same
  have chars := congrArg String.toList same
  rw [String.toList_append, String.toList_append, List.append_assoc] at chars
  have beginning := congrArg (List.take 16) chars
  rw [List.take_append_of_le_length (by decide)] at beginning
  exact absurd beginning (by decide)

theorem verdict_eq_regular_iff {violation? : Option Violation} :
    verdict violation? ++ "\n" = "The grammar is regular\n" ↔ violation? = none := by
  cases violation? with
  | none => exact iff_of_true (by decide) rfl
  | some violation => exact iff_of_false (not_regular_ne _) (Option.some_ne_none violation)

/-- What three commands make of one grammar, in a session with the given settings. -/
structure Consistent (session : Session) (settings : Settings) (path : PathName)
    (grammar : Grammar) : Prop where
  reports : (session.run (.verify path)).failure? = none ∧
    (session.run (.verify path)).tree = session.tree
  /-- With a supported format and a writable output, the conversion succeeds exactly if
  the grammar is reported as regular. -/
  regular_iff : ∀ output format chosen, Format.choose format output = .ok chosen →
    session.Writable output →
      ((session.run (.verify path)).printed = "The grammar is regular\n" ↔
        (session.run (.toAutomaton path output format)).failure? = none)
  /-- Otherwise the report and the refusal are about the same violation. -/
  same_violation : (session.run (.verify path)).printed ≠ "The grammar is regular\n" →
    ∃ violation : Violation,
      (session.run (.verify path)).printed =
          "The grammar is not regular: " ++ violation.message ++ "\n" ∧
        (∀ output format, session.run (.toAutomaton path output format) =
          ⟨"", session.tree, some (.notConverted path violation)⟩) ∧
        (Failure.notConverted path violation).report =
          ⟨.irregular, ["Failed to convert grammar " ++ path.text,
            "cannot build a finite automaton from an irregular grammar: " ++ violation.message]⟩
  /-- The file that is written in the source format is read as the automaton that was
  built. -/
  reads_back : ∀ output format, Format.choose format (some output) = .ok .source →
    (session.run (.toAutomaton path (some output) format)).failure? = none →
      ∃ automaton written, settings.automatonOf grammar = .ok automaton ∧
        (session.after (session.run (.toAutomaton path (some output) format))).read output =
          .ok written ∧
        Automaton.read written = .ok automaton
  /-- Unless that file is one of variables, the settings stay the same. -/
  keeps_settings : ∀ output format, Format.choose format (some output) = .ok .source →
    (session.run (.toAutomaton path (some output) format)).failure? = none →
      output.fileName? ≠ some ".env" →
        (session.after (session.run (.toAutomaton path (some output) format))).settings =
          .ok settings
  /-- By that file, words are accepted exactly if the grammar generates them, in the same
  folder and with whatever settings. -/
  accepts : ∀ output format, Format.choose format (some output) = .ok .source →
    (session.run (.toAutomaton path (some output) format)).failure? = none →
      ∀ later : Session,
        later.tree = (session.run (.toAutomaton path (some output) format)).tree →
        later.working = session.working →
        ∀ present, later.settings = .ok present →
          ∀ word, later.run (.accept output word) =
            ⟨(if grammar.generates (Word.ofText word) then "accepted" else "rejected") ++ "\n",
              later.tree, none⟩

section Runs

variable {session : Session} {settings : Settings} {path : PathName} {text : String}
  {grammar : Grammar} {automaton : Automaton} (resolved : session.settings = .ok settings)
  (opened : session.read path = .ok text) (parsed : Grammar.read text = .ok grammar)

include resolved in
theorem isToken_sink_of_settings : settings.sink.IsToken := by
  rw [Session.settings] at resolved
  exact Settings.isToken_sink_of_resolve resolved

include resolved opened parsed

/-- A conversion with a supported format fails at a violation or at its output. -/
theorem failure?_run_toAutomaton_eq_none_iff {output : Option PathName}
    {format : Option Format} {chosen : Format}
    (supported : Format.choose format output = .ok chosen) :
    (session.run (.toAutomaton path output format)).failure? = none ↔
      grammar.violation? settings.rule = none ∧
        session.Writable output := by
  cases found : grammar.violation? settings.rule with
  | some violation =>
      rw [run_toAutomaton_of_violation resolved opened parsed
        (Settings.automatonOf_of_violation?_eq_some found)]
      simp
  | none =>
      obtain ⟨document, _, left⟩ := run_toAutomaton resolved opened supported parsed
        (Settings.automatonOf_of_violation?_eq_none found)
      rw [left, session.failure?_delivered_eq_none_iff]
      simp

section Written

variable {output : PathName} {format : Option Format}
  (source : Format.choose format (some output) = .ok .source)
  (succeeded : (session.run (.toAutomaton path (some output) format)).failure? = none)

include source succeeded

theorem exists_saved_of_run_toAutomaton :
    ∃ automaton, settings.automatonOf grammar = .ok automaton ∧
      session.run (.toAutomaton path (some output) format) =
        session.delivered (some output) automaton.source.text := by
  have regular := ((failure?_run_toAutomaton_eq_none_iff resolved opened parsed source).1
    succeeded).1
  have converted := Settings.automatonOf_of_violation?_eq_none regular
  obtain ⟨document, form, left⟩ := run_toAutomaton resolved opened source parsed converted
  cases form
  exact ⟨_, converted, left⟩

/-- What a successful conversion leaves at its output is the automaton of the grammar. -/
theorem exists_written_of_run_toAutomaton :
    ∃ automaton written, settings.automatonOf grammar = .ok automaton ∧
      (session.after (session.run (.toAutomaton path (some output) format))).read output =
        .ok written ∧
      Automaton.read written = .ok automaton := by
  obtain ⟨automaton, converted, saved⟩ :=
    exists_saved_of_run_toAutomaton resolved opened parsed source succeeded
  rw [saved] at succeeded ⊢
  have reread := Settings.read_source_of_automatonOf (isToken_sink_of_settings resolved) parsed
    converted
  exact ⟨automaton, _, converted, session.read_after_delivered succeeded, reread⟩

theorem settings_after_run_toAutomaton (another : output.fileName? ≠ some ".env") :
    (session.after (session.run (.toAutomaton path (some output) format))).settings =
      .ok settings := by
  obtain ⟨automaton, _, saved⟩ :=
    exists_saved_of_run_toAutomaton resolved opened parsed source succeeded
  rw [saved] at succeeded ⊢
  exact (session.settings_after_delivered succeeded another).trans resolved

end Written

/-- Checking a grammar, converting it and accepting words by the written automaton go
together. -/
theorem consistent_of_read : Consistent session settings path grammar where
  reports := by
    rw [run_verify resolved opened parsed]
    exact ⟨rfl, rfl⟩
  regular_iff := by
    intro output format chosen supported writable
    rw [run_verify resolved opened parsed, verdict_eq_regular_iff,
      failure?_run_toAutomaton_eq_none_iff resolved opened parsed supported]
    exact ⟨fun regular => ⟨regular, writable⟩, And.left⟩
  same_violation := by
    rw [run_verify resolved opened parsed]
    intro irregular
    obtain ⟨violation, found⟩ := Option.ne_none_iff_exists'.1
      (mt verdict_eq_regular_iff.2 irregular)
    rw [found]
    exact ⟨violation, rfl, run_toAutomaton_of_violation resolved opened parsed
      (Settings.automatonOf_of_violation?_eq_some found), rfl⟩
  reads_back := fun output format => exists_written_of_run_toAutomaton resolved opened parsed
  keeps_settings := fun output format => settings_after_run_toAutomaton resolved opened parsed
  accepts := by
    intro output format source succeeded later sameTree sameFolder present prepared word
    obtain ⟨automaton, written, converted, reopened, reread⟩ :=
      exists_written_of_run_toAutomaton resolved opened parsed source succeeded
    have found : later.read output = .ok written := by
      rw [Session.read, sameTree, sameFolder]
      exact reopened
    rw [run_accept prepared found reread,
      Settings.accepts_of_automatonOf (Grammar.wellFormed_of_read parsed) converted]

end Runs

/-- An `a` and one or more letters `b`, or no letter at all. -/
def leading : Grammar :=
  .ofLists [⟨"S"⟩, ⟨"B"⟩] [⟨"a"⟩, ⟨"b"⟩]
    [(⟨"S"⟩, [.symbols [⟨"a"⟩, ⟨"B"⟩], .epsilon]),
      (⟨"B"⟩, [.symbols [⟨"b"⟩, ⟨"B"⟩], .symbols [⟨"b"⟩]])] ⟨"S"⟩

def leadingText : String := "S B\na b\nS\nS aB eps\nB bB b\n"

/-- A session in a folder with that grammar in a file. -/
def leadingSession : Session where
  environment := [("REGFA_SINK", "end")]
  tree := .folder [("leading", .file leadingText.toUTF8)]
  working := []
  rule := some .strict
  sink := none

/-- A request to write the automaton of that grammar next to it. -/
def converting : Request := .toAutomaton ⟨"leading"⟩ (some ⟨"leading.src"⟩) none

theorem leading_consistent :
    leadingSession.settings = .ok ⟨.strict, ⟨"end"⟩⟩ ∧
      leadingSession.read ⟨"leading"⟩ = .ok leadingText ∧
      Grammar.read leadingText = .ok leading ∧
      Format.choose none (some ⟨"leading.src"⟩) = .ok .source ∧
      leadingSession.Writable (some ⟨"leading.src"⟩) ∧
      Consistent leadingSession ⟨.strict, ⟨"end"⟩⟩ ⟨"leading"⟩ leading ∧
      (leadingSession.run converting).failure? = none ∧
      (∃ written, (leadingSession.after (leadingSession.run converting)).read ⟨"leading.src"⟩ =
          .ok written ∧
        Automaton.read written = .ok (leading.automatonWithSink ⟨"end"⟩)) ∧
      ((leadingSession.after (leadingSession.run converting)).run
        (.accept ⟨"leading.src"⟩ "abb")).printed = "accepted\n" := by
  have resolved : leadingSession.settings = .ok ⟨.strict, ⟨"end"⟩⟩ := by rfl
  have found : leadingSession.tree.find leadingSession.working ⟨"leading"⟩ =
      .ok (.file leadingText.toUTF8) := by rfl
  have opened : leadingSession.read ⟨"leading"⟩ = .ok leadingText := by
    rw [Session.read, readInput, found]
    simp only [fromUTF8?_toUTF8]
  have parsed : Grammar.read leadingText = .ok leading := by rfl
  have source : Format.choose none (some ⟨"leading.src"⟩) = .ok .source := by rfl
  have writable : leadingSession.Writable (some ⟨"leading.src"⟩) := ⟨_, _, rfl⟩
  have consistent := consistent_of_read resolved opened parsed
  have regular : leading.violation? .strict = none := by decide
  have reported : (leadingSession.run (.verify ⟨"leading"⟩)).printed =
      "The grammar is regular\n" := by
    rw [run_verify resolved opened parsed, regular]
    decide
  have succeeded : (leadingSession.run converting).failure? = none :=
    (consistent.regular_iff _ none _ source writable).1 reported
  obtain ⟨automaton, written, converted, reread, isAutomaton⟩ :=
    consistent.reads_back _ none source succeeded
  have built : automaton = leading.automatonWithSink ⟨"end"⟩ := by
    have computed : Settings.automatonOf ⟨.strict, ⟨"end"⟩⟩ leading =
        .ok (leading.automatonWithSink ⟨"end"⟩) := by rfl
    exact Except.ok.inj (converted.symm.trans computed)
  have elsewhere : (⟨"leading.src"⟩ : PathName).fileName? ≠ some ".env" := by decide
  have kept := consistent.keeps_settings _ none source succeeded elsewhere
  have accepted := consistent.accepts _ none source succeeded
    (leadingSession.after (leadingSession.run converting)) (leadingSession.tree_after _)
    (leadingSession.working_after _) _ kept "abb"
  have generated : leading.generates (Word.ofText "abb") = true := by decide
  refine ⟨resolved, opened, parsed, source, writable, consistent, succeeded,
    ⟨written, reread, built ▸ isAutomaton⟩, ?_⟩
  rw [accepted, generated]
  rfl

end Command
end RightLinear
