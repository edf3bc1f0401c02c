import RightLinear.Proofs.Command.Requests

/-! # Which files a run touches

All that can go wrong before a file is opened is found out before. So a run that fails
leaves every file as it was; where it fails at its output, folders may have been made on
the way there, and nothing else. A run that has an output path prints nothing and leaves
the form of what it has converted where that path leads to. All other files stay, also
where that path leads to the input.
-/

namespace RightLinear

namespace Command

variable {tree : FileTree} {working : Place} {path : PathName} {text : String} {world : World}

/-- Of all files, only the one that a path leads to has changed, and it has the text. -/
def SavedAt (before after : FileTree) (working : Place) (path : PathName) (text : String) :
    Prop :=
  ∃ place, after.walk (FileTree.base working path) path.segments = .ok place ∧
    after.content? place = some text.toUTF8 ∧
    ∀ other, other ≠ place → after.content? other = before.content? other

theorem savedAt_put {made : FileTree} {place : Place}
    (kept : ∀ place, made.content? place = tree.content? place)
    (leads : made.outputPlace working path = .ok place) (text : String) :
    SavedAt tree (made.put place (.file text.toUTF8)) working path text := by
  obtain ⟨reached, standing, others⟩ := FileTree.placed_of_outputPlace leads text.toUTF8
  exact ⟨place, reached, standing, fun other different =>
    (others other different).trans (kept other)⟩

namespace Request

def input : Request → PathName
  | .verify grammar => grammar
  | .toAutomaton grammar _ _ => grammar
  | .toGrammar automaton _ _ => automaton
  | .listGrammar grammar _ => grammar
  | .listAutomaton automaton => automaton
  | .accept automaton _ => automaton

/-- The path of the file that a request is to write, if it is to write one. -/
def output? : Request → Option PathName
  | .toAutomaton _ output _ => output
  | .toGrammar _ output _ => output
  | _ => none

/-- What a request makes of a text: the form of what the text describes, converted, in
the format that is chosen for the output. -/
inductive Converts (settings : Settings) (text : String) (output : Option PathName) :
    Request → Document → Prop
  | toAutomaton {path : PathName} {format : Option Format} {grammar : Grammar}
      {automaton : Automaton} {chosen : Format} {document : Document}
      (parsed : Grammar.read text = .ok grammar)
      (converted : settings.automatonOf grammar = .ok automaton)
      (choice : Format.choose format output = .ok chosen)
      (form : automaton.HasForm chosen document) :
      Converts settings text output (.toAutomaton path output format) document
  | toGrammar {path : PathName} {format : Option Format} {automaton : Automaton}
      {chosen : Format} {document : Document} (parsed : Automaton.read text = .ok automaton)
      (choice : Format.choose format output = .ok chosen)
      (form : automaton.toGrammar.HasForm chosen document) :
      Converts settings text output (.toGrammar path output format) document

section Conversions

variable {settings : Settings} {output : Option PathName} {format : Option Format}
  {chosen : Format} {document : Document} {automaton : Automaton}
  (choice : Format.choose format output = .ok chosen)

include choice

theorem Converts.hasForm_of_toAutomaton {grammar : Grammar}
    (converts : Converts settings text output (.toAutomaton path output format) document)
    (parsed : Grammar.read text = .ok grammar)
    (converted : settings.automatonOf grammar = .ok automaton) :
    automaton.HasForm chosen document := by
  cases converts with
  | toAutomaton reparsed reconverted same form =>
      cases parsed.symm.trans reparsed
      cases converted.symm.trans reconverted
      cases choice.symm.trans same
      exact form

theorem Converts.hasForm_of_toGrammar
    (converts : Converts settings text output (.toGrammar path output format) document)
    (parsed : Automaton.read text = .ok automaton) :
    automaton.toGrammar.HasForm chosen document := by
  cases converts with
  | toGrammar reparsed same form =>
      cases parsed.symm.trans reparsed
      cases choice.symm.trans same
      exact form

end Conversions

/-- How a request ends: it stops with the world as it was, or the last thing that it does is
to deliver what it makes of the text of its input. -/
inductive Ends (settings : Settings) (request : Request) (world : World) :
    EStateM.Result Failure World Unit → Prop
  | stopped (failure : Failure) : Ends settings request world (.error failure world)
  | delivered {text made : String}
      (opened : readInput world.tree world.working request.input = .ok text)
      (converts : ∀ output, request.output? = some output →
        ∃ document, request.Converts settings text (some output) document ∧
          made = document.text) :
      Ends settings request world (deliver request.output? made world)

variable {settings : Settings} {request : Request}

theorem Ends.bind {α : Type} {first : OnTree α} {next : α → OnTree Unit}
    {result : Except Failure α} (looked : first world = world.answer result)
    (goes : ∀ value, result = .ok value → Ends settings request world (next value world)) :
    Ends settings request world ((first >>= next) world) := by
  cases result with
  | error failure =>
      rw [bind_of_error looked]
      exact .stopped failure
  | ok value =>
      rw [bind_of_ok looked]
      exact goes value rfl

/-- Without an output path, nothing is asked of what is printed. -/
theorem Ends.of_print (request : Request) (prints : request.output? = none)
    (opened : readInput world.tree world.working request.input = .ok text) (made : String) :
    Ends settings request world (deliver none made world) := by
  rw [← prints]
  refine .delivered opened fun output saves => ?_
  exact nomatch prints.symm.trans saves

theorem ends_perform (settings : Settings) (request : Request) (world : World) :
    Ends settings request world ((request.perform settings : OnTree Unit) world) := by
  cases request with
  | verify path =>
      rw [perform]
      refine .bind (run_readGrammar world path) fun grammar described => ?_
      obtain ⟨text, opened, _⟩ := grammarIn_eq_ok_iff.1 described
      rw [run_print]
      exact .of_print (.verify path) rfl opened _
  | toAutomaton path output format =>
      rw [perform]
      refine .bind (run_readGrammar world path) fun grammar described => ?_
      refine .bind (run_ofExcept _ world) fun automaton converted => ?_
      refine .bind (run_ofExcept _ world) fun chosen choice => ?_
      obtain ⟨text, opened, parsed⟩ := grammarIn_eq_ok_iff.1 described
      obtain ⟨document, form, emitted⟩ := exists_hasForm_of_automaton automaton chosen
      rw [emitted]
      refine .delivered opened ?_
      rintro _ ⟨⟩
      exact ⟨document, .toAutomaton parsed (mapError_eq_ok_iff.1 converted)
        (mapError_eq_ok_iff.1 choice) form, rfl⟩
  | toGrammar path output format =>
      rw [perform]
      refine .bind (run_readAutomaton world path) fun automaton described => ?_
      refine .bind (run_ofExcept _ world) fun chosen choice => ?_
      obtain ⟨text, opened, parsed⟩ := automatonIn_eq_ok_iff.1 described
      by_cases drawing : chosen = .dot
      · rw [if_pos drawing]
        exact .stopped .drawingOfGrammar
      · rw [if_neg drawing]
        obtain ⟨document, form, emitted⟩ := exists_hasForm_of_grammar automaton.toGrammar drawing
        dsimp only
        rw [emitted]
        refine .delivered opened ?_
        rintro _ ⟨⟩
        exact ⟨document, .toGrammar parsed (mapError_eq_ok_iff.1 choice) form, rfl⟩
  | listGrammar path only =>
      rw [perform]
      refine .bind (run_readGrammar world path) fun grammar described => ?_
      obtain ⟨text, opened, _⟩ := grammarIn_eq_ok_iff.1 described
      cases only with
      | none =>
          dsimp only
          rw [run_emit_ofWriter grammar.writeListing_eq]
          exact .of_print (.listGrammar path none) rfl opened _
      | some symbol =>
          dsimp only
          rw [run_emit_ofWriter (grammar.writeListingOf_eq symbol)]
          exact .of_print (.listGrammar path (some symbol)) rfl opened _
  | listAutomaton path =>
      rw [perform]
      refine .bind (run_readAutomaton world path) fun automaton described => ?_
      obtain ⟨text, opened, _⟩ := automatonIn_eq_ok_iff.1 described
      rw [run_emit_ofWriter automaton.writeListing_eq]
      exact .of_print (.listAutomaton path) rfl opened _
  | accept path word =>
      rw [perform]
      refine .bind (run_readAutomaton world path) fun automaton described => ?_
      obtain ⟨text, opened, _⟩ := automatonIn_eq_ok_iff.1 described
      rw [run_print]
      exact .of_print (.accept path word) rfl opened _

end Request

/-- A run stops with everything as it was, or what is left is what its request makes of the
text of its input, delivered. -/
theorem Session.run_cases (session : Session) (request : Request) :
    (∃ failure, session.run request = ⟨"", session.tree, some failure⟩) ∨
      ∃ settings text made, session.settings = .ok settings ∧
        session.read request.input = .ok text ∧
        (∀ output, request.output? = some output →
          ∃ document, request.Converts settings text (some output) document ∧
            made = document.text) ∧
        session.run request = session.delivered request.output? made := by
  cases resolved : session.settings with
  | error fault => exact .inl ⟨_, session.run_of_settings_eq_error resolved request⟩
  | ok settings =>
      rw [session.run_of_settings_eq_ok resolved]
      have ends := Request.ends_perform settings request session.world
      generalize (request.perform settings : OnTree Unit) session.world = result at ends ⊢
      cases ends with
      | stopped failure => exact .inl ⟨failure, rfl⟩
      | delivered opened converts => exact .inr ⟨settings, _, _, rfl, opened, converts, rfl⟩

/-- A run that fails leaves all files as they were, and prints nothing. A run that has an
output path and does not fail leaves what it has converted there and touches no other
file. All other runs touch nothing. -/
theorem touches_output_only (session : Session) (request : Request) :
    (∀ failure, (session.run request).failure? = some failure →
        (session.run request).printed = "" ∧
          (∀ place, (session.run request).tree.content? place = session.tree.content? place) ∧
          (¬ failure.AtOutput → (session.run request).tree = session.tree)) ∧
      (∀ output, request.output? = some output → (session.run request).failure? = none →
        (session.run request).printed = "" ∧
          ∃ settings text document, session.settings = .ok settings ∧
            session.read request.input = .ok text ∧
            request.Converts settings text (some output) document ∧
            SavedAt session.tree (session.run request).tree session.working output
              document.text) ∧
      (request.output? = none → (session.run request).tree = session.tree) := by
  rcases session.run_cases request with ⟨reason, stopped⟩ |
    ⟨settings, text, made, resolved, opened, converts, left⟩
  · rw [stopped]
    refine ⟨?_, ?_, fun _ => rfl⟩
    · intro failure _
      exact ⟨rfl, fun _ => rfl, fun _ => rfl⟩
    · intro output _ succeeded
      exact nomatch succeeded
  · rw [left]
    cases asked : request.output? with
    | none =>
        refine ⟨?_, ?_, fun _ => rfl⟩
        · intro failure failed
          exact nomatch failed
        · intro output saves
          exact nomatch saves
    | some output =>
        obtain ⟨document, converted, rfl⟩ := converts output asked
        refine ⟨?_, ?_, fun prints => nomatch prints⟩
        · intro failure failed
          obtain ⟨tree, kept, ⟨_, atOutput, refused⟩ | ⟨_, _, saved⟩⟩ :=
            session.delivered_cases output document.text
          · rw [refused] at failed ⊢
            cases failed
            exact ⟨rfl, kept, fun before => absurd atOutput before⟩
          · rw [saved] at failed
            exact nomatch failed
        · rintro _ ⟨⟩ succeeded
          obtain ⟨tree, place, kept, leads, saved⟩ := session.exists_tree_of_delivered succeeded
          rw [saved]
          exact ⟨rfl, settings, text, document, resolved, opened, converted,
            savedAt_put kept leads _⟩

def loneText : String := "p q\na\np\nq\np a q\n"

def lone : Automaton := .ofLists [⟨"p"⟩, ⟨"q"⟩] [⟨"a"⟩] [((⟨"p"⟩, ⟨"a"⟩), [⟨"q"⟩])] ⟨"p"⟩ [⟨"q"⟩]

def pairText : String := "S\na\nS\nS aS a\n"

def pair : Grammar :=
  .ofLists [⟨"S"⟩] [⟨"a"⟩] [(⟨"S"⟩, [.symbols [⟨"a"⟩, ⟨"S"⟩], .symbols [⟨"a"⟩]])] ⟨"S"⟩

/-- A session in a folder with an automaton and a grammar. -/
def loneSession : Session where
  environment := []
  tree := .folder [("lone", .file loneText.toUTF8), ("pair", .file pairText.toUTF8)]
  working := []
  rule := none
  sink := none

/-- A request for a drawing of a grammar, which there is not. -/
def drawing : Request := .toGrammar ⟨"lone"⟩ (some ⟨"lone.dot"⟩) none

/-- A request to put the grammar in the place of its automaton. -/
def replacing : Request := .toGrammar ⟨"lone"⟩ (some ⟨"lone"⟩) (some .source)

/-- A request to list the automaton of the grammar in a folder that is not there yet. -/
def listing : Request := .toAutomaton ⟨"pair"⟩ (some ⟨"made/pair.txt"⟩) none

/-- A request to describe the automaton of the grammar in JSON. -/
def describing : Request := .toAutomaton ⟨"pair"⟩ (some ⟨"pair.json"⟩) none

def pairJson : String :=
  String.join
    ["\x7b\n", "  \"alphabet\": [\n", "    \"a\"\n", "  ],\n",
      "  \"final_states\": [\n", "    \"K\"\n", "  ],\n",
      "  \"initial_state\": \"S\",\n",
      "  \"states\": [\n", "    \"S\",\n", "    \"K\"\n", "  ],\n",
      "  \"transitions\": [\n", "    \x7b\n", "      \"from\": \"S\",\n",
      "      \"symbol\": \"a\",\n", "      \"to\": [\n", "        \"S\",\n",
      "        \"K\"\n", "      ]\n", "    \x7d\n", "  ]\n", "\x7d\n"]

theorem text_json_pair : (pair.automatonWithSink ⟨"K"⟩).json.text = pairJson := by
  decide +kernel

theorem loneSession_touches_output_only :
    (loneSession.run drawing).failure? = some .drawingOfGrammar ∧
      (loneSession.run drawing).tree = loneSession.tree ∧
      (loneSession.run replacing).failure? = none ∧
      SavedAt loneSession.tree (loneSession.run replacing).tree [] ⟨"lone"⟩
        "p q\na\np\np aq a\n" ∧
      (loneSession.run listing).failure? = none ∧
      SavedAt loneSession.tree (loneSession.run listing).tree [] ⟨"made/pair.txt"⟩
        ("States: S K\nAlphabet: a\nInitial state: S\nFinal states: K\n" ++
          "Transitions:\n  delta(S, a) = \x7bS, K\x7d\n") ∧
      (loneSession.run describing).failure? = none ∧
      SavedAt loneSession.tree (loneSession.run describing).tree [] ⟨"pair.json"⟩ pairJson := by
  have resolved : loneSession.settings = .ok ⟨.sequential, ⟨"K"⟩⟩ := by rfl
  have loneOpened : loneSession.read ⟨"lone"⟩ = .ok loneText := by
    have found : loneSession.tree.find loneSession.working ⟨"lone"⟩ =
        .ok (.file loneText.toUTF8) := by rfl
    rw [Session.read, readInput, found]
    simp only [fromUTF8?_toUTF8]
  have pairOpened : loneSession.read ⟨"pair"⟩ = .ok pairText := by
    have found : loneSession.tree.find loneSession.working ⟨"pair"⟩ =
        .ok (.file pairText.toUTF8) := by rfl
    rw [Session.read, readInput, found]
    simp only [fromUTF8?_toUTF8]
  have loneRead : Automaton.read loneText = .ok lone := by rfl
  have pairRead : Grammar.read pairText = .ok pair := by rfl
  have converted : Settings.automatonOf ⟨.sequential, ⟨"K"⟩⟩ pair =
      .ok (pair.automatonWithSink ⟨"K"⟩) := by rfl
  have asDrawing : Format.choose none (some ⟨"lone.dot"⟩) = .ok .dot := by rfl
  have asSource : Format.choose (some .source) (some ⟨"lone"⟩) = .ok .source := by rfl
  have asText : Format.choose none (some ⟨"made/pair.txt"⟩) = .ok .text := by rfl
  have asJson : Format.choose none (some ⟨"pair.json"⟩) = .ok .json := by rfl
  have refused : (loneSession.run drawing).failure? = some .drawingOfGrammar := by
    rw [drawing, run_toGrammar_of_dot resolved loneOpened asDrawing loneRead rfl]
  have replaced : (loneSession.run replacing).failure? = none := by
    obtain ⟨_, _, left⟩ := run_toGrammar resolved loneOpened asSource loneRead (by decide)
    rw [replacing, left, loneSession.failure?_delivered_eq_none_iff]
    exact ⟨_, _, rfl⟩
  have listed : (loneSession.run listing).failure? = none := by
    obtain ⟨_, _, left⟩ := run_toAutomaton resolved pairOpened asText pairRead converted
    rw [listing, left, loneSession.failure?_delivered_eq_none_iff]
    exact ⟨_, _, rfl⟩
  have described : (loneSession.run describing).failure? = none := by
    obtain ⟨_, _, left⟩ := run_toAutomaton resolved pairOpened asJson pairRead converted
    rw [describing, left, loneSession.failure?_delivered_eq_none_iff]
    exact ⟨_, _, rfl⟩
  refine ⟨refused, ((touches_output_only loneSession drawing).1 _ refused).2.2 id, replaced, ?_,
    listed, ?_, described, ?_⟩
  · obtain ⟨_, _, _, _, settled, reopened, converts, savedAt⟩ :=
      (touches_output_only loneSession replacing).2.1 _ rfl replaced
    cases resolved.symm.trans settled
    cases loneOpened.symm.trans reopened
    cases converts.hasForm_of_toGrammar asSource loneRead
    exact savedAt
  · obtain ⟨_, _, _, _, settled, reopened, converts, savedAt⟩ :=
      (touches_output_only loneSession listing).2.1 _ rfl listed
    cases resolved.symm.trans settled
    cases pairOpened.symm.trans reopened
    cases converts.hasForm_of_toAutomaton asText pairRead converted
    exact savedAt
  · obtain ⟨_, _, _, _, settled, reopened, converts, savedAt⟩ :=
      (touches_output_only loneSession describing).2.1 _ rfl described
    cases resolved.symm.trans settled
    cases pairOpened.symm.trans reopened
    cases converts.hasForm_of_toAutomaton asJson pairRead converted
    rwa [text_json_pair] at savedAt

end Command
end RightLinear
