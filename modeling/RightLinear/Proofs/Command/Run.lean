import RightLinear.Command.Run
import RightLinear.Proofs.Command.FileTree
import RightLinear.Proofs.Writing

/-! # What a run leaves

Until its output is opened, a run looks at the world and leaves it as it is. An output file
that is opened stands empty where its path leads to until it is filled, and whether it can be
opened does not depend on what is written. Variables stay the same, unless the file is one of
variables. A session is all that commands run with; if its settings are resolved, the request
alone decides what is left.
-/

namespace RightLinear.Command

variable {tree : FileTree} {working : Place} {path : PathName} {text : String}

theorem fromUTF8?_toUTF8 (text : String) : String.fromUTF8? text.toUTF8 = some text := by
  rw [String.fromUTF8?, String.toUTF8_eq_toByteArray, dif_pos text.isValidUTF8]
  rfl

section Looking

variable {α β : Type} {world : World}

/-- The outcome of a program that looks only: its result, and the world as it was. -/
def World.answer (world : World) : Except Failure α → EStateM.Result Failure World α
  | .ok value => .ok value world
  | .error failure => .error failure world

theorem run_ofExcept (result : Except Failure α) (world : World) :
    (MonadExcept.ofExcept result : OnTree α) world = world.answer result := by
  cases result with
  | ok value => rfl
  | error failure => rfl

/-- Programs that look only give together what their results give. -/
theorem run_bind_eq_answer {first : OnTree α} {next : α → OnTree β} {result : Except Failure α}
    {results : α → Except Failure β} (looked : first world = world.answer result)
    (looks : ∀ value, next value world = world.answer (results value)) :
    (first >>= next) world = world.answer (result >>= results) := by
  cases result with
  | ok value => exact (bind_of_ok looked).trans (looks value)
  | error failure => exact bind_of_error looked

theorem run_findSomeM? {program : α → OnTree (Option β)} {found : α → Option β}
    (looks : ∀ item, program item world = .ok (found item) world) (items : List α) :
    (items.findSomeM? program : OnTree (Option β)) world = .ok (items.findSome? found) world := by
  induction items with
  | nil => rfl
  | cons item items induction =>
      rw [List.findSomeM?, bind_of_ok (looks item), List.findSome?_cons]
      cases found item with
      | some value => rfl
      | none => exact induction

/-- The file of variables that a working folder has. -/
def environmentFile? (tree : FileTree) (working : Place) : Option ByteArray :=
  (List.range (working.length + 1)).reverse.findSome? fun depth =>
    tree.content? (working.take depth ++ [".env"])

/-- All variables: those given, then those of the file. -/
def fullEnvironment (environment : Environment) (tree : FileTree) (working : Place) :
    Environment :=
  match environmentFile? tree working with
  | none => environment
  | some content => environment.withFile content

theorem run_environmentFile (world : World) :
    (environmentFile : OnTree (Option ByteArray)) world =
      .ok (environmentFile? world.tree world.working) world := by
  have working : (Host.working : OnTree Place) world = .ok world.working world := rfl
  have looks (depth : Nat) :
      (Host.content? (world.working.take depth ++ [".env"]) : OnTree (Option ByteArray)) world =
        .ok (world.tree.content? (world.working.take depth ++ [".env"])) world := rfl
  rw [environmentFile, bind_of_ok working]
  exact run_findSomeM? looks _

theorem run_allVariables (world : World) :
    (allVariables : OnTree Environment) world =
      .ok (fullEnvironment world.environment world.tree world.working) world := by
  have given (file : Option ByteArray) : (Host.environment file : OnTree Environment) world =
      .ok world.environment world := rfl
  rw [allVariables, bind_of_ok (run_environmentFile world), bind_of_ok (given _), fullEnvironment]
  cases environmentFile? world.tree world.working with
  | none => rfl
  | some content => rfl

/-- The text of an input file. -/
def readInput (tree : FileTree) (working : Place) (path : PathName) :
    Except Failure String :=
  match tree.find working path with
  | .error fault => .error (.notOpened path fault)
  | .ok (.folder _) => .error (.notRead path .isFolder)
  | .ok (.file content) =>
      match String.fromUTF8? content with
      | none => .error (.notRead path .notText)
      | some text => .ok text

theorem run_readText (world : World) (path : PathName) :
    (readText path : OnTree String) world =
      world.answer (readInput world.tree world.working path) := by
  rw [readText, readInput]
  cases found : world.tree.find world.working path with
  | error fault =>
      have refused : (Host.load path : OnTree ByteArray) world =
          .error (.notOpened path fault) world := by
        simp only [Host.load, found]
      exact bind_of_error refused
  | ok standing =>
      cases standing with
      | folder entries =>
          have refused : (Host.load path : OnTree ByteArray) world =
              .error (.notRead path .isFolder) world := by
            simp only [Host.load, found]
          exact bind_of_error refused
      | file content =>
          have loaded : (Host.load path : OnTree ByteArray) world = .ok content world := by
            simp only [Host.load, found]
          rw [bind_of_ok loaded]
          dsimp only
          cases String.fromUTF8? content with
          | none => rfl
          | some text => rfl

/-- The grammar that an input file describes. -/
def grammarIn (tree : FileTree) (working : Place) (path : PathName) : Except Failure Grammar := do
  let text ← readInput tree working path
  (Grammar.read text).mapError (.notGrammar path)

def automatonIn (tree : FileTree) (working : Place) (path : PathName) :
    Except Failure Automaton := do
  let text ← readInput tree working path
  (Automaton.read text).mapError (.notAutomaton path)

theorem grammarIn_eq_ok_iff {grammar : Grammar} :
    grammarIn tree working path = .ok grammar ↔
      ∃ text, readInput tree working path = .ok text ∧ Grammar.read text = .ok grammar := by
  simp only [grammarIn, bind_eq_ok_iff, mapError_eq_ok_iff]

theorem automatonIn_eq_ok_iff {automaton : Automaton} :
    automatonIn tree working path = .ok automaton ↔
      ∃ text, readInput tree working path = .ok text ∧ Automaton.read text = .ok automaton := by
  simp only [automatonIn, bind_eq_ok_iff, mapError_eq_ok_iff]

theorem run_readGrammar (world : World) (path : PathName) :
    (readGrammar path : OnTree Grammar) world =
      world.answer (grammarIn world.tree world.working path) :=
  run_bind_eq_answer (run_readText world path) fun _ => run_ofExcept _ world

theorem run_readAutomaton (world : World) (path : PathName) :
    (readAutomaton path : OnTree Automaton) world =
      world.answer (automatonIn world.tree world.working path) :=
  run_bind_eq_answer (run_readText world path) fun _ => run_ofExcept _ world

end Looking

section Delivering

variable {world : World}

/-- The failures at the output of a run, when all else has been done. -/
def Failure.AtOutput : Failure → Prop
  | .folderNotMade _ _ => True
  | .notWritable _ _ => True
  | _ => False

/-- Opens the output and writes a text to it. -/
def deliver (output : Option PathName) (text : String) : OnTree Unit := do
  let fill ← openOutput output
  fill text

theorem run_print (text : String) (world : World) :
    (Host.print text : OnTree Unit) world = deliver none text world := rfl

/-- A writer that writes a document is never stopped by an output, which takes all of it. -/
theorem run_emit_ofWriter {writer : Writer} {document : Document} (writes : writer = document.write)
    (output : Option PathName) (world : World) :
    (emit output (.ofWriter writer) : OnTree Unit) world = deliver output document.text world := by
  have room : Sink.unlimited.Fits document.text := by
    intro limit limited
    exact nomatch limited
  have rendered : Rendering.ofWriter writer .unlimited =
      .ok () (Sink.unlimited.holding document.text) := by
    rw [Rendering.ofWriter, EStateM.adaptExcept, writes, Sink.write_of_fits room]
  have held : (Sink.unlimited.holding document.text).held = document.text := String.empty_append
  simp only [emit, deliver, rendered, held]

/-- What opening an output file comes to: it is refused, though folders may have been made, or
the file stands empty where its path leads to and can be filled. No other file changes. -/
inductive Opens (world : World) (path : PathName) :
    EStateM.Result Failure World (String → OnTree Unit) → Prop
  | refused {failure : Failure} {made : FileTree} (atOutput : failure.AtOutput)
      (kept : ∀ place, made.content? place = world.tree.content? place) :
      Opens world path (.error failure { world with tree := made })
  | opened {made : FileTree} {place : Place} {fill : String → OnTree Unit}
      (kept : ∀ place, made.content? place = world.tree.content? place)
      (leads : made.outputPlace world.working path = .ok place)
      (fills : ∀ text, fill text { world with tree := made.put place (.file .empty) } =
        .ok () { world with tree := made.put place (.file text.toUTF8) }) :
      Opens world path (.ok fill { world with tree := made.put place (.file .empty) })

theorem opens_create (world : World) (path : PathName) {made : FileTree}
    (kept : ∀ place, made.content? place = world.tree.content? place) :
    Opens world path
      ((Host.create path : OnTree (String → OnTree Unit)) { world with tree := made }) := by
  simp only [Host.create]
  cases leads : made.outputPlace world.working path with
  | error fault => exact .refused trivial kept
  | ok place =>
      refine .opened kept leads fun text => ?_
      change EStateM.Result.ok () { world with
        tree := (made.put place (.file .empty)).put place (.file text.toUTF8) } = _
      rw [FileTree.put_put]

theorem opens_openFile (world : World) (path : PathName) :
    Opens world path ((openFile path : OnTree (String → OnTree Unit)) world) := by
  unfold openFile
  cases path.parent? with
  | none => exact opens_create world path fun _ => rfl
  | some parent =>
      have kept := FileTree.content?_makeFolder world.tree world.working parent
      dsimp only
      rcases prepared : world.tree.makeFolder world.working parent with ⟨made, fault?⟩
      rw [prepared] at kept
      cases fault? with
      | some fault =>
          have refused : (Host.makeFolder parent : OnTree Unit) world =
              .error (.folderNotMade parent fault) { world with tree := made } := by
            simp only [Host.makeFolder, prepared]
          rw [bind_of_error refused]
          exact .refused trivial kept
      | none =>
          have done : (Host.makeFolder parent : OnTree Unit) world =
              .ok () { world with tree := made } := by
            simp only [Host.makeFolder, prepared]
          rw [bind_of_ok done]
          exact opens_create world path kept

/-- What writing a text to an output file comes to: it is refused, or the file has the text. -/
inductive Saves (world : World) (path : PathName) (text : String) :
    EStateM.Result Failure World Unit → Prop
  | refused {failure : Failure} {made : FileTree} (atOutput : failure.AtOutput)
      (kept : ∀ place, made.content? place = world.tree.content? place) :
      Saves world path text (.error failure { world with tree := made })
  | saved {made : FileTree} {place : Place}
      (kept : ∀ place, made.content? place = world.tree.content? place)
      (leads : made.outputPlace world.working path = .ok place) :
      Saves world path text (.ok () { world with tree := made.put place (.file text.toUTF8) })

theorem saves_deliver (world : World) (path : PathName) (text : String) :
    Saves world path text (deliver (some path) text world) := by
  have opens := opens_openFile world path
  rw [deliver, openOutput]
  cases ran : (openFile path : OnTree (String → OnTree Unit)) world with
  | error failure stopped =>
      rw [bind_of_error ran]
      rw [ran] at opens
      cases opens with
      | refused atOutput kept => exact .refused atOutput kept
  | ok fill opened =>
      rw [bind_of_ok ran]
      rw [ran] at opens
      cases opens with
      | opened kept leads fills =>
          rw [fills text]
          exact .saved kept leads

theorem exists_run_deliver_iff {output : Option PathName} (text : String) :
    (∃ after, deliver output text world = .ok () after) ↔
      ∃ fill opened, (openOutput output : OnTree (String → OnTree Unit)) world = .ok fill opened := by
  constructor
  · rintro ⟨after, delivered⟩
    obtain ⟨fill, opened, ran, _⟩ := run_bind_eq_ok_iff.1 delivered
    exact ⟨fill, opened, ran⟩
  · rintro ⟨fill, opened, ran⟩
    cases output with
    | none => exact ⟨_, rfl⟩
    | some path =>
        rw [openOutput] at ran
        have opens := opens_openFile world path
        rw [ran] at opens
        cases opens with
        | opened _ _ fills => exact ⟨_, (bind_of_ok ran).trans (fills text)⟩

end Delivering

/-- What commands run with: variables, files, the folder to work in, and the general
options. -/
structure Session where
  environment : Environment
  tree : FileTree
  working : Place
  rule : Option EpsilonRule
  sink : Option String

namespace Session

def world (session : Session) : World := ⟨session.environment, session.working, session.tree, ""⟩

def settings (session : Session) : Except Settings.Fault Settings :=
  Settings.resolve
    ((fullEnvironment session.environment session.tree session.working).lookup ·)
    session.rule session.sink

def read (session : Session) (path : PathName) : Except Failure String :=
  readInput session.tree session.working path

def run (session : Session) (request : Request) : Outcome :=
  Invocation.run ⟨session.rule, session.sink, request⟩ session.environment session.tree
    session.working

/-- The session goes on with the files that are left. -/
def after (session : Session) (outcome : Outcome) : Session :=
  { session with tree := outcome.tree }

@[simp] theorem tree_after (session : Session) (outcome : Outcome) :
    (session.after outcome).tree = outcome.tree := rfl

@[simp] theorem working_after (session : Session) (outcome : Outcome) :
    (session.after outcome).working = session.working := rfl

/-- The output of a command can go where it should: it is printed, or the file at its path can
be opened. -/
def Writable (session : Session) (output : Option PathName) : Prop :=
  ∃ fill opened, (openOutput output : OnTree (String → OnTree Unit)) session.world = .ok fill opened

/-- What is left when a text has been written to an output. -/
def delivered (session : Session) (output : Option PathName) (text : String) : Outcome :=
  .ofResult (deliver output text session.world)

variable (session : Session)

theorem perform_invocation_eq (request : Request) :
    (Invocation.perform ⟨session.rule, session.sink, request⟩ : OnTree Unit) session.world =
      ((MonadExcept.ofExcept (session.settings.mapError Failure.settings) : OnTree Settings) >>=
        fun settings => request.perform settings) session.world := by
  rw [Invocation.perform, bind_of_ok (run_allVariables session.world)]
  rfl

theorem run_of_settings_eq_ok {settings : Settings} (resolved : session.settings = .ok settings)
    (request : Request) :
    session.run request = .ofResult ((request.perform settings : OnTree Unit) session.world) := by
  have performed := session.perform_invocation_eq request
  rw [resolved, mapError_ok, bind_of_ok (run_ofExcept (.ok settings) session.world)] at performed
  exact congrArg Outcome.ofResult performed

theorem run_of_settings_eq_error {fault : Settings.Fault}
    (unresolved : session.settings = .error fault) (request : Request) :
    session.run request = ⟨"", session.tree, some (.settings fault)⟩ := by
  have performed := session.perform_invocation_eq request
  rw [unresolved, mapError_error,
    bind_of_error (run_ofExcept (.error (.settings fault)) session.world)] at performed
  exact congrArg Outcome.ofResult performed

theorem failure?_delivered_eq_none_iff {output : Option PathName} {text : String} :
    (session.delivered output text).failure? = none ↔ session.Writable output := by
  rw [Writable, ← exists_run_deliver_iff text, delivered]
  cases deliver output text session.world with
  | ok value after => exact iff_of_true rfl ⟨after, rfl⟩
  | error failure after =>
      apply iff_of_false
      · exact Option.some_ne_none failure
      · rintro ⟨_, impossible⟩
        exact nomatch impossible

theorem delivered_none (text : String) :
    session.delivered none text = ⟨text, session.tree, none⟩ := by
  change Outcome.mk ("" ++ text) session.tree none = _
  rw [String.empty_append]

/-- A text that goes to a file is refused there, or the file has it. -/
theorem delivered_cases (path : PathName) (text : String) :
    ∃ made : FileTree, (∀ place, made.content? place = session.tree.content? place) ∧
      ((∃ failure : Failure, failure.AtOutput ∧
          session.delivered (some path) text = ⟨"", made, some failure⟩) ∨
        ∃ place, made.outputPlace session.working path = .ok place ∧
          session.delivered (some path) text =
            ⟨"", made.put place (.file text.toUTF8), none⟩) := by
  have saves := saves_deliver session.world path text
  rw [delivered]
  generalize deliver (some path) text session.world = result at saves
  cases saves with
  | refused atOutput kept => exact ⟨_, kept, .inl ⟨_, atOutput, rfl⟩⟩
  | saved kept leads => exact ⟨_, kept, .inr ⟨_, leads, rfl⟩⟩

section Saved

variable (saved : (session.delivered (some path) text).failure? = none)

include saved

theorem exists_tree_of_delivered :
    ∃ made : FileTree, ∃ place, (∀ place, made.content? place = session.tree.content? place) ∧
      made.outputPlace session.working path = .ok place ∧
      session.delivered (some path) text = ⟨"", made.put place (.file text.toUTF8), none⟩ := by
  obtain ⟨made, kept, ⟨failure, _, refused⟩ | ⟨place, leads, left⟩⟩ :=
    session.delivered_cases path text
  · rw [refused] at saved
    exact nomatch saved
  · exact ⟨made, place, kept, leads, left⟩

theorem read_after_delivered :
    (session.after (session.delivered (some path) text)).read path = .ok text := by
  obtain ⟨made, place, _, leads, left⟩ := session.exists_tree_of_delivered saved
  rw [left, read, readInput]
  have found := FileTree.find_put_of_outputPlace leads text.toUTF8
  simp only [after, found, fromUTF8?_toUTF8]

/-- Settings are the same after saving, unless the file is one of variables. -/
theorem settings_after_delivered (another : path.fileName? ≠ some ".env") :
    (session.after (session.delivered (some path) text)).settings = session.settings := by
  obtain ⟨made, place, kept, leads, left⟩ := session.exists_tree_of_delivered saved
  have same (folder : Place) : (made.put place (.file text.toUTF8)).content? (folder ++ [".env"]) =
      session.tree.content? (folder ++ [".env"]) :=
    (FileTree.content?_put_of_outputPlace leads another _ folder).trans (kept _)
  rw [left]
  simp only [settings, after, fullEnvironment, environmentFile?, same]

end Saved

end Session
end RightLinear.Command
