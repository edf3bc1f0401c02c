import RightLinear.Automaton.Language
import RightLinear.Command.Arguments
import RightLinear.Command.Environment
import RightLinear.Command.FileTree
import RightLinear.Conversion
import RightLinear.Graph
import RightLinear.Json.Description
import RightLinear.Layout.Automaton
import RightLinear.Layout.Grammar
import RightLinear.Listing

/-! # Commands

Settings come first, then the input file, then the work, and the output last. An output
file is opened before anything is written to it, and is empty from then on, so whatever
can be refused is refused before. What commands need from the system is named here and
given elsewhere.
-/

namespace RightLinear
namespace Command

/-- Why a command stops. -/
inductive Failure
  | settings (fault : Settings.Fault)
  | notOpened (path : PathName) (fault : SystemFault)
  | notRead (path : PathName) (fault : SystemFault)
  | notGrammar (path : PathName) (fault : Layout.Fault)
  | notAutomaton (path : PathName) (fault : Layout.Fault)
  | notConverted (path : PathName) (violation : Violation)
  | format (fault : Format.Fault)
  | drawingOfGrammar
  | folderNotMade (path : PathName) (fault : SystemFault)
  | notWritable (path : PathName) (fault : SystemFault)
  | notWritten (part : Part)
  | notFlushed (path : PathName) (fault : SystemFault)
  deriving DecidableEq

def Failure.report : Failure → Report
  | .settings fault => fault.report
  | .notOpened path fault => ⟨.system, [s!"Failed to open file: {path}", fault.message]⟩
  | .notRead path fault => ⟨.system, [s!"Failed to read file: {path}", fault.message]⟩
  | .notGrammar path fault => fault.report.within s!"Failed to parse grammar file: {path}"
  | .notAutomaton path fault =>
      fault.report.within s!"Failed to parse automaton file: {path}"
  | .notConverted path violation =>
      ⟨.irregular, [s!"Failed to convert grammar {path}", violation.refusal]⟩
  | .format fault => fault.report
  | .drawingOfGrammar => ⟨.other, ["DOT output is only available for automata"]⟩
  | .folderNotMade path fault =>
      ⟨.system, [s!"Failed to create directory: {path}", fault.message]⟩
  | .notWritable path fault =>
      ⟨.system, [s!"Failed to open file for writing: {path}", fault.message]⟩
  | .notWritten part => part.report
  | .notFlushed path fault => ⟨.system, [s!"Failed to flush {path}", fault.message]⟩

/-- What commands need from the system that they run on. -/
class Host (m : Type → Type) where
  working : m Place
  content? (place : Place) : m (Option ByteArray)
  /-- The variables that are set. Those that neither the settings nor the given file of
  variables could refer to may be left out. -/
  environment (file : Option ByteArray) : m Environment
  load (path : PathName) : m ByteArray
  makeFolder (path : PathName) : m Unit
  /-- Opens a file for writing, which leaves it empty, and gives the way to fill it. -/
  create (path : PathName) : m (String → m Unit)
  print (text : String) : m Unit

/-- What is to be written to an output once it is open. -/
abbrev Rendering := Write Failure Unit

def Rendering.ofWriter (writer : Writer) : Rendering :=
  EStateM.adaptExcept .notWritten writer

end Command

def Grammar.render (grammar : Grammar) : Format → Command.Rendering
  | .text => .ofWriter grammar.writeListing
  | .source => .ofWriter grammar.writeSource
  | .json => .ofWriter grammar.writeJson
  | .dot => throw .drawingOfGrammar

def Automaton.render (automaton : Automaton) : Format → Command.Rendering
  | .text => .ofWriter automaton.writeListing
  | .source => .ofWriter automaton.writeSource
  | .json => .ofWriter automaton.writeJson
  | .dot => .ofWriter automaton.writeGraph

namespace Command

section Programs

variable {m : Type → Type} [Monad m] [MonadExceptOf Failure m] [Host m]

/-- The file of variables: the one named `.env` in the working folder or in the nearest
folder above it that has one. -/
def environmentFile : m (Option ByteArray) := do
  let working ← Host.working
  (List.range (working.length + 1)).reverse.findSomeM? fun depth =>
    Host.content? (working.take depth ++ [".env"])

/-- The variables that are set, then those of the file. -/
def allVariables : m Environment := do
  let file ← environmentFile
  let environment ← Host.environment file
  match file with
  | none => return environment
  | some content => return environment.withFile content

def readText (path : PathName) : m String := do
  let content ← Host.load path
  match String.fromUTF8? content with
  | none => throw (.notRead path .notText)
  | some text => return text

def readGrammar (path : PathName) : m Grammar := do
  let text ← readText path
  MonadExcept.ofExcept ((Grammar.read text).mapError (.notGrammar path))

def readAutomaton (path : PathName) : m Automaton := do
  let text ← readText path
  MonadExcept.ofExcept ((Automaton.read text).mapError (.notAutomaton path))

/-- Opens a file for writing, in a folder that is made if it is missing. -/
def openFile (path : PathName) : m (String → m Unit) := do
  match path.parent? with
  | none => pure ()
  | some parent => Host.makeFolder parent
  Host.create path

/-- Opens the output file, or turns to the printer if there is none. -/
def openOutput : Option PathName → m (String → m Unit)
  | some path => openFile path
  | none => pure Host.print

/-- Opens the output and renders to it. What a rendering that stops has written still gets
there. -/
def emit (output : Option PathName) (rendering : Rendering) : m Unit := do
  let deliver ← openOutput output
  match rendering .unlimited with
  | .ok () filled => deliver filled.held
  | .error failure filled =>
      deliver filled.held
      throw failure

/-- The report on a grammar. -/
def verdict (violation? : Option Violation) : String :=
  match violation? with
  | none => "The grammar is regular"
  | some violation => "The grammar is not regular: " ++ violation.message

def Request.perform (settings : Settings) : Request → m Unit
  | .verify path => do
      let grammar ← readGrammar path
      Host.print (verdict (grammar.violation? settings.rule) ++ "\n")
  | .toAutomaton path output format => do
      let grammar ← readGrammar path
      let automaton ← MonadExcept.ofExcept
        ((settings.automatonOf grammar).mapError (.notConverted path))
      let format ← MonadExcept.ofExcept ((Format.choose format output).mapError .format)
      emit output (automaton.render format)
  | .toGrammar path output format => do
      let automaton ← readAutomaton path
      let format ← MonadExcept.ofExcept ((Format.choose format output).mapError .format)
      -- Refused before the output file is opened.
      if format = .dot then throw .drawingOfGrammar
      emit output (automaton.toGrammar.render format)
  | .listGrammar path only => do
      let grammar ← readGrammar path
      emit none (match only with
        | some symbol => .ofWriter (grammar.writeListingOf symbol)
        | none => .ofWriter grammar.writeListing)
  | .listAutomaton path => do
      let automaton ← readAutomaton path
      emit none (.ofWriter automaton.writeListing)
  | .accept path word => do
      let automaton ← readAutomaton path
      Host.print ((if automaton.accepts (Word.ofText word) then "accepted" else "rejected") ++ "\n")

def Invocation.perform (invocation : Invocation) : m Unit := do
  let known ← allVariables
  let settings ← MonadExcept.ofExcept
    ((Settings.resolve (known.lookup ·) invocation.rule invocation.sink).mapError .settings)
  invocation.request.perform settings

end Programs

end Command
end RightLinear
