import RightLinear.Format
import RightLinear.Grammar.Regular
import RightLinear.PathName
import RightLinear.Settings

/-! # Command lines

A command line has two levels. The first takes general options and ends at the
name of a command; the second takes the options and words of that command, and
the general options as well. An option stands as `--name value`, `--name=value`,
or with its letter as `-n value`, `-nvalue` or `-n=value`. Two dashes alone end
the options of a level: what follows are words.
-/

namespace RightLinear
namespace Command

inductive Request
  | verify (grammar : PathName)
  | toAutomaton (grammar : PathName) (output : Option PathName) (format : Option Format)
  | toGrammar (automaton : PathName) (output : Option PathName) (format : Option Format)
  | listGrammar (grammar : PathName) (only : Option Symbol)
  | listAutomaton (automaton : PathName)
  | accept (automaton : PathName) (word : String)
  deriving DecidableEq

/-- A request together with the settings that are given by hand. -/
structure Invocation where
  rule : Option EpsilonRule
  sink : Option String
  request : Request
  deriving DecidableEq

/-- Why a command line is answered with a note on usage. -/
inductive Usage
  | help
  | version
  | nothingAsked
  | commandMissing
  | commandUnknown
  | argumentMissing
  | argumentUnknown
  | valueMissing
  | valueUnwanted
  | valueRefused
  | conflict
  deriving DecidableEq

namespace Usage

/-- Asking for help or for the version is no fault. -/
def exitCode : Usage → Nat
  | .help => 0
  | .version => 0
  | _ => 2

end Usage

inductive Verb
  | verify
  | toAutomaton
  | toGrammar
  | list
  | accept
  deriving DecidableEq

namespace Verb

def ofName? : String → Option Verb
  | "verify" => some .verify
  | "to-fa" => some .toAutomaton
  | "to-grammar" => some .toGrammar
  | "show" => some .list
  | "accept" => some .accept
  | _ => none

/-- The name of a command, that for help included. -/
def isName (name : String) : Bool := (ofName? name).isSome || name == "help"

end Verb

inductive Key
  | rule
  | sink
  | grammar
  | automaton
  | output
  | format
  | productionsOf
  deriving DecidableEq

namespace Key

def long : Key → String
  | .rule => "epsilon-check"
  | .sink => "sink"
  | .grammar => "grammar"
  | .automaton => "automaton"
  | .output => "output"
  | .format => "format"
  | .productionsOf => "productions-of"

def short? : Key → Option Char
  | .grammar => some 'g'
  | .automaton => some 'a'
  | .output => some 'o'
  | .format => some 'f'
  | _ => none

/-- Options that both levels take. -/
def general : List Key := [.rule, .sink]

def ofVerb : Verb → List Key
  | .verify => [.grammar]
  | .toAutomaton => [.grammar, .output, .format]
  | .toGrammar => [.automaton, .output, .format]
  | .list => [.grammar, .automaton, .productionsOf]
  | .accept => [.automaton]

end Key

/-- The values of the options on one level. -/
structure Options where
  rule : Option EpsilonRule := none
  sink : Option String := none
  grammar : Option PathName := none
  automaton : Option PathName := none
  output : Option PathName := none
  format : Option Format := none
  productionsOf : Option String := none
  deriving DecidableEq

namespace Options

/-- A value for an option that has none yet. -/
def fill {α : Type} (old : Option α) (new : Except Usage α) : Except Usage (Option α) :=
  match old with
  | some _ => .error .conflict
  | none => new.map some

/-- The path of a value, which must not be empty. -/
def pathOf (value : String) : Except Usage PathName :=
  if value = "" then .error .valueMissing else .ok ⟨value⟩

def ruleOf (value : String) : Except Usage EpsilonRule :=
  match EpsilonRule.ofName? value with
  | some rule => .ok rule
  | none => .error .valueRefused

def formatOf (value : String) : Except Usage Format :=
  (Format.ofName value).mapError fun _ => .valueRefused

def set (options : Options) (key : Key) (value : String) : Except Usage Options :=
  match key with
  | .rule => return { options with rule := ← fill options.rule (ruleOf value) }
  | .sink => return { options with sink := ← fill options.sink (.ok value) }
  | .grammar => return { options with grammar := ← fill options.grammar (pathOf value) }
  | .automaton =>
      return { options with automaton := ← fill options.automaton (pathOf value) }
  | .output => return { options with output := ← fill options.output (pathOf value) }
  | .format => return { options with format := ← fill options.format (formatOf value) }
  | .productionsOf =>
      return { options with productionsOf := ← fill options.productionsOf (.ok value) }

end Options

/-- What one level of a command line takes. -/
structure Level where
  keys : List Key
  /-- How many words it takes. -/
  words : Nat
  /-- Whether it ends at the name of a command. -/
  isFirst : Bool

namespace Level

def first : Level := ⟨Key.general, 0, true⟩

def ofVerb (verb : Verb) : Level :=
  ⟨Key.ofVerb verb ++ Key.general, if verb = .accept then 1 else 0, false⟩

end Level

/-- How far a level has been read. -/
structure Progress where
  options : Options := {}
  /-- The last option, if it is not settled, with its value if that is there. -/
  pending : Option (Key × Option String) := none
  words : List String := []
  /-- Whether the options have ended. -/
  wordsOnly : Bool := false

namespace Progress

/-- Settles the last option. -/
def settle (progress : Progress) : Except Usage Progress :=
  match progress.pending with
  | none => .ok progress
  | some (_, none) => .error .valueMissing
  | some (key, some value) => do
      let options ← progress.options.set key value
      return { progress with options, pending := none }

def expect (progress : Progress) (key : Key) : Except Usage Progress := do
  let settled ← progress.settle
  return { settled with pending := some (key, none) }

def take (progress : Progress) (key : Key) (value : String) : Except Usage Progress := do
  let settled ← progress.settle
  let options ← settled.options.set key value
  return { settled with options }

/-- Takes a flag that ends the reading. -/
def stop {α : Type} (progress : Progress) (usage : Usage) : Except Usage α := do
  let _ ← progress.settle
  throw usage

/-- Reads an option in its long form, without the two dashes. -/
def readLong (level : Level) (progress : Progress) (chars : List Char) :
    Except Usage Progress :=
  let name := String.ofList (chars.takeWhile (· != '='))
  let value? := match chars.dropWhile (· != '=') with
    | [] => none
    | _ :: value => some (String.ofList value)
  if name = "help" ∨ name = "version" ∧ level.isFirst then
    match value? with
    | some _ => .error .valueUnwanted
    | none => progress.stop (if name = "help" then .help else .version)
  else
    match level.keys.find? (·.long == name), value? with
    | none, _ => .error .argumentUnknown
    | some key, none => progress.expect key
    | some key, some value => progress.take key value

/-- Reads an option in its short form, given its letter and what follows. -/
def readShort (level : Level) (progress : Progress) (letter : Char) (rest : List Char) :
    Except Usage Progress :=
  if letter = 'h' then progress.stop .help
  else if letter = 'V' ∧ level.isFirst then progress.stop .version
  else
    match level.keys.find? (·.short? == some letter), rest with
    | none, _ => .error .argumentUnknown
    | some key, [] => progress.expect key
    | some key, '=' :: value => progress.take key (String.ofList value)
    | some key, value => progress.take key (String.ofList value)

/-- Reads a word. On the first level every word should have been a command; after
two dashes the name of one is only out of place. -/
def readWord (level : Level) (progress : Progress) (word : String) :
    Except Usage Progress :=
  if progress.words.length < level.words then do
    let settled ← progress.settle
    return { settled with words := settled.words ++ [word] }
  else if level.isFirst ∧ ¬ (progress.wordsOnly ∧ Verb.isName word) then
    .error .commandUnknown
  else .error .argumentUnknown

/-- Reads an argument that is not the name of a command. -/
def read (level : Level) (progress : Progress) (argument : String) :
    Except Usage Progress :=
  if progress.wordsOnly then progress.readWord level argument
  else
    match argument.toList with
    | ['-', '-'] => .ok { progress with wordsOnly := true }
    | '-' :: '-' :: chars => progress.readLong level chars
    | '-' :: letter :: rest => progress.readShort level letter rest
    | _ =>
        match progress.pending with
        | some (key, none) => .ok { progress with pending := some (key, some argument) }
        | _ => progress.readWord level argument

/-- Tells whether the next argument may be the name of a command. -/
def awaitsCommand (progress : Progress) : Bool :=
  ! progress.wordsOnly &&
    match progress.pending with
    | some (_, none) => false
    | _ => true

end Progress

/-- Help is given on any command that exists. -/
def helpOn : List String → Usage
  | [] => .help
  | [name] => if Verb.isName name then .help else .commandUnknown
  | _ => .commandUnknown

/-- Reads the first level up to the name of a command. -/
def readFirst (progress : Progress) :
    List String → Except Usage (Progress × Option (Verb × List String))
  | [] => .ok (progress, none)
  | argument :: rest =>
      if progress.awaitsCommand ∧ argument = "help" then .error (helpOn rest)
      else
        match if progress.awaitsCommand then Verb.ofName? argument else none with
        | some verb => .ok (progress, some (verb, rest))
        | none => do
            let progress ← progress.read .first argument
            readFirst progress rest

def need {α : Type} (value : Option α) : Except Usage α :=
  match value with
  | some value => .ok value
  | none => .error .argumentMissing

def requestOf (verb : Verb) (options : Options) (words : List String) :
    Except Usage Request :=
  match verb with
  | .verify => return .verify (← need options.grammar)
  | .toAutomaton => return .toAutomaton (← need options.grammar) options.output options.format
  | .toGrammar => return .toGrammar (← need options.automaton) options.output options.format
  | .list =>
      match options.grammar, options.automaton with
      | some _, some _ => .error .conflict
      | some grammar, none => .ok (.listGrammar grammar (options.productionsOf.map Symbol.mk))
      | none, some automaton => .ok (.listAutomaton automaton)
      | none, none => .error .argumentMissing
  | .accept => return .accept (← need options.automaton) (← need words.head?)

def readSecond (verb : Verb) (arguments : List String) :
    Except Usage (Options × Request) := do
  let progress ← arguments.foldlM
    (fun (progress : Progress) argument => progress.read (.ofVerb verb) argument) {}
  let settled ← progress.settle
  return (settled.options, ← requestOf verb settled.options settled.words)

/-- Reads a command line. A general option that is given on both levels counts as
given on the second. -/
def Invocation.ofArguments (arguments : List String) : Except Usage Invocation := do
  match ← readFirst {} arguments with
  | (progress, some (verb, rest)) =>
      let (options, request) ← readSecond verb rest
      let settled ← progress.settle
      return ⟨options.rule.or settled.options.rule, options.sink.or settled.options.sink,
        request⟩
  | (progress, none) =>
      let settled ← progress.settle
      if settled.options = {} then throw .nothingAsked else throw .commandMissing

end Command
end RightLinear
