import RightLinear.Conversion
import RightLinear.Document
import RightLinear.Text.Lowercase
import RightLinear.Text.Quoted

/-! # Settings

Two things can be set: the rule for the empty word, and the name wanted for the
sink. Values given by hand win over variables, and variables over defaults; a
variable that is not needed is not looked at. The name must be a single token
that does not mean the empty word.
-/

namespace RightLinear
namespace EpsilonRule

/-- The rule of a name, in upper or lower case. -/
def ofName? (name : String) : Option EpsilonRule :=
  match Text.lowercase name with
  | "sequential" => some .sequential
  | "strict" => some .strict
  | _ => none

/-- The report that a name is not the name of a rule. -/
def unknownMessage (name : String) : String :=
  s!"unknown epsilon check '{Text.lowercase name}' (expected 'sequential' or 'strict')"

end EpsilonRule

/-- The rule for the empty word and the name wanted for the sink. -/
structure Settings where
  rule : EpsilonRule
  sink : Symbol
  deriving DecidableEq

namespace Settings

def ruleVariable : String := "REGFA_EPSILON_CHECK"

def sinkVariable : String := "REGFA_SINK"

inductive Fault
  | unknownRule (value : String)
  | sinkNotToken (sink : Symbol)
  | sinkIsMarker
  deriving DecidableEq

def Fault.report : Fault → Report
  | .unknownRule value =>
      ⟨.other, [s!"Invalid value for {ruleVariable}", EpsilonRule.unknownMessage value]⟩
  | .sinkNotToken sink =>
      ⟨.other, ["Sink state name must be a non-empty token without whitespace: " ++
        Text.quoted sink.text]⟩
  | .sinkIsMarker =>
      ⟨.other, [s!"Sink state name cannot be the epsilon marker '{epsilonMarker}'"]⟩

/-- The first fault in the name wanted for the sink. -/
def sinkFault? (sink : Symbol) : Option Fault :=
  if sink.text.toList = [] ∨ sink.text.toList.any Text.isBlank then
    some (.sinkNotToken sink)
  else if sink.isMarker then some .sinkIsMarker
  else none

def checked (settings : Settings) : Except Fault Settings :=
  match sinkFault? settings.sink with
  | none => .ok settings
  | some fault => .error fault

/-- The rule given by hand, or else that of its variable, or else the default. -/
def chooseRule (lookup : String → Option String) (given : Option EpsilonRule) :
    Except Fault EpsilonRule :=
  match given, lookup ruleVariable with
  | some rule, _ => .ok rule
  | none, none => .ok .sequential
  | none, some value =>
      match EpsilonRule.ofName? value with
      | some rule => .ok rule
      | none => .error (.unknownRule value)

/-- The name given by hand, or else that of its variable, or else the default. -/
def chooseSink (lookup : String → Option String) (given : Option String) : Symbol :=
  match given.or (lookup sinkVariable) with
  | some text => ⟨text⟩
  | none => Grammar.defaultSink

/-- Settings from values given by hand and from variables. -/
def resolve (lookup : String → Option String) (rule : Option EpsilonRule)
    (sink : Option String) : Except Fault Settings := do
  let rule ← chooseRule lookup rule
  checked ⟨rule, chooseSink lookup sink⟩

/-- The automaton of a grammar under these settings. -/
def automatonOf (settings : Settings) (grammar : Grammar) : Except Violation Automaton :=
  grammar.toAutomaton settings.rule settings.sink

end Settings
end RightLinear
