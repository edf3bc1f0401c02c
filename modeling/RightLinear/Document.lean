import RightLinear.Symbol

/-! # Reports, documents and writers

What goes wrong is reported as a chain of sentences, from the outermost task
that could not be done to the cause at the bottom. The kind says what sort of
cause that is.

A document is made of pieces, most of them complete lines, and each piece knows
which part of the document it is. A writer hands over one piece in each of its
calls. A call that the sink has no room for ends the writer with the part that it
could not finish; what has been taken stays with the sink.
-/

namespace RightLinear

/-- The sort of the cause of a failure. -/
inductive Report.Kind
  /-- A grammar or an automaton does not fit together. -/
  | malformed
  /-- A grammar is not regular. -/
  | irregular
  /-- The system could not read or write. -/
  | system
  | other
  deriving DecidableEq

/-- The sentences of a failure, from the outermost to the cause. -/
structure Report where
  kind : Report.Kind
  chain : List String
  deriving DecidableEq

namespace Report

/-- Puts the task that failed in front. -/
def within (context : String) (report : Report) : Report :=
  { report with chain := context :: report.chain }

def message (report : Report) : String := String.intercalate ": " report.chain

end Report

/-- The parts that documents are made of. -/
inductive Part
  | nonTerminals
  | terminals
  | start
  | productionsHeader
  | productionsOf (left : Symbol)
  | states
  | alphabet
  | initial
  | finals
  | transitionsHeader
  | targets (source letter : Symbol)
  | transition (source letter target : Symbol)
  | graphHeader
  | graphDirection
  | graphStartMarker
  | graphNode (state : Symbol)
  | graphStartEdge
  | graphEdge (source target : Symbol)
  | graphFooter
  | json
  | newline
  deriving DecidableEq

namespace Part

def failure : Part → String
  | .nonTerminals => "Failed to write non-terminals"
  | .terminals => "Failed to write terminals"
  | .start => "Failed to write starting symbol"
  | .productionsHeader => "Failed to write productions header"
  | .productionsOf left => s!"Failed to write productions of {left}"
  | .states => "Failed to write states"
  | .alphabet => "Failed to write alphabet"
  | .initial => "Failed to write initial state"
  | .finals => "Failed to write final states"
  | .transitionsHeader => "Failed to write transitions header"
  | .targets source letter => s!"Failed to write transition delta({source}, {letter})"
  | .transition source letter target =>
      s!"Failed to write transition {source} {letter} {target}"
  | .graphHeader => "Failed to write DOT header"
  | .graphDirection => "Failed to write DOT rankdir"
  | .graphStartMarker => "Failed to write DOT start marker"
  | .graphNode state => s!"Failed to write DOT node for state {state}"
  | .graphStartEdge => "Failed to write DOT start edge"
  | .graphEdge source target => s!"Failed to write DOT edge {source} -> {target}"
  | .graphFooter => "Failed to write DOT footer"
  | .json => "Failed to serialize to JSON"
  | .newline => "Failed to write newline"

/-- The report that the room ended within a part. A JSON value is not handed to
the system line by line, so there the system is not to blame. -/
def report (part : Part) : Report :=
  ⟨if part = .json then .other else .system, [part.failure, "limit reached"]⟩

end Part

/-- Some text and the part of the document that it is. -/
structure Piece where
  part : Part
  text : String
  deriving DecidableEq

def Piece.line (part : Part) (text : String) : Piece := ⟨part, text ++ "\n"⟩

abbrev Document := List Piece

namespace Document

def text (document : Document) : String := String.join (document.map Piece.text)

@[simp] theorem text_nil : text [] = "" := rfl

theorem text_cons (piece : Piece) (document : Document) :
    text (piece :: document) = piece.text ++ text document := by
  apply String.toList_inj.1
  simp [text, String.toList_join]

end Document

/-- A place to write to, with what it has taken. The text of a call comes to it in
fragments; it takes each of them whole or refuses it, and some sinks take a limited
number of bytes only. -/
structure Sink where
  limit : Option Nat
  fragments : Part → String → List String
  join_fragments : ∀ part text, String.join (fragments part text) = text
  held : String

namespace Sink

/-- Takes everything, each text in one fragment. -/
def unlimited : Sink where
  limit := none
  fragments _ text := [text]
  join_fragments _ text := by simp [String.join]
  held := ""

/-- What is held after some more text. -/
def holding (sink : Sink) (text : String) : Sink := { sink with held := sink.held ++ text }

/-- There is room for some more text. -/
def Fits (sink : Sink) (text : String) : Prop :=
  ∀ limit ∈ sink.limit, sink.held.utf8ByteSize + text.utf8ByteSize ≤ limit

instance (sink : Sink) (text : String) : Decidable (sink.Fits text) :=
  inferInstanceAs (Decidable (∀ limit ∈ sink.limit, _))

/-- Hands over fragments up to the first that is refused, and tells whether all were
taken. -/
def pour (sink : Sink) : List String → Sink × Bool
  | [] => (sink, true)
  | fragment :: later =>
      if sink.Fits fragment then (sink.holding fragment).pour later else (sink, false)

end Sink

/-- A program that writes to a sink, and that can stop before its end. -/
abbrev Write (ε α : Type) := EStateM ε Sink α

/-- A writer that stops names the part that it could not finish. -/
abbrev Writer := Write Part Unit

namespace Writer

/-- One call. -/
def put (part : Part) (text : String) : Writer := fun sink =>
  match sink.pour (sink.fragments part text) with
  | (filled, true) => .ok () filled
  | (filled, false) => .error part filled

def putLine (part : Part) (text : String) : Writer := put part (text ++ "\n")

end Writer
end RightLinear
