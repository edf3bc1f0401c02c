import RightLinear.Main
import RightLinear.Proofs.Automaton.Run
import RightLinear.Proofs.Grammar.Rewriting
import RightLinear.Proofs.Grammar.Violation
import RightLinear.Proofs.Conversion.Transitions
import RightLinear.Proofs.Conversion.Separation
import RightLinear.Proofs.Obtainable
import RightLinear.Proofs.Order
import RightLinear.Proofs.Layout.Acceptance
import RightLinear.Proofs.Layout.RoundTrip
import RightLinear.Proofs.Command.Pipeline
import RightLinear.Proofs.Command.Files
import RightLinear.Proofs.Conversion.FreshName
import RightLinear.Proofs.Conversion.SinkName
import RightLinear.Proofs.Grammar.GeneratedLetters
import RightLinear.Proofs.Declarations
import RightLinear.Proofs.Layout.AutomatonAcceptance
import RightLinear.Proofs.Graph.Quoting
import RightLinear.Proofs.Json.Unambiguous
import RightLinear.Proofs.Merging
import RightLinear.Proofs.Listing
import RightLinear.Proofs.Writing
