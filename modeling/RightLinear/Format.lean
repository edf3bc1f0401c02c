import RightLinear.PathName
import RightLinear.Document
import RightLinear.Text.Lowercase

/-! # Output formats

A format is asked for by its name or by the extension of the file to be
written. Upper and lower case are the same in both.
-/

namespace RightLinear

/-- The forms in which grammars and automata are written. -/
inductive Format
  | text
  | source
  | json
  | dot
  deriving DecidableEq

namespace Format

def extension : Format → String
  | .text => "txt"
  | .source => "src"
  | .json => "json"
  | .dot => "dot"

/-- Why no format is known. -/
inductive Fault
  | unsupported (name : String)
  | unknownExtension (path : PathName)
  deriving DecidableEq

def Fault.report : Fault → Report
  | .unsupported name => ⟨.other, [s!"Unsupported output format: {name}"]⟩
  | .unknownExtension path =>
      ⟨.other, [s!"Unknown or missing file extension for path: {path}"]⟩

def ofName (name : String) : Except Fault Format :=
  match Text.lowercase name with
  | "text" => .ok .text
  | "source" => .ok .source
  | "json" => .ok .json
  | "dot" => .ok .dot
  | _ => .error (.unsupported name)

def ofPath (path : PathName) : Except Fault Format :=
  match path.extension?.map Text.lowercase with
  | some "txt" => .ok .text
  | some "text" => .ok .text
  | some "src" => .ok .source
  | some "json" => .ok .json
  | some "dot" => .ok .dot
  | some "gv" => .ok .dot
  | _ => .error (.unknownExtension path)

/-- The format that was asked for, or else that of the output path if it has an
extension, or else text. -/
def choose (asked : Option Format) (output : Option PathName) : Except Fault Format :=
  match asked, output with
  | some format, _ => .ok format
  | none, some path => if path.extension?.isSome then ofPath path else .ok .text
  | none, none => .ok .text

end Format
end RightLinear
