import RightLinear.Text.Lines

/-! # Path names

A path is a text whose names are divided by slashes. Doubled and final slashes
do not count, and neither does a dot, unless a relative path begins with it.
-/

namespace RightLinear

/-- The text of a path. -/
structure PathName where
  text : String
  deriving DecidableEq, Inhabited

namespace PathName

instance : ToString PathName := ⟨text⟩

/-- Everything between slashes, empty pieces and dots included. -/
def segments (path : PathName) : List String :=
  (Text.pieces (· == '/') path.text.toList).map String.ofList

/-- A segment that does not lead anywhere else. -/
def isIdle (segment : String) : Bool := segment == "" || segment == "."

/-- The names that count. -/
def names (path : PathName) : List String :=
  match path.segments with
  | [] => []
  | first :: rest =>
      (if first = "" then [] else [first]) ++ rest.filter fun segment => ! isIdle segment

def isAbsolute (path : PathName) : Bool := path.text.toList.head? == some '/'

/-- The last name, if it names something other than a place relative to it. -/
def fileName? (path : PathName) : Option String :=
  match path.names.getLast? with
  | none => none
  | some name => if name = "." ∨ name = ".." then none else some name

/-- What follows the last dot of a name; a dot in the first place does not count. -/
def extensionOf? (name : String) : Option String :=
  let reversed := name.toList.reverse
  match reversed.dropWhile (· != '.') with
  | _ :: _ :: _ => some (String.ofList (reversed.takeWhile (· != '.')).reverse)
  | _ => none

/-- What follows the last dot of the last name. -/
def extension? (path : PathName) : Option String := path.fileName?.bind extensionOf?

/-- The path without its last name. There is none if nothing is left of it. -/
def parent? (path : PathName) : Option PathName :=
  match path.segments with
  | [] => none
  | first :: rest =>
      match rest.reverse.dropWhile isIdle with
      | [] => none
      | _ :: before =>
          match first, (before.dropWhile isIdle).reverse with
          | "", [] => some ⟨"/"⟩
          | first, kept => some ⟨String.intercalate "/" (first :: kept)⟩

end PathName
end RightLinear
