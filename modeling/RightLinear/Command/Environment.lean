import RightLinear.Text.AlphanumericTable
import RightLinear.Text.Lines

/-! # Variables and files of variables

Files of variables are understood as the dotenv package documents them. The file is
called `.env` and is looked for in the working folder and then in the folders above it,
nearest first. Each line has an assignment, `NAME=value`, with the word `export` in front
if wanted, or is blank, or is a note that begins with `#`. A value is plain, in single
quotes, which keep everything as it is, or in double quotes; outside of single quotes a
backslash keeps the character behind it from its special meaning, and `$NAME` and
`${NAME}` stand for the values of variables, those of the lines above included. The lines
are read in order up to the first malformed one. A variable that has a value keeps it.
-/

namespace RightLinear
namespace Command

/-- Variables and their values; the first entry of a name counts. -/
abbrev Environment := List (String × String)

namespace Environment

/-- Where the reader of a value stands. Text in double quotes is told from plain
text by the flag. -/
inductive Position
  | plain (inQuotes : Bool)
  /-- After a backslash. -/
  | escape (inQuotes : Bool)
  /-- Between single quotes. -/
  | literal
  /-- After a dollar sign and part of a name. -/
  | name (inQuotes : Bool) (chars : List Char)
  /-- After a dollar sign and an opening brace and part of a name. -/
  | bracedName (inQuotes : Bool) (chars : List Char)
  /-- After the value, where only blanks and a note may follow. -/
  | after
  deriving DecidableEq

def isAlphanumeric (char : Char) : Bool := Text.inRanges Text.alphanumericRanges char

/-- The value of a variable whose name is given in reverse; an unknown one is
empty. -/
def valueOf (environment : Environment) (reversed : List Char) : List Char :=
  ((environment.lookup (String.ofList reversed.reverse)).getD "").toList

/-- The character that a backslash and another character stand for. -/
def escaped? (char : Char) : Option Char :=
  if char ∈ ['\\', '\'', '"', '$', ' '] then some char
  else if char = 'n' then some '\n'
  else none

/-- Reads the rest of a value, or `none` if it is malformed. -/
def readValue (environment : Environment) : Position → List Char → Option (List Char)
  | .plain inQuotes, [] => if inQuotes then none else some []
  | .escape inQuotes, [] => if inQuotes then none else some []
  | .literal, [] => none
  | .name inQuotes name, [] => if inQuotes then none else some (environment.valueOf name)
  | .bracedName _ _, [] => none
  | .after, [] => some []
  | .after, char :: rest =>
      if char = ' ' ∨ char = '\t' then readValue environment .after rest
      else if char = '#' then some []
      else none
  | .escape inQuotes, char :: rest => do
      let meant ← escaped? char
      let value ← readValue environment (.plain inQuotes) rest
      return meant :: value
  | .literal, char :: rest =>
      if char = '\'' then readValue environment (.plain false) rest
      else (readValue environment .literal rest).map (char :: ·)
  | .name inQuotes name, char :: rest =>
      if isAlphanumeric char then readValue environment (.name inQuotes (char :: name)) rest
      else if char = '{' ∧ name = [] then readValue environment (.bracedName inQuotes []) rest
      else if char = '$' then
        (readValue environment (.name inQuotes []) rest).map (environment.valueOf name ++ ·)
      else
        (readValue environment (.plain inQuotes) rest).map
          (environment.valueOf name ++ char :: ·)
  | .bracedName inQuotes name, char :: rest =>
      if char = '}' then
        (readValue environment (.plain inQuotes) rest).map (environment.valueOf name ++ ·)
      else readValue environment (.bracedName inQuotes (char :: name)) rest
  | .plain inQuotes, char :: rest =>
      if char = '$' then readValue environment (.name inQuotes []) rest
      else if char = '\\' then readValue environment (.escape inQuotes) rest
      else if char = '"' then readValue environment (.plain (! inQuotes)) rest
      else if inQuotes then (readValue environment (.plain true) rest).map (char :: ·)
      else if char = '\'' then readValue environment .literal rest
      else if char = ' ' ∨ char = '\t' then readValue environment .after rest
      else (readValue environment (.plain false) rest).map (char :: ·)

def isNameStart (char : Char) : Bool := char.isAlpha || char == '_'

def isNameChar (char : Char) : Bool := char.isAlphanum || char == '_' || char == '.'

/-- The name that a line begins with and what follows it and the blanks after
it. -/
def readName (chars : List Char) : Option (List Char × List Char) :=
  match chars with
  | [] => none
  | first :: _ =>
      if isNameStart first then
        some (chars.takeWhile isNameChar,
          (chars.dropWhile isNameChar).dropWhile Text.isBlank)
      else none

/-- The name of an assignment and what follows the equals sign. -/
def readTarget (chars : List Char) : Option (List Char × List Char) := do
  let (name, rest) ← readName chars
  match rest with
  | '=' :: value => return (name, value)
  | _ =>
      if name = "export".toList then
        match ← readName rest with
        | (exported, '=' :: value) => return (exported, value)
        | _ => none
      else none

/-- What a line says. -/
inductive Line
  | nothing
  | assignment (name value : String)
  | malformed
  deriving DecidableEq

/-- The value after an equals sign; a note in its place leaves it empty. -/
def readAssigned (environment : Environment) (chars : List Char) : Option (List Char) :=
  match chars.dropWhile Text.isBlank with
  | [] => some []
  | '#' :: _ => some []
  | value => readValue environment (.plain false) value

/-- Reads one line. References are to the variables known so far. -/
def readLine (environment : Environment) (chars : List Char) : Line :=
  match Text.trim chars with
  | [] => .nothing
  | '#' :: _ => .nothing
  | trimmed =>
      match readTarget trimmed with
      | none => .malformed
      | some (name, rest) =>
          match readAssigned environment rest with
          | none => .malformed
          | some value => .assignment (String.ofList name) (String.ofList value)

def provide (environment : Environment) (name value : String) : Environment :=
  match environment.lookup name with
  | some _ => environment
  | none => environment ++ [(name, value)]

/-- Adds the assignments of some lines up to the first malformed one. A line that
is no text is malformed. -/
def withLines (environment : Environment) : List ByteArray → Environment
  | [] => environment
  | line :: later =>
      match String.fromUTF8? line with
      | none => environment
      | some text =>
          match readLine environment text.toList with
          | .nothing => withLines environment later
          | .assignment name value => withLines (environment.provide name value) later
          | .malformed => environment

def withFile (environment : Environment) (content : ByteArray) : Environment :=
  environment.withLines
    ((Text.pieces (· == 10) content.toList).map fun line => ⟨line.toArray⟩)

end Environment
end Command
end RightLinear
