import RightLinear.Text.Quoted

/-! # JSON values

Only texts, lists and objects are needed here. A text is written between double quotes.
Quotes, backslashes and the characters below the space are escaped, everything else stands
for itself; reading accepts all escapes of the JSON standard, also those that writing does
not use. A value is written over several lines, each level indented by two spaces more than
the one around it; an empty list or object stays on its line.
-/

namespace RightLinear

/-- A JSON value. The fields of an object stand in the order given. -/
inductive Json
  | text (content : String)
  | list (items : List Json)
  | object (fields : List (String × Json))

namespace Json

/-- How a character is written inside quotes. -/
def escaped (char : Char) : List Char :=
  match char with
  | '"' => ['\\', '"']
  | '\\' => ['\\', '\\']
  | '\x08' => ['\\', 'b']
  | '\x0c' => ['\\', 'f']
  | '\n' => ['\\', 'n']
  | '\r' => ['\\', 'r']
  | '\t' => ['\\', 't']
  | _ =>
      if char.toNat < 0x20 then
        ['\\', 'u', '0', '0'] ++ (if char.toNat < 0x10 then ['0'] else []) ++
          Text.hexadecimal char.toNat
      else [char]

/-- A text in quotes. -/
def quote (text : String) : String :=
  String.ofList ('"' :: text.toList.flatMap escaped ++ ['"'])

def hexDigit? (char : Char) : Option Nat :=
  if '0' ≤ char ∧ char ≤ '9' then some (char.toNat - '0'.toNat)
  else if 'a' ≤ char ∧ char ≤ 'f' then some (char.toNat - 'a'.toNat + 10)
  else if 'A' ≤ char ∧ char ≤ 'F' then some (char.toNat - 'A'.toNat + 10)
  else none

/-- The number of four digits to base sixteen. -/
def codeUnit? (first second third fourth : Char) : Option Nat := do
  return (((← hexDigit? first) * 16 + (← hexDigit? second)) * 16 +
    (← hexDigit? third)) * 16 + (← hexDigit? fourth)

/-- The character of a letter after a backslash. -/
def escapeLetter? : Char → Option Char
  | '"' => some '"'
  | '\\' => some '\\'
  | '/' => some '/'
  | 'b' => some '\x08'
  | 'f' => some '\x0c'
  | 'n' => some '\n'
  | 'r' => some '\r'
  | 't' => some '\t'
  | _ => none

/-- The first half of a pair of code units. -/
def isLeading (unit : Nat) : Bool := 0xd800 ≤ unit && unit ≤ 0xdbff

/-- The second half of a pair of code units. -/
def isTrailing (unit : Nat) : Bool := 0xdc00 ≤ unit && unit ≤ 0xdfff

/-- The character of two halves of a pair. -/
def pairChar (leading trailing : Nat) : Char :=
  Char.ofNat (0x10000 + (leading - 0xd800) * 0x400 + (trailing - 0xdc00))

/-- Reads up to the closing quote and returns the text and what follows. Half a
pair on its own stands for no character. -/
def readChars : List Char → Option (List Char × List Char)
  | '"' :: rest => some ([], rest)
  | '\\' :: 'u' :: a :: b :: c :: d :: rest => do
      let unit ← codeUnit? a b c d
      if isTrailing unit then none
      else if isLeading unit then
        match rest with
        | '\\' :: 'u' :: e :: f :: g :: h :: rest => do
            let second ← codeUnit? e f g h
            if isTrailing second then
              let (chars, after) ← readChars rest
              return (pairChar unit second :: chars, after)
            else none
        | _ => none
      else
        let (chars, after) ← readChars rest
        return (Char.ofNat unit :: chars, after)
  | '\\' :: letter :: rest => do
      let char ← escapeLetter? letter
      let (chars, after) ← readChars rest
      return (char :: chars, after)
  | char :: rest =>
      if char.toNat < 0x20 then none
      else do
        let (chars, after) ← readChars rest
        return (char :: chars, after)
  | [] => none

/-- The fields of an object in the order of their names. -/
def ofFields (fields : List (String × Json)) : Json :=
  .object (fields.mergeSort fun first second => (compare first.1 second.1).isLE)

def ofTexts (texts : List String) : Json := .list (texts.map .text)

/-- A line feed and the indentation of a level. -/
def newline (level : Nat) : String := "\n" ++ String.ofList (List.replicate (2 * level) ' ')

mutual

/-- Writes a value that stands on the given level. -/
def pretty (level : Nat) : Json → String
  | .text content => quote content
  | .list [] => "[]"
  | .list (item :: items) =>
      "[" ++ newline (level + 1) ++ pretty (level + 1) item ++
        prettyItems (level + 1) items ++ newline level ++ "]"
  | .object [] => "\x7b\x7d"
  | .object ((name, value) :: fields) =>
      "\x7b" ++ newline (level + 1) ++ quote name ++ ": " ++ pretty (level + 1) value ++
        prettyFields (level + 1) fields ++ newline level ++ "\x7d"

def prettyItems (level : Nat) : List Json → String
  | [] => ""
  | item :: items =>
      "," ++ newline level ++ pretty level item ++ prettyItems level items

def prettyFields (level : Nat) : List (String × Json) → String
  | [] => ""
  | (name, value) :: fields =>
      "," ++ newline level ++ quote name ++ ": " ++ pretty level value ++
        prettyFields level fields

end

end Json
end RightLinear
