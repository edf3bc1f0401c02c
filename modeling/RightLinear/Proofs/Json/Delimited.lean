import RightLinear.Json.Description

/-! # JSON values tell where they end

A text in quotes ends at the first quote that is not escaped, and escapes are read back as the
characters for which they stand. So no text can be taken for the beginning of another one, and
by the same argument no value can: the first character tells its kind, and behind each part a
comma or a new line tells whether there is another one.
-/

namespace RightLinear
namespace Json

section Texts

variable {char : Char} {rest : List Char}

theorem bind_eq_map_lead (char : Char) (scan : Option (List Char × List Char)) :
    (do let (chars, after) ← scan; return (char :: chars, after)) =
      scan.map fun found => (char :: found.1, found.2) := by
  cases scan with
  | none => rfl
  | some found => rfl

theorem digits_control : ∀ code < 0x20,
    (if code < 0x10 then ['0'] else []) ++ Text.hexadecimal code =
        [if code < 0x10 then '0' else '1', Nat.digitChar (code % 0x10)] ∧
      codeUnit? '0' '0' (if code < 0x10 then '0' else '1') (Nat.digitChar (code % 0x10)) =
        some code := by
  decide

/-- Control characters without a letter of their own are given by four digits. -/
theorem readChars_control (isControl : char.toNat < 0x20) :
    readChars (['\\', 'u', '0', '0'] ++ (if char.toNat < 0x10 then ['0'] else []) ++
        Text.hexadecimal char.toNat ++ rest) =
      (readChars rest).map fun found => (char :: found.1, found.2) := by
  obtain ⟨written, unit⟩ := digits_control char.toNat isControl
  have notTrailing : isTrailing char.toNat = false := by
    simp [isTrailing]
    omega
  have notLeading : isLeading char.toNat = false := by
    simp [isLeading]
    omega
  rw [List.append_assoc ['\\', 'u', '0', '0'], written]
  change readChars ('\\' :: 'u' :: '0' :: '0' :: _ :: _ :: rest) = _
  rw [readChars, unit]
  simp only [bind, Option.bind]
  rw [notTrailing, notLeading, Char.ofNat_toNat]
  exact bind_eq_map_lead char (readChars rest)

theorem readChars_plain (notQuote : char ≠ '"') (notBackslash : char ≠ '\\')
    (notControl : ¬ char.toNat < 0x20) :
    readChars (char :: rest) =
      (readChars rest).map fun found => (char :: found.1, found.2) := by
  rw [readChars, if_neg notControl]
  · exact bind_eq_map_lead char (readChars rest)
  · exact notQuote
  · intro _ _ _ _ _ same
    exact absurd same notBackslash
  · intro _ _ same
    exact absurd same notBackslash

theorem readChars_letter {letter : Char} (notDigits : letter ≠ 'u')
    (meant : escapeLetter? letter = some char) :
    readChars ('\\' :: letter :: rest) =
      (readChars rest).map fun found => (char :: found.1, found.2) := by
  rw [readChars, meant]
  · exact bind_eq_map_lead char (readChars rest)
  · intro _ _ _ _ _ same
    exact absurd same notDigits

theorem readChars_escaped (char : Char) (rest : List Char) :
    readChars (escaped char ++ rest) =
      (readChars rest).map fun found => (char :: found.1, found.2) := by
  unfold escaped
  split
  case h_8 notQuote notBackslash _ _ _ _ _ =>
    by_cases isControl : char.toNat < 0x20
    · rw [if_pos isControl]
      exact readChars_control isControl
    · rw [if_neg isControl]
      exact readChars_plain notQuote notBackslash isControl
  -- Quotes, backslashes and the control characters that have letters.
  all_goals exact readChars_letter (by decide) rfl

/-- The text behind a quote is found again, and with it what follows the next quote. -/
theorem readChars_written (text rest : List Char) :
    readChars (text.flatMap escaped ++ '"' :: rest) = some (text, rest) := by
  induction text with
  | nil => rw [List.flatMap_nil, List.nil_append, readChars]
  | cons char text induction =>
      rw [List.flatMap_cons, List.append_assoc, readChars_escaped, induction]
      rfl

theorem toList_quote (text : String) :
    (quote text).toList = '"' :: (text.toList.flatMap escaped ++ ['"']) := by
  rw [quote, String.toList_ofList, List.cons_append]

end Texts

/-- It cannot be mistaken where a part ends, whatever follows it: nothing else that is
written begins with the same text. -/
def IsDelimited {α : Type} (write : α → List Char) (part : α) : Prop :=
  ∀ other rest after, write part ++ rest = write other ++ after → part = other ∧ rest = after

theorem isDelimited_quote (text : String) :
    IsDelimited (fun text => (quote text).toList) text := by
  intro other rest after same
  simp only [toList_quote, List.cons_append, List.append_assoc, List.nil_append] at same
  have read := congrArg readChars (List.cons.inj same).2
  rw [readChars_written, readChars_written] at read
  obtain ⟨texts, rests⟩ := Prod.mk.inj (Option.some.inj read)
  exact ⟨String.toList_inj.1 texts, rests⟩

section Enclosed

def indentation (level : Nat) : List Char := List.replicate (2 * level) ' '

/-- Parts with a comma and a new line in front of each. -/
def separated (level : Nat) (parts : List (List Char)) : List Char :=
  parts.flatMap fun part => ',' :: '\n' :: (indentation level ++ part)

/-- The parts of a list or object that stands on a level. -/
def enclosed (opening closing : Char) (level : Nat) : List (List Char) → List Char
  | [] => [opening, closing]
  | part :: parts =>
      opening :: '\n' :: (indentation (level + 1) ++ (part ++
        (separated (level + 1) parts ++ '\n' :: (indentation level ++ [closing]))))

variable {α : Type} {write : α → List Char} {level : Nat} {closing : Char}

/-- Behind each part, a comma tells that there is another one, and a new line that there is
none. -/
theorem eq_of_separated_append {first second : List α} {rest after : List Char}
    (delimited : ∀ part ∈ first, IsDelimited write part)
    (same : separated level (first.map write) ++ '\n' :: rest =
      separated level (second.map write) ++ '\n' :: after) :
    first = second ∧ rest = after := by
  induction first generalizing second with
  | nil =>
      cases second with
      | nil => exact ⟨rfl, (List.cons.inj same).2⟩
      | cons other others => simp [separated] at same
  | cons part parts induction =>
      obtain ⟨isDelimited, delimitedLater⟩ := List.forall_mem_cons.1 delimited
      cases second with
      | nil => simp [separated] at same
      | cons other others =>
          simp only [separated, List.map_cons, List.flatMap_cons, List.cons_append,
            List.append_assoc, List.cons.injEq, true_and, List.append_cancel_left_eq] at same
          obtain ⟨rfl, later⟩ := isDelimited other _ _ same
          obtain ⟨rfl, rests⟩ := induction delimitedLater later
          exact ⟨rfl, rests⟩

theorem isDelimited_enclosed {parts : List α} (opening : Char) (level : Nat)
    (notLine : closing ≠ '\n')
    (delimited : ∀ part ∈ parts, IsDelimited write part) :
    IsDelimited (fun parts => enclosed opening closing level (parts.map write)) parts := by
  intro others rest after same
  cases parts with
  | nil =>
      cases others with
      | nil => exact ⟨rfl, (List.cons.inj (List.cons.inj same).2).2⟩
      | cons other others => exact absurd (List.cons.inj (List.cons.inj same).2).1 notLine
  | cons part parts =>
      obtain ⟨isDelimited, delimitedLater⟩ := List.forall_mem_cons.1 delimited
      cases others with
      | nil => exact absurd (List.cons.inj (List.cons.inj same).2).1.symm notLine
      | cons other others =>
          simp only [enclosed, List.map_cons, List.cons_append, List.append_assoc,
            List.cons.injEq, true_and, List.append_cancel_left_eq] at same
          obtain ⟨rfl, behind⟩ := isDelimited other _ _ same
          obtain ⟨rfl, closed⟩ := eq_of_separated_append delimitedLater behind
          exact ⟨rfl, by simpa using closed⟩

end Enclosed

section Values

theorem toList_newline (level : Nat) : (newline level).toList = '\n' :: indentation level := by
  simp [newline, indentation]

/-- A field of an object. -/
def fieldText (level : Nat) (field : String × Json) : List Char :=
  (quote field.1).toList ++ (':' :: ' ' :: (pretty level field.2).toList)

theorem toList_prettyItems (level : Nat) (items : List Json) :
    (prettyItems level items).toList =
      separated level (items.map fun item => (pretty level item).toList) := by
  induction items with
  | nil => rfl
  | cons item items induction =>
      simp [prettyItems, toList_newline, induction, separated]

theorem toList_prettyFields (level : Nat) (fields : List (String × Json)) :
    (prettyFields level fields).toList = separated level (fields.map (fieldText level)) := by
  induction fields with
  | nil => rfl
  | cons field fields induction =>
      simp [prettyFields, toList_newline, induction, separated, fieldText]

theorem toList_pretty_list (level : Nat) (items : List Json) :
    (pretty level (.list items)).toList =
      enclosed '[' ']' level (items.map fun item => (pretty (level + 1) item).toList) := by
  cases items with
  | nil => simp [pretty, enclosed]
  | cons item items => simp [pretty, toList_newline, toList_prettyItems, enclosed]

theorem toList_pretty_object (level : Nat) (fields : List (String × Json)) :
    (pretty level (.object fields)).toList =
      enclosed '\x7b' '\x7d' level (fields.map (fieldText (level + 1))) := by
  cases fields with
  | nil => simp [pretty, enclosed]
  | cons field fields =>
      simp [pretty, toList_newline, toList_prettyFields, enclosed, fieldText]

/-- What holds of texts, and of lists and objects if it holds of their parts, holds of all
values. -/
@[elab_as_elim]
theorem induction_parts {motive : Json → Prop} (text : ∀ content, motive (.text content))
    (list : ∀ items, (∀ item ∈ items, motive item) → motive (.list items))
    (object : ∀ fields, (∀ field ∈ fields, motive field.2) → motive (.object fields)) :
    ∀ value, motive value
  | .text content => text content
  | .list items => list items fun item _ => induction_parts text list object item
  | .object fields => object fields fun field _ => induction_parts text list object field.2
termination_by value => sizeOf value
decreasing_by
  · rename_i listed
    have smaller := List.sizeOf_lt_of_mem listed
    rw [Json.list.sizeOf_spec]
    omega
  · rename_i listed
    have smaller := List.sizeOf_lt_of_mem listed
    have part : sizeOf field = 1 + sizeOf field.1 + sizeOf field.2 := rfl
    rw [Json.object.sizeOf_spec]
    omega

/-- The first character of a value. -/
def opening : Json → Char
  | .text _ => '"'
  | .list _ => '['
  | .object _ => '\x7b'

theorem head?_pretty (level : Nat) (value : Json) :
    (pretty level value).toList.head? = some value.opening := by
  cases value with
  | text content => rw [pretty, toList_quote, List.head?_cons, opening]
  | list items =>
      rw [toList_pretty_list, opening]
      cases items <;> rfl
  | object fields =>
      rw [toList_pretty_object, opening]
      cases fields <;> rfl

theorem opening_eq {level : Nat} {first second : Json} {rest after : List Char}
    (same : (pretty level first).toList ++ rest = (pretty level second).toList ++ after) :
    first.opening = second.opening := by
  have heads := congrArg List.head? same
  rw [List.head?_append, List.head?_append, head?_pretty, head?_pretty] at heads
  exact Option.some.inj heads

theorem isDelimited_field {level : Nat} {field : String × Json}
    (value : IsDelimited (fun value => (pretty level value).toList) field.2) :
    IsDelimited (fieldText level) field := by
  intro other rest after same
  simp only [fieldText, List.append_assoc, List.cons_append] at same
  obtain ⟨names, behind⟩ := isDelimited_quote field.1 other.1 _ _ same
  simp only [List.cons.injEq, true_and] at behind
  obtain ⟨values, rests⟩ := value other.2 _ _ behind
  exact ⟨Prod.ext names values, rests⟩

/-- The first character tells what kind of value is written, and then each part tells where
it ends. -/
theorem isDelimited_pretty (level : Nat) (value : Json) :
    IsDelimited (fun value => (pretty level value).toList) value := by
  induction value using induction_parts generalizing level with
  | text content =>
      intro other rest after same
      have openings := opening_eq same
      cases other with
      | text other =>
          simp only [pretty] at same
          obtain ⟨rfl, rests⟩ := isDelimited_quote content other _ _ same
          exact ⟨rfl, rests⟩
      | list others => simp [opening] at openings
      | object others => simp [opening] at openings
  | list items induction =>
      intro other rest after same
      have openings := opening_eq same
      cases other with
      | text other => simp [opening] at openings
      | list others =>
          simp only [toList_pretty_list] at same
          have closed : ']' ≠ '\n' := by decide
          have delimited := isDelimited_enclosed '[' level closed
            fun item listed => induction item listed (level + 1)
          obtain ⟨rfl, rests⟩ := delimited others _ _ same
          exact ⟨rfl, rests⟩
      | object others => simp [opening] at openings
  | object fields induction =>
      intro other rest after same
      have openings := opening_eq same
      cases other with
      | text other => simp [opening] at openings
      | list others => simp [opening] at openings
      | object others =>
          simp only [toList_pretty_object] at same
          have closed : '\x7d' ≠ '\n' := by decide
          have delimited := isDelimited_enclosed '\x7b' level closed
            fun field listed => isDelimited_field (induction field listed (level + 1))
          obtain ⟨rfl, rests⟩ := delimited others _ _ same
          exact ⟨rfl, rests⟩

/-- A document tells which value it is. -/
theorem eq_of_text_document {first second : Json}
    (same : first.document.text = second.document.text) : first = second := by
  have texts : (pretty 0 first).toList ++ ['\n'] = (pretty 0 second).toList ++ ['\n'] := by
    have chars := congrArg String.toList same
    simpa [document, Document.text] using chars
  exact (isDelimited_pretty 0 first second _ _ texts).1

end Values

end Json
end RightLinear
