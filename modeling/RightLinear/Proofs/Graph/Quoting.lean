import Mathlib.Algebra.Ring.Parity
import RightLinear.Proofs.Graph.Edges
import RightLinear.Proofs.Text.Tokens

/-! # Strings in a drawing

A reader of a drawing takes a string to begin at a quote and to end at the next quote that
has no backslash in front of it; a backslash in front of a backslash makes a pair with it. So
it depends on the number of backslashes in front of a quote whether it ends a string. In the
name of a node a backslash is put in front of each quote, but none in front of a backslash,
and a label is written as it is. It is told exactly which names and labels are found again.
-/

namespace RightLinear
namespace Text

/-- Where the scan of a line stands: outside of strings, in a string, or behind a backslash
in a string that takes the next character with it. -/
inductive Place
  | outside
  | inside
  | escaped
  deriving DecidableEq

/-- Puts a character in front of the first stretch. -/
def lengthen (char : Char) : List (List Char) → List (List Char)
  | [] => []
  | stretch :: later => (char :: stretch) :: later

/-- Cuts a line at the quotes by which its strings begin and end: what stands outside and
what stands inside of strings take turns. A line with a string that does not end is not cut. -/
def stretches : Place → List Char → Option (List (List Char))
  | .outside, [] => some [[]]
  | .inside, [] => none
  | .escaped, [] => none
  | .outside, char :: rest =>
      if char = '"' then (stretches .inside rest).map ([] :: ·)
      else (stretches .outside rest).map (lengthen char)
  | .inside, char :: rest =>
      if char = '"' then (stretches .outside rest).map ([] :: ·)
      else (stretches (if char = '\\' then .escaped else .inside) rest).map (lengthen char)
  | .escaped, char :: rest => (stretches .inside rest).map (lengthen char)

/-- What the inside of a string stands for: a backslash in front of a quote is left out, and
everything else stands for itself. A backslash is held back until the next character shows. -/
def meaning (held : Bool) : List Char → List Char
  | [] => if held then ['\\'] else []
  | char :: rest =>
      if held then (if char = '"' then ['"'] else ['\\', char]) ++ meaning false rest
      else if char = '\\' then meaning true rest
      else char :: meaning false rest

/-- How many backslashes a text ends in. -/
def backslashes (text : List Char) : Nat := (text.reverse.takeWhile (· == '\\')).length

theorem backslashes_append_singleton (text : List Char) (char : Char) :
    backslashes (text ++ [char]) = if char = '\\' then backslashes text + 1 else 0 := by
  rw [backslashes, List.reverse_append, List.reverse_singleton, List.singleton_append,
    List.takeWhile_cons]
  by_cases isBackslash : char = '\\'
  · rw [if_pos isBackslash, if_pos (beq_iff_eq.2 isBackslash), List.length_cons]
    rfl
  · rw [if_neg isBackslash, if_neg fun same => isBackslash (beq_iff_eq.1 same), List.length_nil]

/-- Behind some characters of a string, an allowed number of backslashes stands in front of
each quote of a text, and an even number at its end. -/
def BackslashesFit (allowed : Nat → Prop) (before text : List Char) : Prop :=
  (∀ first rest, text = first ++ '"' :: rest → allowed (backslashes (before ++ first))) ∧
    Even (backslashes (before ++ text))

/-- Only the backslashes behind another character count. -/
theorem backslashes_append_cons {before text : List Char} {char : Char} (isOther : char ≠ '\\') :
    backslashes (before ++ char :: text) = backslashes text := by
  have stops : (char :: before.reverse).takeWhile (· == '\\') = [] := by
    rw [List.takeWhile_cons, if_neg fun same => isOther (beq_iff_eq.1 same)]
  rw [backslashes, backslashes, List.reverse_append, List.reverse_cons, List.append_assoc,
    List.singleton_append, List.takeWhile_append, stops, List.append_nil]
  split
  · rename_i whole
    exact whole.symm
  · rfl

/-- A text that is put together ends in as many backslashes as its last part. -/
theorem backslashes_intercalate {separator : Char} {all : List (List Char)}
    (isOther : separator ≠ '\\') :
    backslashes ([separator].intercalate all) = backslashes (all.getLastD []) := by
  induction all with
  | nil => rfl
  | cons first others induction =>
      cases others with
      | nil => rw [List.intercalate_singleton, List.getLastD_cons, List.getLastD_nil]
      | cons second others =>
          rw [List.intercalate_cons_cons, List.append_assoc, List.singleton_append,
            backslashes_append_cons isOther, induction, List.getLastD_cons, List.getLastD_cons,
            List.getLastD_cons]

variable {allowed : Nat → Prop} {before text rest : List Char} {later : List (List Char)}
variable {char : Char}

theorem backslashesFit_nil : BackslashesFit allowed before [] ↔ Even (backslashes before) := by
  rw [BackslashesFit, List.append_nil]
  constructor
  · exact And.right
  · intro even
    refine ⟨?_, even⟩
    intro first rest cut
    simp at cut

theorem backslashesFit_cons :
    BackslashesFit allowed before (char :: text) ↔
      (char = '"' → allowed (backslashes before)) ∧
        BackslashesFit allowed (before ++ [char]) text := by
  have shifted : ∀ first, before ++ [char] ++ first = before ++ char :: first := by
    intro first
    rw [List.append_assoc, List.singleton_append]
  constructor
  · rintro ⟨quotes, even⟩
    refine ⟨?_, ?_, ?_⟩
    · intro isQuote
      have here := quotes [] text (by rw [isQuote, List.nil_append])
      rwa [List.append_nil] at here
    · intro first rest cut
      rw [shifted]
      exact quotes (char :: first) rest (by rw [cut, List.cons_append])
    · rwa [shifted]
  · rintro ⟨here, quotes, even⟩
    refine ⟨?_, ?_⟩
    · intro first rest cut
      cases first with
      | nil =>
          rw [List.append_nil]
          exact here (List.cons.inj cut).1
      | cons other first =>
          obtain ⟨rfl, cutLater⟩ := List.cons.inj cut
          rw [← shifted]
          exact quotes first rest cutLater
    · rwa [← shifted]

section Scanning

theorem map_lengthen_eq_some_iff {scan : Option (List (List Char))} {first : Char} :
    scan.map (lengthen char) = some ((first :: text) :: later) ↔
      char = first ∧ scan = some (text :: later) := by
  match scan with
  | none => simp
  | some [] => simp [lengthen]
  | some (stretch :: others) => simp [lengthen, and_assoc]

theorem map_lengthen_ne_some_nil {scan : Option (List (List Char))} :
    scan.map (lengthen char) ≠ some ([] :: later) := by
  match scan with
  | none => simp
  | some [] => simp [lengthen]
  | some (stretch :: others) => simp [lengthen]

/-- Where a scan stands behind some characters of a string. -/
def placeBehind (before : List Char) : Place :=
  if Even (backslashes before) then .inside else .escaped

/-- A quote ends a string just where an even number of backslashes is in front of it. So a
text is found again between quotes if it has odd numbers in front of its own quotes and an
even number at its end. -/
theorem stretches_append_quote_eq_some_iff :
    stretches (placeBehind before) (text ++ '"' :: rest) = some (text :: later) ↔
      BackslashesFit Odd before text ∧ stretches .outside rest = some later := by
  -- Each character that is scanned goes from the text to what is before it, so that the place
  -- of the scan stays a matter of the backslashes before it.
  induction text generalizing before with
  | nil =>
      rw [backslashesFit_nil, placeBehind, List.nil_append]
      by_cases even : Even (backslashes before)
      · rw [if_pos even, stretches, if_pos rfl]
        simp [even]
      · rw [if_neg even, stretches]
        constructor
        · intro scanned
          exact absurd scanned map_lengthen_ne_some_nil
        · rintro ⟨isEven, _⟩
          exact absurd isEven even
  | cons char text induction =>
      have shifted := @induction (before ++ [char])
      rw [placeBehind, backslashes_append_singleton] at shifted
      rw [backslashesFit_cons, placeBehind, List.cons_append]
      by_cases even : Even (backslashes before)
      · rw [if_pos even, stretches]
        by_cases isQuote : char = '"'
        · simp [isQuote, even]
        · rw [if_neg isQuote, map_lengthen_eq_some_iff]
          by_cases isBackslash : char = '\\'
          · simpa [isBackslash, Nat.even_add_one, even] using shifted
          · simpa [isQuote, isBackslash] using shifted
      · rw [if_neg even, stretches, map_lengthen_eq_some_iff]
        have odd := Nat.not_even_iff_odd.1 even
        by_cases isBackslash : char = '\\'
        · simpa [isBackslash, Nat.even_add_one, even] using shifted
        · simpa [isBackslash, odd] using shifted

theorem stretches_outside_append_quote (plain : ¬ '"' ∈ text) :
    stretches .outside (text ++ '"' :: rest) = (stretches .inside rest).map (text :: ·) := by
  induction text with
  | nil => rw [List.nil_append, stretches, if_pos rfl]
  | cons char text induction =>
      rw [List.mem_cons, not_or] at plain
      rw [List.cons_append, stretches, if_neg (Ne.symm plain.1), induction plain.2, Option.map_map]
      rfl

theorem stretches_outside_of_plain (plain : ¬ '"' ∈ text) :
    stretches .outside text = some [text] := by
  induction text with
  | nil => rfl
  | cons char text induction =>
      rw [List.mem_cons, not_or] at plain
      rw [stretches, if_neg (Ne.symm plain.1), induction plain.2]
      rfl

/-- One string of a line is found where it was written. -/
theorem stretches_string_eq_some_iff {plain : List Char} (isPlain : ¬ '"' ∈ plain) :
    stretches .outside (plain ++ '"' :: (text ++ '"' :: rest)) = some (plain :: text :: later) ↔
      BackslashesFit Odd [] text ∧ stretches .outside rest = some later := by
  have inside := @stretches_append_quote_eq_some_iff [] text rest later
  rw [stretches_outside_append_quote isPlain, ← inside]
  simp [placeBehind, backslashes]

end Scanning

section Meaning

/-- A text with a backslash in front of each quote. -/
def withEscapes (text : List Char) : List Char :=
  text.flatMap fun char => if char = '"' then ['\\', '"'] else [char]

theorem withEscapes_quote (text : List Char) :
    withEscapes ('"' :: text) = '\\' :: '"' :: withEscapes text :=
  rfl

theorem withEscapes_cons_of_ne (isOther : char ≠ '"') :
    withEscapes (char :: text) = char :: withEscapes text := by
  rw [withEscapes, List.flatMap_cons, if_neg isOther, List.singleton_append]
  rfl

/-- One backslash more in front of a quote turns an even number into an odd one. -/
theorem backslashesFit_withEscapes_iff {behind : List Char}
    (same : backslashes behind = backslashes before) :
    BackslashesFit Odd behind (withEscapes text) ↔ BackslashesFit Even before text := by
  induction text generalizing before behind with
  | nil =>
      change BackslashesFit Odd behind [] ↔ BackslashesFit Even before []
      rw [backslashesFit_nil, backslashesFit_nil, same]
  | cons char text induction =>
      by_cases isQuote : char = '"'
      · have later := @induction (before ++ ['"']) (behind ++ ['\\'] ++ ['"']) (by
          rw [backslashes_append_singleton, backslashes_append_singleton (before)]
          simp)
        rw [isQuote, withEscapes_quote, backslashesFit_cons, backslashesFit_cons,
          backslashesFit_cons, later, backslashes_append_singleton, same]
        simp [Nat.odd_add_one]
      · have later := @induction (before ++ [char]) (behind ++ [char]) (by
          rw [backslashes_append_singleton, backslashes_append_singleton, same])
        rw [withEscapes_cons_of_ne isQuote, backslashesFit_cons, backslashesFit_cons, later]
        simp [isQuote]

/-- Whether a backslash is held back behind some characters. -/
def isHeld (before : List Char) : Bool := decide (Odd (backslashes before))

def heldBack (before : List Char) : List Char := if isHeld before then ['\\'] else []

theorem isHeld_append_backslash : isHeld (before ++ ['\\']) = !isHeld before := by
  rw [isHeld, isHeld, backslashes_append_singleton, if_pos rfl, ← decide_not]
  exact decide_eq_decide.2 Nat.odd_add_one

theorem isHeld_append_of_ne (isOther : char ≠ '\\') : isHeld (before ++ [char]) = false := by
  rw [isHeld, backslashes_append_singleton, if_neg isOther]
  rfl

theorem meaning_cons_eq_iff {later : List Char} (isOther : char ≠ '"') :
    meaning (isHeld before) (char :: text) = heldBack before ++ char :: later ↔
      meaning (isHeld (before ++ [char])) text = heldBack (before ++ [char]) ++ later := by
  rw [heldBack, heldBack]
  by_cases isBackslash : char = '\\'
  · subst isBackslash
    rw [isHeld_append_backslash]
    cases isHeld before with
    | false => simp [meaning]
    | true => simp [meaning]
  · rw [isHeld_append_of_ne isBackslash]
    cases isHeld before with
    | false => simp [meaning, isBackslash]
    | true => simp [meaning, isOther]

/-- A name that is found where it was written stands for the state. -/
theorem meaning_withEscapes (fits : BackslashesFit Even before text) :
    meaning (isHeld before) (withEscapes text) = heldBack before ++ text := by
  induction text generalizing before with
  | nil =>
      have notHeld : isHeld before = false := by
        simpa [isHeld] using backslashesFit_nil.1 fits
      rw [heldBack, notHeld]
      rfl
  | cons char text induction =>
      obtain ⟨atQuote, fitsLater⟩ := backslashesFit_cons.1 fits
      have later := induction fitsLater
      by_cases isQuote : char = '"'
      · have notHeld : isHeld before = false := by
          simpa [isHeld] using atQuote isQuote
        subst isQuote
        rw [heldBack, isHeld_append_of_ne (by decide)] at later
        rw [heldBack, notHeld, withEscapes_quote]
        simpa [meaning] using later
      · rw [withEscapes_cons_of_ne isQuote]
        exact (meaning_cons_eq_iff isQuote).2 later

/-- A label that is found where it was written does not stand for itself if it has a quote,
since the backslash in front of the quote is left out. -/
theorem meaning_eq_iff (fits : BackslashesFit Odd before text) :
    meaning (isHeld before) text = heldBack before ++ text ↔ ¬ '"' ∈ text := by
  induction text generalizing before with
  | nil =>
      have notHeld : isHeld before = false := by
        simpa [isHeld] using backslashesFit_nil.1 fits
      rw [heldBack, notHeld]
      simp [meaning]
  | cons char text induction =>
      obtain ⟨atQuote, fitsLater⟩ := backslashesFit_cons.1 fits
      by_cases isQuote : char = '"'
      · have held : isHeld before = true := by
          simpa [isHeld] using atQuote isQuote
        subst isQuote
        rw [heldBack, held]
        simp [meaning]
      · rw [meaning_cons_eq_iff isQuote, induction fitsLater, List.mem_cons, not_or]
        simp [Ne.symm isQuote]

end Meaning

section Lines

/-- A string in a line: the text in front of it, what is written between its quotes, and the
text for which it is meant to stand. -/
structure Quotation where
  before : String
  inside : String
  meant : String

/-- The quote behind what is written is the first one that can end the string. -/
def Quotation.Ends (quotation : Quotation) : Prop :=
  BackslashesFit Odd [] quotation.inside.toList

def Quotation.Stands (quotation : Quotation) : Prop :=
  meaning false quotation.inside.toList = quotation.meant.toList

/-- The text of a line, string after string. -/
def writtenLine (quotations : List Quotation) (ending : String) : List Char :=
  quotations.flatMap (fun quotation =>
    quotation.before.toList ++ '"' :: (quotation.inside.toList ++ ['"'])) ++ ending.toList

/-- A line has these strings, and a reader finds them where they were written. -/
structure FoundIn (quotations : List Quotation) (ending line : String) : Prop where
  written : line.toList = writtenLine quotations ending
  found : stretches .outside line.toList =
    some (quotations.flatMap (fun quotation =>
      [quotation.before.toList, quotation.inside.toList]) ++ [ending.toList])

/-- A reader finds the strings of a line, and each of them stands for what was meant. -/
structure WellQuoted (quotations : List Quotation) (ending line : String) : Prop
    extends FoundIn quotations ending line where
  stands : ∀ quotation ∈ quotations, quotation.Stands

variable {quotations : List Quotation} {line ending : String}

/-- The strings of a line are found if each of them ends where it was written to end. One
that ends earlier or later is never made good by what follows. -/
theorem foundIn_iff (written : line.toList = writtenLine quotations ending)
    (plain : ∀ quotation ∈ quotations, ¬ '"' ∈ quotation.before.toList)
    (plainEnding : ¬ '"' ∈ ending.toList) :
    FoundIn quotations ending line ↔ ∀ quotation ∈ quotations, quotation.Ends := by
  have cut : stretches .outside (writtenLine quotations ending) =
      some (quotations.flatMap (fun quotation =>
        [quotation.before.toList, quotation.inside.toList]) ++ [ending.toList]) ↔
      ∀ quotation ∈ quotations, quotation.Ends := by
    clear written
    induction quotations with
    | nil => simp [writtenLine, stretches_outside_of_plain plainEnding]
    | cons quotation quotations induction =>
        obtain ⟨isPlain, plainLater⟩ := List.forall_mem_cons.1 plain
        have line : writtenLine (quotation :: quotations) ending =
            quotation.before.toList ++
              '"' :: (quotation.inside.toList ++ '"' :: writtenLine quotations ending) := by
          simp [writtenLine]
        -- Outside of strings again, the scan goes on as at the beginning of a line.
        rw [line, List.forall_mem_cons, ← induction plainLater]
        exact stretches_string_eq_some_iff isPlain
  rw [← cut, ← written]
  constructor
  · exact FoundIn.found
  · exact fun found => ⟨written, found⟩

theorem wellQuoted_iff :
    WellQuoted quotations ending line ↔
      FoundIn quotations ending line ∧ ∀ quotation ∈ quotations, quotation.Stands := by
  constructor
  · exact fun quoted => ⟨quoted.toFoundIn, quoted.stands⟩
  · exact fun ⟨found, stands⟩ => ⟨found, stands⟩

end Lines

end Text

namespace Symbol

/-- A name is found again in a drawing if an even number of backslashes stands in front of
each of its quotes and at its end. -/
def Quotable (state : Symbol) : Prop := Text.BackslashesFit Even [] state.text.toList

/-- The string that names a state, behind some text. -/
def quotation (before : String) (state : Symbol) : Text.Quotation :=
  ⟨before, String.ofList (Text.withEscapes state.text.toList), state.text⟩

/-- The string that labels an edge. -/
def label (letters : List Symbol) : Text.Quotation :=
  ⟨" [label=", joined "," letters, joined "," letters⟩

theorem toList_nodeName (state : Symbol) :
    state.nodeName.toList = '"' :: (Text.withEscapes state.text.toList ++ ['"']) := by
  rw [nodeName, String.toList_append, String.toList_append, String.toList_ofList]
  simp [Text.withEscapes]

theorem ends_quotation_iff (before : String) (state : Symbol) :
    (state.quotation before).Ends ↔ state.Quotable := by
  rw [Text.Quotation.Ends, quotation, String.toList_ofList,
    Text.backslashesFit_withEscapes_iff rfl]
  rfl

theorem Quotable.stands_quotation {state : Symbol} (quotable : state.Quotable)
    (before : String) : (state.quotation before).Stands := by
  rw [Text.Quotation.Stands, quotation, String.toList_ofList]
  exact Text.meaning_withEscapes quotable

/-- A line with a single name is found and read as it was meant if the name is found. -/
theorem foundIn_and_wellQuoted_iff {state : Symbol} {before ending line : String}
    (written : line.toList = Text.writtenLine [state.quotation before] ending)
    (plain : ¬ '"' ∈ before.toList) (plainEnding : ¬ '"' ∈ ending.toList) :
    (Text.FoundIn [state.quotation before] ending line ↔ state.Quotable) ∧
      (Text.WellQuoted [state.quotation before] ending line ↔ state.Quotable) := by
  have found : Text.FoundIn [state.quotation before] ending line ↔ state.Quotable := by
    rw [Text.foundIn_iff written (List.forall_mem_singleton.2 plain) plainEnding,
      List.forall_mem_singleton, ends_quotation_iff]
  refine ⟨found, ?_⟩
  rw [Text.wellQuoted_iff, found, List.forall_mem_singleton]
  exact and_iff_left_of_imp fun quotable => quotable.stands_quotation before

theorem quote_mem_joined {letters : List Symbol} :
    '"' ∈ (joined "," letters).toList ↔ ∃ letter ∈ letters, '"' ∈ letter.text.toList := by
  rw [toList_joined, Text.mem_intercalate (by decide)]
  simp

/-- A label ends in as many backslashes as its last letter. -/
theorem even_backslashes_joined {letters : List Symbol} :
    Even (Text.backslashes (joined "," letters).toList) ↔
      ∀ last ∈ letters.getLast?, Even (Text.backslashes last.text.toList) := by
  have written : (joined "," letters).toList =
      [','].intercalate (letters.map fun letter => letter.text.toList) := toList_joined "," letters
  rw [written, Text.backslashes_intercalate (by decide)]
  obtain rfl | ⟨others, last, rfl⟩ := List.eq_nil_or_concat letters
  · simp [Text.backslashes]
  · simp

/-- A label stands for its letters if none of them has a quote and the last one does not take
away the quote behind it. -/
theorem ends_and_stands_label_iff {letters : List Symbol} :
    (label letters).Ends ∧ (label letters).Stands ↔
      (∀ letter ∈ letters, ¬ '"' ∈ letter.text.toList) ∧
        ∀ last ∈ letters.getLast?, Even (Text.backslashes last.text.toList) := by
  have plain : ¬ '"' ∈ (joined "," letters).toList ↔
      ∀ letter ∈ letters, ¬ '"' ∈ letter.text.toList := by
    simp [quote_mem_joined]
  rw [← plain, ← even_backslashes_joined]
  constructor
  · rintro ⟨ends, stands⟩
    exact ⟨(Text.meaning_eq_iff ends).1 stands, ends.2⟩
  · rintro ⟨noQuote, even⟩
    have ends : (label letters).Ends := by
      refine ⟨?_, even⟩
      intro first rest cut
      exact absurd (cut ▸ List.mem_append_right first List.mem_cons_self) noQuote
    exact ⟨ends, (Text.meaning_eq_iff ends).2 noQuote⟩

end Symbol

namespace Automaton

/-- The edge that points at the initial state. -/
def startLine (automaton : Automaton) : Piece :=
  .line .graphStartEdge s!"  __start -> {automaton.initial.nodeName};"

theorem toList_text_startLine (automaton : Automaton) :
    automaton.startLine.text.toList =
      Text.writtenLine [automaton.initial.quotation "  __start -> "] ";\n" := by
  change ("  __start -> " ++ automaton.initial.nodeName ++ ";" ++ "\n").toList = _
  simp [Text.writtenLine, Symbol.quotation, Symbol.toList_nodeName]

/-- The strings of the line of an edge: its two states and its letters. -/
def edgeQuotations (edge : Edge) : List Text.Quotation :=
  [edge.1.1.quotation "  ", edge.1.2.quotation " -> ", Symbol.label edge.2]

/-- What stands behind the name in the line of a state. -/
def nodeEnding (automaton : Automaton) (state : Symbol) : String :=
  " [shape=" ++ (if state ∈ automaton.finals then "doublecircle" else "circle") ++ "];\n"

theorem toList_text_nodeLine (automaton : Automaton) (state : Symbol) :
    (automaton.nodeLine state).text.toList =
      Text.writtenLine [state.quotation "  "] (automaton.nodeEnding state) := by
  simp [text_nodeLine, Text.writtenLine, Symbol.quotation, Symbol.toList_nodeName, nodeEnding]

theorem quote_not_mem_nodeEnding (automaton : Automaton) (state : Symbol) :
    ¬ '"' ∈ (automaton.nodeEnding state).toList := by
  rw [nodeEnding]
  split <;> decide

theorem foundIn_edgeLine_iff (edge : Edge) :
    Text.FoundIn (edgeQuotations edge) "];\n" (edgeLine edge).text ↔
      edge.1.1.Quotable ∧ edge.1.2.Quotable ∧ (Symbol.label edge.2).Ends := by
  rw [Text.foundIn_iff, edgeQuotations, List.forall_mem_cons, List.forall_mem_cons,
    List.forall_mem_singleton, Symbol.ends_quotation_iff, Symbol.ends_quotation_iff]
  · simp [text_edgeLine, edgeQuotations, Text.writtenLine, Symbol.quotation,
      Symbol.toList_nodeName, Symbol.label]
  · simp [edgeQuotations, Symbol.quotation, Symbol.label]
  · decide

/-- Which lines of a drawing are read as they were meant, for all texts of states and letters.
The name of a state is found where it was written, and then stands for the state, if each of
its quotes and its end has an even number of backslashes in front. A label is found if each
of its quotes has an odd number in front and its end an even one, but it stands for its
letters only if it has no quote at all. -/
theorem lines_wellQuoted_iff (automaton : Automaton) :
    (∀ state,
      (Text.FoundIn [state.quotation "  "] (automaton.nodeEnding state)
        (automaton.nodeLine state).text ↔ state.Quotable) ∧
      (Text.WellQuoted [state.quotation "  "] (automaton.nodeEnding state)
        (automaton.nodeLine state).text ↔ state.Quotable)) ∧
    automaton.startLine ∈ automaton.graph ∧
    (Text.FoundIn [automaton.initial.quotation "  __start -> "] ";\n"
      automaton.startLine.text ↔ automaton.initial.Quotable) ∧
    (Text.WellQuoted [automaton.initial.quotation "  __start -> "] ";\n"
      automaton.startLine.text ↔ automaton.initial.Quotable) ∧
    ∀ edge : Edge,
      (Text.FoundIn (edgeQuotations edge) "];\n" (edgeLine edge).text ↔
        edge.1.1.Quotable ∧ edge.1.2.Quotable ∧
          Text.BackslashesFit Odd [] (Symbol.joined "," edge.2).toList) ∧
      (Text.WellQuoted (edgeQuotations edge) "];\n" (edgeLine edge).text ↔
        edge.1.1.Quotable ∧ edge.1.2.Quotable ∧
          (∀ letter ∈ edge.2, ¬ '"' ∈ letter.text.toList) ∧
          ∀ last ∈ edge.2.getLast?, Even (Text.backslashes last.text.toList)) := by
  have start := Symbol.foundIn_and_wellQuoted_iff (toList_text_startLine automaton)
    (by decide) (by decide)
  refine ⟨?_, ?_, start.1, start.2, ?_⟩
  · intro state
    exact Symbol.foundIn_and_wellQuoted_iff (toList_text_nodeLine automaton state) (by decide)
      (quote_not_mem_nodeEnding automaton state)
  · simp [graph, startLine]
  · intro edge
    refine ⟨foundIn_edgeLine_iff edge, ?_⟩
    have label := @Symbol.ends_and_stands_label_iff edge.2
    rw [Text.wellQuoted_iff, foundIn_edgeLine_iff, edgeQuotations, List.forall_mem_cons,
      List.forall_mem_cons, List.forall_mem_singleton]
    constructor
    · rintro ⟨⟨source, target, ends⟩, _, _, stands⟩
      exact ⟨source, target, label.1 ⟨ends, stands⟩⟩
    · rintro ⟨source, target, letters⟩
      obtain ⟨ends, stands⟩ := label.2 letters
      exact ⟨⟨source, target, ends⟩, source.stands_quotation _, target.stands_quotation _, stands⟩

/-- An automaton with a state that ends in a backslash and with a letter that has quotes. -/
def unquotable : Automaton :=
  .ofLists [⟨"S"⟩, ⟨"T\\"⟩] [⟨"a\" color=\"red"⟩]
    [((⟨"S"⟩, ⟨"a\" color=\"red"⟩), [⟨"S"⟩])] ⟨"S"⟩ []

/-- The name of the state takes the rest of its line with it, and the letter breaks out of
its label and sets the color of its edge. -/
theorem unquotable_misread :
    unquotable.WellFormed ∧ ⟨"T\\"⟩ ∈ unquotable.states ∧
      Text.stretches .outside (unquotable.nodeLine ⟨"T\\"⟩).text.toList = none ∧
      ∃ edge ∈ unquotable.edges,
        Text.stretches .outside (edgeLine edge).text.toList =
          some (["  ", "S", " -> ", "S", " [label=", "a", " color=", "red", "];\n"].map
            String.toList) ∧
        ¬ Text.FoundIn (edgeQuotations edge) "];\n" (edgeLine edge).text := by
  refine ⟨defect?_eq_none_iff.1 (by decide), by decide, by decide, ?_⟩
  let edge : Edge :=
    ((⟨"S"⟩, ⟨"S"⟩), [⟨"a\" color=\"red"⟩])
  have read : Text.stretches .outside (edgeLine edge).text.toList =
      some (["  ", "S", " -> ", "S", " [label=", "a", " color=", "red", "];\n"].map
        String.toList) := by
    decide
  refine ⟨edge, by decide, read, ?_⟩
  intro found
  have meant := read.symm.trans found.found
  exact absurd meant (by decide)

end Automaton
end RightLinear
