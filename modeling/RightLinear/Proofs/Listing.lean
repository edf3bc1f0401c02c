import RightLinear.Listing
import RightLinear.Proofs.Layout.Automaton
import RightLinear.Proofs.Layout.Grammar

/-! # Listings are unambiguous

A listing escapes nothing, and names may look like its punctuation. Yet no name that has been
read has a blank, so that the first space on a line, or the end of the line, always tells where
a name ends together with the punctuation behind it. What is listed can therefore be told from
its listing, line by line and on each line name by name.
-/

namespace RightLinear

section Cutting

variable {α β : Type}

/-- Where the first separator stands is seen from either way of cutting a list at it. -/
theorem eq_of_append_separator_eq {separator : α} {first second rest after : List α}
    (plain : ¬ separator ∈ first) (otherPlain : ¬ separator ∈ second)
    (same : first ++ separator :: rest = second ++ separator :: after) :
    first = second ∧ rest = after := by
  induction first generalizing second with
  | nil =>
      cases second with
      | nil => exact ⟨rfl, (List.cons.inj same).2⟩
      | cons item second =>
          have head : separator = item := (List.cons.inj same).1
          exact absurd (head ▸ List.mem_cons_self) otherPlain
  | cons item first induction =>
      cases second with
      | nil =>
          have head : item = separator := (List.cons.inj same).1
          exact absurd (head ▸ List.mem_cons_self) plain
      | cons other second =>
          obtain ⟨rfl, behind⟩ := List.cons.inj same
          rw [List.mem_cons, not_or] at plain otherPlain
          obtain ⟨rfl, rests⟩ := induction plain.2 otherPlain.2 behind
          exact ⟨rfl, rests⟩

theorem eq_of_map_eq {change : α → β} {first second : List α}
    (told : ∀ item ∈ first, ∀ other ∈ second, change item = change other → item = other)
    (same : first.map change = second.map change) : first = second := by
  induction first generalizing second with
  | nil => exact (List.map_eq_nil_iff.1 same.symm).symm
  | cons item first induction =>
      cases second with
      | nil => exact nomatch same
      | cons other second =>
          obtain ⟨heads, tails⟩ := List.cons.inj same
          obtain rfl := told item List.mem_cons_self other List.mem_cons_self heads
          rw [induction (fun item listed other otherListed =>
            told item (List.mem_cons_of_mem _ listed) other (List.mem_cons_of_mem _ otherListed))
            tails]

end Cutting

namespace Text

variable {lead tail : List Char}

theorem space_not_mem_of_isToken {token : List Char} (isToken : IsToken token) :
    ¬ ' ' ∈ token := by
  intro member
  exact absurd (isToken.2 ' ' member) (by decide)

theorem intercalate_ne_nil_of_isToken {separator token : List Char} (isToken : IsToken token)
    (later : List (List Char)) : separator.intercalate (token :: later) ≠ [] := by
  cases later with
  | nil => rw [List.intercalate_singleton]; exact isToken.1
  | cons next later =>
      rw [List.intercalate_cons_cons, List.append_assoc]
      exact List.append_ne_nil_of_left_ne_nil isToken.1 _

theorem space_mem_intercalate (lead tail first second : List Char) (later : List (List Char)) :
    ' ' ∈ (lead ++ ' ' :: tail).intercalate (first :: second :: later) := by
  rw [List.intercalate_cons_cons]
  simp

/-- Tokens with a separator between them are told apart, if a space in the separator tells
where it stands. -/
theorem eq_of_intercalate_eq (plain : ¬ ' ' ∈ lead) {first second : List (List Char)}
    (areTokens : ∀ token ∈ first, IsToken token) (otherTokens : ∀ token ∈ second, IsToken token)
    (same : (lead ++ ' ' :: tail).intercalate first = (lead ++ ' ' :: tail).intercalate second) :
    first = second := by
  induction first generalizing second with
  | nil =>
      cases second with
      | nil => rfl
      | cons other others =>
          exact absurd same.symm
            (intercalate_ne_nil_of_isToken (otherTokens other List.mem_cons_self) others)
  | cons token later induction =>
      have isToken := areTokens token List.mem_cons_self
      have plainToken := space_not_mem_of_isToken isToken
      cases second with
      | nil => exact absurd same (intercalate_ne_nil_of_isToken isToken later)
      | cons other others =>
          have plainOther := space_not_mem_of_isToken (otherTokens other List.mem_cons_self)
          rcases later with _ | ⟨next, later⟩ <;> rcases others with _ | ⟨another, others⟩
          · rwa [List.intercalate_singleton, List.intercalate_singleton, ← List.singleton_inj]
              at same
          · rw [List.intercalate_singleton] at same
            exact absurd (same ▸ space_mem_intercalate lead tail other another others) plainToken
          · rw [List.intercalate_singleton] at same
            exact absurd (same ▸ space_mem_intercalate lead tail token next later) plainOther
          · simp only [List.intercalate_cons_cons, List.append_assoc, List.cons_append] at same
            rw [← List.append_assoc, ← List.append_assoc] at same
            obtain ⟨heads, behind⟩ := eq_of_append_separator_eq (by simp [plainToken, plain])
              (by simp [plainOther, plain]) same
            obtain rfl := List.append_cancel_right heads
            have tails := induction
              (fun token listed => areTokens token (List.mem_cons_of_mem _ listed))
              (fun token listed => otherTokens token (List.mem_cons_of_mem _ listed))
              (List.append_cancel_left behind)
            rw [tails]

theorem eq_of_joined_eq {separator : String} (cut : separator.toList = lead ++ ' ' :: tail)
    (plain : ¬ ' ' ∈ lead) {first second : List String}
    (areTokens : ∀ text ∈ first, IsToken text.toList)
    (otherTokens : ∀ text ∈ second, IsToken text.toList)
    (same : separator.intercalate first = separator.intercalate second) : first = second := by
  have chars := congrArg String.toList same
  rw [String.toList_intercalate, String.toList_intercalate, cut] at chars
  have lists := eq_of_intercalate_eq plain (List.forall_mem_map.2 areTokens)
    (List.forall_mem_map.2 otherTokens) chars
  exact List.map_injective_iff.2 (fun _ _ => String.toList_inj.1) lists

end Text

theorem Symbol.eq_of_joined_eq {separator : String} {lead tail : List Char}
    (cut : separator.toList = lead ++ ' ' :: tail) (plain : ¬ ' ' ∈ lead)
    {first second : List Symbol} (areTokens : ∀ symbol ∈ first, symbol.IsToken)
    (otherTokens : ∀ symbol ∈ second, symbol.IsToken)
    (same : joined separator first = joined separator second) : first = second := by
  have texts := Text.eq_of_joined_eq cut plain (List.forall_mem_map.2 areTokens)
    (List.forall_mem_map.2 otherTokens) same
  exact List.map_injective_iff.2 text_injective texts

theorem Symbol.eq_of_joined_space_eq {first second : List Symbol}
    (areTokens : ∀ symbol ∈ first, symbol.IsToken) (otherTokens : ∀ symbol ∈ second, symbol.IsToken)
    (same : joined " " first = joined " " second) : first = second :=
  eq_of_joined_eq (by rfl : " ".toList = [] ++ ' ' :: []) List.not_mem_nil areTokens otherTokens
    same

/-- A piece that is one whole line. -/
def Piece.IsLine (piece : Piece) : Prop :=
  ∃ chars, piece.text.toList = chars ++ ['\n'] ∧ ¬ '\n' ∈ chars

theorem Piece.isLine_line {part : Part} {text : String} (plain : ¬ '\n' ∈ text.toList) :
    (Piece.line part text).IsLine :=
  ⟨text.toList, by simp [Piece.line], plain⟩

namespace Document

/-- Documents of whole lines are told apart line by line. -/
theorem map_text_eq_of_text_eq {first second : Document}
    (areLines : ∀ piece ∈ first, piece.IsLine) (otherLines : ∀ piece ∈ second, piece.IsLine)
    (same : first.text = second.text) : first.map Piece.text = second.map Piece.text := by
  induction first generalizing second with
  | nil =>
      cases second with
      | nil => rfl
      | cons other others =>
          obtain ⟨line, ends, _⟩ := otherLines other List.mem_cons_self
          have chars := congrArg String.toList same
          rw [text_cons, String.toList_append, ends] at chars
          simp at chars
  | cons piece later induction =>
      obtain ⟨⟨line, ends, plain⟩, laterLines⟩ := List.forall_mem_cons.1 areLines
      have chars := congrArg String.toList same
      cases second with
      | nil =>
          rw [text_cons, String.toList_append, ends] at chars
          simp at chars
      | cons other others =>
          obtain ⟨⟨otherLine, otherEnds, otherPlain⟩, othersLines⟩ :=
            List.forall_mem_cons.1 otherLines
          rw [text_cons, text_cons, String.toList_append, String.toList_append, ends, otherEnds,
            List.append_assoc, List.append_assoc, List.singleton_append,
            List.singleton_append] at chars
          obtain ⟨heads, behind⟩ := eq_of_append_separator_eq plain otherPlain chars
          have texts : piece.text = other.text := by
            apply String.toList_inj.1
            rw [ends, otherEnds, heads]
          rw [List.map_cons, List.map_cons, texts,
            induction laterLines othersLines (String.toList_inj.1 behind)]

end Document

namespace Automaton

variable {automaton first second : Automaton} {group other : (Symbol × Symbol) × OrderedSet Symbol}

/-- All names on the line of a group are tokens. -/
structure TokensOn (group : (Symbol × Symbol) × OrderedSet Symbol) : Prop where
  source : group.1.1.IsToken
  letter : group.1.2.IsToken
  targets : ∀ target ∈ group.2.toList, target.IsToken

theorem Readable.tokensOn (readable : automaton.Readable) (formed : automaton.WellFormed)
    (listed : group ∈ automaton.transitions.groups) : TokensOn group where
  source := readable.isToken_state _ (formed.sources_mem group listed)
  letter := readable.isToken_letter _ (formed.letters_mem group listed)
  targets target member := readable.isToken_state _ (formed.targets_mem group listed target member)

theorem toList_text_listingLine (group : (Symbol × Symbol) × OrderedSet Symbol) :
    (listingLine group).text.toList =
      "  delta(".toList ++ ((group.1.1.text.toList ++ [',']) ++ ' ' ::
        ((group.1.2.text.toList ++ [')']) ++ ' ' :: '=' :: ' ' :: '{' ::
          ((Symbol.joined ", " group.2.toList).toList ++ ['}', '\n']))) := by
  simp [listingLine, Piece.line, ToString.toString]

theorem eq_of_text_listingLine_eq (tokens : TokensOn group) (otherTokens : TokensOn other)
    (same : (listingLine group).text = (listingLine other).text) : group = other := by
  have chars := congrArg String.toList same
  rw [toList_text_listingLine, toList_text_listingLine] at chars
  obtain ⟨sources, behindSource⟩ := eq_of_append_separator_eq
    (by simp [Text.space_not_mem_of_isToken tokens.source])
    (by simp [Text.space_not_mem_of_isToken otherTokens.source]) (List.append_cancel_left chars)
  obtain ⟨letters, behindLetter⟩ := eq_of_append_separator_eq
    (by simp [Text.space_not_mem_of_isToken tokens.letter])
    (by simp [Text.space_not_mem_of_isToken otherTokens.letter]) behindSource
  simp only [List.cons.injEq, true_and] at behindLetter
  have source : group.1.1 = other.1.1 :=
    Symbol.text_injective (String.toList_inj.1 (List.append_cancel_right sources))
  have letter : group.1.2 = other.1.2 :=
    Symbol.text_injective (String.toList_inj.1 (List.append_cancel_right letters))
  have targets : group.2.toList = other.2.toList :=
    Symbol.eq_of_joined_eq (by rfl : ", ".toList = [','] ++ ' ' :: []) (by decide) tokens.targets
      otherTokens.targets (String.toList_inj.1 (List.append_cancel_right behindLetter))
  exact Prod.ext (Prod.ext source letter) (OrderedSet.ext targets)

theorem isLine_listingLine (tokens : TokensOn group) : (listingLine group).IsLine := by
  have source := Text.newline_not_mem_of_isToken tokens.source
  have letter := Text.newline_not_mem_of_isToken tokens.letter
  have targets := Layout.newline_not_mem_joined ", " (by decide) tokens.targets
  apply Piece.isLine_line
  simp [ToString.toString, source, letter, targets]

theorem Readable.isLine_of_mem_listing (readable : automaton.Readable)
    (formed : automaton.WellFormed) : ∀ piece ∈ automaton.listing, piece.IsLine := by
  have states := Layout.newline_not_mem_joined " " (by decide) readable.isToken_state
  have letters := Layout.newline_not_mem_joined " " (by decide) readable.isToken_letter
  have finals := Layout.newline_not_mem_joined " " (by decide)
    fun state isFinal => readable.isToken_state state (formed.finals_mem state isFinal)
  have initial :=
    Text.newline_not_mem_of_isToken (readable.isToken_state _ formed.initial_mem)
  simp only [listing, List.forall_mem_append, List.forall_mem_cons, List.forall_mem_map]
  refine ⟨⟨Piece.isLine_line ?_, Piece.isLine_line ?_, Piece.isLine_line ?_,
    Piece.isLine_line ?_, Piece.isLine_line ?_, List.forall_mem_nil _⟩,
    fun group listed => isLine_listingLine (readable.tokensOn formed listed)⟩
  · simp [states]
  · simp [letters]
  · simp [ToString.toString, initial]
  · simp [finals]
  · decide

theorem Readable.eq_of_text_listing_eq (readable : first.Readable) (formed : first.WellFormed)
    (otherReadable : second.Readable) (otherFormed : second.WellFormed)
    (same : first.listing.text = second.listing.text) : first = second := by
  have lines := Document.map_text_eq_of_text_eq (readable.isLine_of_mem_listing formed)
    (otherReadable.isLine_of_mem_listing otherFormed) same
  simp only [listing, List.map_cons, List.cons_append, List.nil_append, List.cons.injEq,
    Piece.line, List.map_map, String.append_left_inj, String.append_right_inj] at lines
  obtain ⟨states, letters, initials, finals, -, groups⟩ := lines
  have sameStates := Symbol.eq_of_joined_space_eq readable.isToken_state
    otherReadable.isToken_state states
  have sameLetters := Symbol.eq_of_joined_space_eq readable.isToken_letter
    otherReadable.isToken_letter letters
  have sameFinals := Symbol.eq_of_joined_space_eq
    (fun state isFinal => readable.isToken_state state (formed.finals_mem state isFinal))
    (fun state isFinal => otherReadable.isToken_state state (otherFormed.finals_mem state isFinal))
    finals
  have sameGroups := eq_of_map_eq (fun group listed other otherListed =>
    eq_of_text_listingLine_eq (readable.tokensOn formed listed)
      (otherReadable.tokensOn otherFormed otherListed)) groups
  cases first
  cases second
  rw [Automaton.mk.injEq]
  exact ⟨OrderedSet.ext sameStates, OrderedSet.ext sameLetters, Grouping.ext sameGroups,
    Symbol.text_injective initials, OrderedSet.ext sameFinals⟩

end Automaton

namespace Grammar

variable {grammar first second : Grammar} {group other : Symbol × OrderedSet RightSide}

/-- The name and the right-hand sides on the line of a group are tokens, and the right-hand
sides can be told from their texts. -/
structure SpelledOn (group : Symbol × OrderedSet RightSide) : Prop where
  left : group.1.IsToken
  sides : ∀ side ∈ group.2.toList, Text.IsToken side.text.toList
  readBack : ∀ side ∈ group.2.toList, RightSide.ofText side.text = side

theorem Readable.spelledOn (readable : grammar.Readable) (formed : grammar.WellFormed)
    (listed : group ∈ grammar.productions.groups) : SpelledOn group where
  left := readable.isToken _ (Or.inr (formed.keys_mem group listed))
  sides _ member :=
    isToken_text readable.isToken formed (mem_alternatives_of_mem_group listed member)
  readBack _ member := readable.ofText_text (mem_alternatives_of_mem_group listed member)

theorem toList_text_listingLine (left : Symbol) (alternatives : OrderedSet RightSide) :
    (listingLine left alternatives).text.toList =
      ' ' :: ' ' :: (left.text.toList ++ ' ' :: '-' :: '>' :: ' ' ::
        ((String.intercalate " | " (alternatives.toList.map RightSide.text)).toList ++ ['\n'])) := by
  simp [listingLine, production, Piece.line, ToString.toString]

theorem eq_of_text_listingLine_eq (spelled : SpelledOn group) (otherSpelled : SpelledOn other)
    (same : (listingLine group.1 group.2).text = (listingLine other.1 other.2).text) :
    group = other := by
  have chars := congrArg String.toList same
  rw [toList_text_listingLine, toList_text_listingLine] at chars
  simp only [List.cons.injEq, true_and] at chars
  obtain ⟨lefts, behindLeft⟩ := eq_of_append_separator_eq
    (Text.space_not_mem_of_isToken spelled.left) (Text.space_not_mem_of_isToken otherSpelled.left)
    chars
  simp only [List.cons.injEq, true_and] at behindLeft
  have texts : group.2.toList.map RightSide.text = other.2.toList.map RightSide.text :=
    Text.eq_of_joined_eq (by rfl : " | ".toList = [] ++ ' ' :: ['|', ' ']) List.not_mem_nil
      (List.forall_mem_map.2 spelled.sides) (List.forall_mem_map.2 otherSpelled.sides)
      (String.toList_inj.1 (List.append_cancel_right behindLeft))
  have sides : group.2.toList = other.2.toList := by
    refine eq_of_map_eq (fun side member otherSide otherMember same => ?_) texts
    rw [← spelled.readBack side member, ← otherSpelled.readBack otherSide otherMember, same]
  exact Prod.ext (Symbol.text_injective (String.toList_inj.1 lefts)) (OrderedSet.ext sides)

theorem isLine_listingLine (spelled : SpelledOn group) :
    (listingLine group.1 group.2).IsLine := by
  have left := Text.newline_not_mem_of_isToken spelled.left
  have sides : ¬ '\n' ∈
      [' ', '|', ' '].intercalate (group.2.toList.map (String.toList ∘ RightSide.text)) :=
    Text.newline_not_mem_intercalate (by decide) (List.forall_mem_map.2 spelled.sides)
  apply Piece.isLine_line
  simp [production, ToString.toString, left, sides]

theorem Readable.isLine_of_mem_listing (readable : grammar.Readable)
    (formed : grammar.WellFormed) : ∀ piece ∈ grammar.listing, piece.IsLine := by
  have nonTerminals := Layout.newline_not_mem_joined " " (by decide)
    fun symbol declared => readable.isToken symbol (Or.inr declared)
  have terminals := Layout.newline_not_mem_joined " " (by decide)
    fun symbol declared => readable.isToken symbol (Or.inl declared)
  have start :=
    Text.newline_not_mem_of_isToken (readable.isToken _ (Or.inr formed.start_mem))
  simp only [listing, List.forall_mem_append, List.forall_mem_cons, List.forall_mem_map]
  refine ⟨⟨Piece.isLine_line ?_, Piece.isLine_line ?_, Piece.isLine_line ?_,
    Piece.isLine_line ?_, List.forall_mem_nil _⟩,
    fun group listed => isLine_listingLine (readable.spelledOn formed listed)⟩
  · simp [nonTerminals]
  · simp [terminals]
  · simp [ToString.toString, start]
  · decide

theorem Readable.eq_of_text_listing_eq (readable : first.Readable) (formed : first.WellFormed)
    (otherReadable : second.Readable) (otherFormed : second.WellFormed)
    (same : first.listing.text = second.listing.text) : first = second := by
  have lines := Document.map_text_eq_of_text_eq (readable.isLine_of_mem_listing formed)
    (otherReadable.isLine_of_mem_listing otherFormed) same
  simp only [listing, List.map_cons, List.cons_append, List.nil_append, List.cons.injEq,
    Piece.line, List.map_map, String.append_left_inj, String.append_right_inj] at lines
  obtain ⟨nonTerminals, terminals, starts, -, groups⟩ := lines
  have sameNonTerminals := Symbol.eq_of_joined_space_eq
    (fun symbol declared => readable.isToken symbol (Or.inr declared))
    (fun symbol declared => otherReadable.isToken symbol (Or.inr declared)) nonTerminals
  have sameTerminals := Symbol.eq_of_joined_space_eq
    (fun symbol declared => readable.isToken symbol (Or.inl declared))
    (fun symbol declared => otherReadable.isToken symbol (Or.inl declared)) terminals
  have sameGroups := eq_of_map_eq (fun group listed other otherListed =>
    eq_of_text_listingLine_eq (readable.spelledOn formed listed)
      (otherReadable.spelledOn otherFormed otherListed)) groups
  cases first
  cases second
  rw [Grammar.mk.injEq]
  exact ⟨OrderedSet.ext sameNonTerminals, OrderedSet.ext sameTerminals, Grouping.ext sameGroups,
    Symbol.text_injective starts⟩

end Grammar

/-- What has been read can be told from its listing, with the order of everything in it,
whatever punctuation its names look like. -/
theorem listing_unambiguous :
    (∀ (text other : String) (first second : Automaton),
        Automaton.read text = .ok first → Automaton.read other = .ok second →
          first.listing.text = second.listing.text → first = second) ∧
      ∀ (text other : String) (first second : Grammar),
        Grammar.read text = .ok first → Grammar.read other = .ok second →
          first.listing.text = second.listing.text → first = second := by
  constructor
  · intro text other first second described otherDescribed
    exact (Automaton.readable_of_read described).eq_of_text_listing_eq
      (Automaton.wellFormed_of_read described) (Automaton.readable_of_read otherDescribed)
      (Automaton.wellFormed_of_read otherDescribed)
  · intro text other first second described otherDescribed
    exact (Grammar.readable_of_read described).eq_of_text_listing_eq
      (Grammar.wellFormed_of_read described) (Grammar.readable_of_read otherDescribed)
      (Grammar.wellFormed_of_read otherDescribed)

namespace Automaton

/-- An automaton whose names are the punctuation of its listing. -/
def unpunctuated : Automaton :=
  .ofLists [⟨"delta("⟩, ⟨"\x7b"⟩, ⟨"="⟩] [⟨","⟩, ⟨")"⟩, ⟨"a,"⟩]
    [((⟨"\x7b"⟩, ⟨","⟩), [⟨"delta("⟩, ⟨"="⟩]), ((⟨"delta("⟩, ⟨")"⟩), [⟨"\x7b"⟩])]
    ⟨"delta("⟩ [⟨"\x7b"⟩]

def unpunctuatedText : String :=
  "delta( \x7b =\n, ) a,\ndelta(\n\x7b\n\x7b , delta(\n\x7b , =\ndelta( ) \x7b\n"

/-- The same with other blanks and its transitions in another order. -/
def unpunctuatedRelaid : String :=
  "delta(  \x7b\t=\r\n, ) a,\n delta(\n\x7b\n\n\x7b , delta(\ndelta( ) \x7b\n\x7b , ="

end Automaton

namespace Grammar

/-- A grammar whose names are the punctuation of its listing. -/
def unpunctuated : Grammar :=
  .ofLists [⟨"->"⟩, ⟨"|"⟩] [⟨"|"⟩, ⟨"a"⟩]
    [(⟨"->"⟩, [.symbols [⟨"|"⟩], .symbols [⟨"a"⟩, ⟨"|"⟩]]), (⟨"|"⟩, [.symbols [⟨"a"⟩]])] ⟨"->"⟩

def unpunctuatedText : String := "-> |\n| a\n->\n-> | a|\n| a"

/-- The same with other blanks and its productions on other lines. -/
def unpunctuatedRelaid : String := "-> | ->\n|\ta\n->\n-> |\n\n| a\n-> a| |"

end Grammar

theorem unpunctuated_listed :
    (∃ first second, Automaton.read Automaton.unpunctuatedText = .ok first ∧
      Automaton.read Automaton.unpunctuatedRelaid = .ok second ∧
      first.listing.text =
        "States: delta( \x7b =\nAlphabet: , ) a,\nInitial state: delta(\nFinal states: \x7b\n" ++
          "Transitions:\n  delta(\x7b, ,) = \x7bdelta(, =\x7d\n  delta(delta(, )) = \x7b\x7b\x7d\n" ∧
      first.listing.text = second.listing.text ∧ first = second) ∧
    ∃ first second, Grammar.read Grammar.unpunctuatedText = .ok first ∧
      Grammar.read Grammar.unpunctuatedRelaid = .ok second ∧
      first.listing.text = "Non-terminals: -> |\nTerminals: | a\nStarting symbol: ->\n" ++
        "Productions:\n  -> -> | | a|\n  | -> a\n" ∧
      first.listing.text = second.listing.text ∧ first = second := by
  constructor
  · have described : Automaton.read Automaton.unpunctuatedText = .ok .unpunctuated := by rfl
    have again : Automaton.read Automaton.unpunctuatedRelaid = .ok .unpunctuated := by rfl
    exact ⟨_, _, described, again, by rfl, rfl,
      listing_unambiguous.1 _ _ _ _ described again rfl⟩
  · have described : Grammar.read Grammar.unpunctuatedText = .ok .unpunctuated := by rfl
    have again : Grammar.read Grammar.unpunctuatedRelaid = .ok .unpunctuated := by rfl
    exact ⟨_, _, described, again, by rfl, rfl,
      listing_unambiguous.2 _ _ _ _ described again rfl⟩

/-- A name with a space in it is listed like two names. -/
example :
    let joined := Automaton.ofLists [⟨"p"⟩, ⟨"q r"⟩] [] [] ⟨"p"⟩ []
    let apart := Automaton.ofLists [⟨"p"⟩, ⟨"q"⟩, ⟨"r"⟩] [] [] ⟨"p"⟩ []
    joined.defect? = none ∧ apart.defect? = none ∧ joined.listing = apart.listing ∧
      joined ≠ apart :=
  ⟨by decide, by decide, rfl, by decide⟩

end RightLinear
