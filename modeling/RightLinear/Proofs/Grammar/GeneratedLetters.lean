import RightLinear.Proofs.Grammar.Regular
import RightLinear.Proofs.Grammar.Rewriting

/-! # The letters of generated words

The search takes the first symbol of an alternative for a letter without asking whether it
is a terminal. So a lone or leading non-terminal can produce itself, and a generated word
need not consist of terminals. It does if every alternative that takes part in generating
some word begins with a terminal, and only then; the words of right-linear derivations are
exactly the generated words over the terminals.
-/

namespace RightLinear
namespace Grammar

variable {grammar : Grammar} {letter : Symbol} {word : Word}

theorem Produces.append {first middle rest : Pending} {before after : Word}
    (run : grammar.Produces first before middle) (later : grammar.Produces middle after rest) :
    grammar.Produces first (before ++ after) rest := by
  induction run with
  | here _ => exact later
  | step production _ induction => exact .step production (induction later)

/-- An alternative of one or two symbols takes part in generating a word if the symbol that
it replaces is pending behind some word, and if the search can end from what it leaves
pending. -/
structure TakesPart (grammar : Grammar) (left letter : Symbol) (next : Pending) : Prop where
  production : .symbols (letter :: next.toList) ∈ grammar.alternatives left
  reached : ∃ before, grammar.Produces (some grammar.start) before (some left)
  completed : ∃ after rest, grammar.Produces next after rest ∧ grammar.ends rest = true

/-- Each letter behind what has been produced comes from an alternative that takes part. -/
theorem Produces.exists_takesPart {pending rest : Pending} {before after : Word}
    (run : grammar.Produces pending after rest)
    (reached : grammar.Produces (some grammar.start) before pending)
    (ending : grammar.ends rest = true) (member : letter ∈ after) :
    ∃ left next, grammar.TakesPart left letter next := by
  induction run generalizing before with
  | here _ => exact absurd member List.not_mem_nil
  | @step left first next rest after production later induction =>
      rcases List.mem_cons.1 member with same | behind
      · rw [same]
        exact ⟨left, next, production, ⟨before, reached⟩, after, rest, later, ending⟩
      · have further : grammar.Produces (some grammar.start) (before ++ [first]) next :=
          reached.append (.step production (.here next))
        exact induction further ending behind

/-- The letters of generated words are the first symbols of alternatives that take part. -/
theorem exists_generated_iff_exists_takesPart :
    (∃ word, grammar.generates word = true ∧ letter ∈ word) ↔
      ∃ left next, grammar.TakesPart left letter next := by
  constructor
  · intro generated
    obtain ⟨word, generated, member⟩ := generated
    obtain ⟨rest, run, ending⟩ := generates_iff_exists_produces.1 generated
    exact run.exists_takesPart (.here _) ending member
  · intro takesPart
    obtain ⟨left, next, production, ⟨before, reached⟩, after, rest, completed, ending⟩ := takesPart
    have run := reached.append (.step production completed)
    exact ⟨before ++ letter :: after, generates_iff_exists_produces.2 ⟨rest, run, ending⟩, by simp⟩

theorem forall_generated_terminal_iff :
    (∀ word, grammar.generates word = true → ∀ letter ∈ word, letter ∈ grammar.terminals) ↔
      ∀ left letter next, grammar.TakesPart left letter next → letter ∈ grammar.terminals := by
  constructor
  · intro within left letter next takesPart
    obtain ⟨word, generated, member⟩ :=
      exists_generated_iff_exists_takesPart.2 ⟨left, next, takesPart⟩
    exact within word generated letter member
  · intro led word generated letter member
    obtain ⟨left, next, takesPart⟩ :=
      exists_generated_iff_exists_takesPart.1 ⟨word, generated, member⟩
    exact led left letter next takesPart

theorem WellFormed.declares_of_generates (formed : grammar.WellFormed)
    (generated : grammar.generates word = true) (member : letter ∈ word) :
    grammar.Declares letter := by
  obtain ⟨left, next, takesPart⟩ :=
    exists_generated_iff_exists_takesPart.1 ⟨word, generated, member⟩
  have admitted := formed.admits_of_mem takesPart.production
  exact admitted.2 letter List.mem_cons_self

theorem Derives.mem_terminals {left : Symbol} (derivation : grammar.Derives left word)
    (member : letter ∈ word) : letter ∈ grammar.terminals := by
  induction derivation with
  | stop _ => exact absurd member List.not_mem_nil
  | last _ isTerminal =>
      rw [List.mem_singleton.1 member]
      exact isTerminal
  | step _ isTerminal _ _ induction =>
      rcases List.mem_cons.1 member with same | behind
      · rw [same]
        exact isTerminal
      · exact induction behind

theorem derives_iff_generates_and_terminals (formed : grammar.WellFormed) :
    grammar.Derives grammar.start word ↔
      grammar.generates word = true ∧ ∀ letter ∈ word, letter ∈ grammar.terminals := by
  constructor
  · intro derivation
    have letters : ∀ letter ∈ word, letter ∈ grammar.terminals :=
      fun letter member => derivation.mem_terminals member
    exact ⟨(generates_iff_derives formed letters).2 derivation, letters⟩
  · intro generated
    exact (generates_iff_derives formed generated.2).1 generated.1

theorem TakesPart.mem_terminals_of_isRightLinear (formed : grammar.WellFormed)
    (rightLinear : grammar.isRightLinear = true) {left : Symbol} {next : Pending}
    (takesPart : grammar.TakesPart left letter next) : letter ∈ grammar.terminals := by
  have shaped := (isRightLinear_iff formed).1 rightLinear left _ takesPart.production
  cases next with
  | none => exact shaped.1
  | some symbol => exact shaped.1.1

/-- Which letters a well-formed grammar generates. They are declared, and they are terminals
exactly if all alternatives that take part begin with one, as those of a right-linear
grammar do. Within the terminals the generated words are those that can be derived. -/
theorem generated_letters_terminal_iff (formed : grammar.WellFormed) :
    (∀ word, grammar.generates word = true → ∀ letter ∈ word, grammar.Declares letter) ∧
      ((∀ word, grammar.generates word = true → ∀ letter ∈ word, letter ∈ grammar.terminals) ↔
        ∀ left letter next, grammar.TakesPart left letter next → letter ∈ grammar.terminals) ∧
      (∀ word, grammar.Derives grammar.start word ↔
        grammar.generates word = true ∧ ∀ letter ∈ word, letter ∈ grammar.terminals) ∧
      (grammar.isRightLinear = true →
        ∀ word, grammar.generates word = true → ∀ letter ∈ word, letter ∈ grammar.terminals) := by
  refine ⟨?_, forall_generated_terminal_iff, fun _ => derives_iff_generates_and_terminals formed,
    ?_⟩
  · intro word generated letter member
    exact formed.declares_of_generates generated member
  · intro rightLinear
    apply forall_generated_terminal_iff.2
    intro left letter next takesPart
    exact takesPart.mem_terminals_of_isRightLinear formed rightLinear

/-- A grammar that is not right-linear: behind the leading non-terminal of its start stands a
symbol that nothing replaces. -/
def sidelined : Grammar :=
  .ofLists [⟨"S"⟩, ⟨"A"⟩, ⟨"C"⟩] [⟨"a"⟩, ⟨"b"⟩]
    [(⟨"S"⟩, [.symbols [⟨"a"⟩, ⟨"S"⟩], .symbols [⟨"b"⟩], .symbols [⟨"A"⟩, ⟨"C"⟩]])] ⟨"S"⟩

theorem sidelined_generated_letters_terminal :
    sidelined.WellFormed ∧ sidelined.isRightLinear = false ∧
      sidelined.generates (Word.ofText "aab") = true ∧
      ∀ word, sidelined.generates word = true → ∀ letter ∈ word, letter ∈ sidelined.terminals := by
  have formed : sidelined.WellFormed := defect?_eq_none_iff.1 (by decide)
  refine ⟨formed, by decide, by decide, (generated_letters_terminal_iff formed).2.1.2 ?_⟩
  intro left letter next takesPart
  obtain ⟨production, _, after, rest, completed, ending⟩ := takesPart
  have listed := Grouping.mem_pairs.2 production
  have all : sidelined.productions.pairs = [(⟨"S"⟩, .symbols [⟨"a"⟩, ⟨"S"⟩]),
      (⟨"S"⟩, .symbols [⟨"b"⟩]), (⟨"S"⟩, .symbols [⟨"A"⟩, ⟨"C"⟩])] := by decide
  rw [all] at listed
  cases next with
  | none =>
      obtain ⟨_, rfl⟩ : left = ⟨"S"⟩ ∧ letter = ⟨"b"⟩ := by simpa using listed
      decide
  | some symbol =>
      simp only [Option.toList_some, List.mem_cons, Prod.mk.injEq, RightSide.symbols.injEq,
        List.cons.injEq, and_true, List.not_mem_nil, or_false] at listed
      rcases listed with ⟨_, rfl, _⟩ | ⟨_, _, impossible⟩ | ⟨_, _, rfl⟩
      · decide
      · exact nomatch impossible
      · -- Nothing replaces `C`, and it does not end a derivation.
        cases completed with
        | here _ => exact nomatch ending
        | step impossible _ => exact absurd impossible List.not_mem_nil

/-- A grammar whose start has a lone and a leading non-terminal. -/
def misled : Grammar :=
  .ofLists [⟨"S"⟩, ⟨"A"⟩, ⟨"B"⟩] [⟨"b"⟩]
    [(⟨"S"⟩, [.symbols [⟨"A"⟩], .symbols [⟨"A"⟩, ⟨"B"⟩]]), (⟨"B"⟩, [.symbols [⟨"b"⟩]])] ⟨"S"⟩

/-- A non-terminal that stands where a letter should be is taken for one. -/
theorem misled_generates_nonTerminal :
    misled.WellFormed ∧ misled.generates [⟨"A"⟩] = true ∧
      misled.generates [⟨"A"⟩, ⟨"b"⟩] = true ∧ ¬ ⟨"A"⟩ ∈ misled.terminals :=
  ⟨defect?_eq_none_iff.1 (by decide), by decide, by decide, by decide⟩

end Grammar
end RightLinear
