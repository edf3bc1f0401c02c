import Mathlib.Logic.Relation
import RightLinear.Grammar.Basic
import RightLinear.Grammar.Language
import RightLinear.Proofs.Grouping

/-! # Productions and derivations

A production is an alternative together with the symbol that it replaces. In a well-formed
grammar that symbol is a non-terminal and the alternative uses declared symbols only.

The search for derivations keeps all that can be pending after a word and never asks which
symbols are terminals. `Produces` is one thread of this search. A thread that has left the
right-linear forms waits for a symbol that nothing replaces, so it ends nowhere: over the
terminals of a well-formed grammar, the search finds exactly the words that right-linear
derivations lead to, and alternatives of other forms do not matter.
-/

namespace RightLinear
namespace Grammar

variable {grammar : Grammar}

section Productions

variable {left : Symbol} {side : RightSide}

theorem mem_alternatives_iff_exists_group :
    side ∈ grammar.alternatives left ↔
      ∃ group ∈ grammar.productions.groups, group.1 = left ∧ side ∈ group.2 :=
  Grouping.mem_values_iff_exists_group

theorem mem_alternatives_of_mem_group {group : Symbol × OrderedSet RightSide}
    (listed : group ∈ grammar.productions.groups) (member : side ∈ group.2) :
    side ∈ grammar.alternatives group.1 :=
  mem_alternatives_iff_exists_group.2 ⟨group, listed, rfl, member⟩

theorem forall_group_iff {property : Symbol → RightSide → Prop} :
    (∀ group ∈ grammar.productions.groups, ∀ side ∈ group.2, property group.1 side) ↔
      ∀ left, ∀ side ∈ grammar.alternatives left, property left side := by
  constructor
  · intro holds left side production
    obtain ⟨group, listed, same, member⟩ := mem_alternatives_iff_exists_group.1 production
    exact same ▸ holds group listed side member
  · intro holds group listed side member
    exact holds group.1 side (mem_alternatives_of_mem_group listed member)

theorem WellFormed.left_mem (formed : grammar.WellFormed)
    (production : side ∈ grammar.alternatives left) : left ∈ grammar.nonTerminals := by
  obtain ⟨group, listed, same, _⟩ := mem_alternatives_iff_exists_group.1 production
  exact same ▸ formed.keys_mem group listed

theorem WellFormed.admits_of_mem (formed : grammar.WellFormed)
    (production : side ∈ grammar.alternatives left) : grammar.Admits side := by
  obtain ⟨group, listed, _, member⟩ := mem_alternatives_iff_exists_group.1 production
  exact formed.admits group listed side member

end Productions

/-- A word is produced letter by letter from what is pending at first, and
something is pending behind it. -/
inductive Produces (grammar : Grammar) : Pending → Word → Pending → Prop
  | here (pending : Pending) : Produces grammar pending [] pending
  | step {left letter : Symbol} {next rest : Pending} {word : Word}
      (production : .symbols (letter :: next.toList) ∈ grammar.alternatives left)
      (later : Produces grammar next word rest) :
      Produces grammar (some left) (letter :: word) rest

theorem produces_nil_iff {pending rest : Pending} :
    grammar.Produces pending [] rest ↔ pending = rest := by
  constructor
  · intro run
    cases run
    rfl
  · rintro rfl
    exact .here pending

theorem produces_cons_iff {left letter : Symbol} {word : Word} {rest : Pending} :
    grammar.Produces (some left) (letter :: word) rest ↔
      ∃ next : Pending, .symbols (letter :: next.toList) ∈ grammar.alternatives left ∧
        grammar.Produces next word rest := by
  constructor
  · intro run
    cases run with
    | step production later => exact ⟨_, production, later⟩
  · rintro ⟨next, production, later⟩
    exact .step production later

theorem not_produces_none_cons {letter : Symbol} {word : Word} {rest : Pending} :
    ¬ grammar.Produces none (letter :: word) rest := by
  intro run
  cases run

/-- Reading a word from several pending symbols follows all threads at once. -/
theorem mem_foldl_advance {waiting : OrderedSet Pending} {word : Word} {rest : Pending} :
    rest ∈ word.foldl grammar.advance waiting ↔
      ∃ pending ∈ waiting, grammar.Produces pending word rest := by
  induction word generalizing waiting with
  | nil => simp [produces_nil_iff]
  | cons letter word induction =>
      rw [List.foldl_cons, induction]
      constructor
      · rintro ⟨next, reached, later⟩
        obtain ⟨left, member, production⟩ := mem_advance.1 reached
        exact ⟨some left, member, .step production later⟩
      · rintro ⟨pending, member, run⟩
        cases run with
        | step production later =>
            exact ⟨_, mem_advance.2 ⟨_, member, production⟩, later⟩

theorem mem_frontier {word : Word} {rest : Pending} :
    rest ∈ grammar.frontier word ↔ grammar.Produces (some grammar.start) word rest := by
  rw [frontier, mem_foldl_advance]
  simp

/-- A word is generated if some thread that produces it can end. -/
theorem generates_iff_exists_produces {word : Word} :
    grammar.generates word = true ↔
      ∃ rest, grammar.Produces (some grammar.start) word rest ∧ grammar.ends rest = true := by
  simp only [generates, List.any_eq_true, OrderedSet.mem_toList, mem_frontier]

theorem generates_nil_iff :
    grammar.generates [] = true ↔ .epsilon ∈ grammar.alternatives grammar.start := by
  simp [generates_iff_exists_produces, produces_nil_iff, ends]

/-- A word that can take the place of what is pending. -/
def Completes (grammar : Grammar) : Pending → Word → Prop
  | none, word => word = []
  | some left, word => grammar.Derives left word

theorem derives_nil_iff {left : Symbol} :
    grammar.Derives left [] ↔ .epsilon ∈ grammar.alternatives left := by
  constructor
  · intro derivation
    cases derivation with
    | stop production => exact production
  · exact .stop

theorem derives_cons_iff {left letter : Symbol} {word : Word} :
    grammar.Derives left (letter :: word) ↔
      ∃ next : Pending, .symbols (letter :: next.toList) ∈ grammar.alternatives left ∧
        letter ∈ grammar.terminals ∧ (∀ symbol ∈ next, symbol ∈ grammar.nonTerminals) ∧
          grammar.Completes next word := by
  constructor
  · intro derivation
    cases derivation with
    | last production isTerminal => exact ⟨none, production, isTerminal, by simp, rfl⟩
    | @step _ _ next _ production isTerminal isNonTerminal rest =>
        exact ⟨some next, production, isTerminal, by simpa using isNonTerminal, rest⟩
  · rintro ⟨next, production, isTerminal, declared, completed⟩
    cases next with
    | none =>
        cases completed
        exact .last production isTerminal
    | some symbol => exact .step production isTerminal (declared symbol rfl) completed

theorem WellFormed.left_mem_of_derives (formed : grammar.WellFormed) {left : Symbol} {word : Word}
    (derivation : grammar.Derives left word) : left ∈ grammar.nonTerminals := by
  cases derivation with
  | stop production => exact formed.left_mem production
  | last production => exact formed.left_mem production
  | step production => exact formed.left_mem production

/-- The threads of the search that can end are the right-linear derivations. A
symbol that a derivation goes on from is a non-terminal, because it is replaced. -/
theorem completes_iff_exists_produces (formed : grammar.WellFormed) {pending : Pending}
    {word : Word} (letters : ∀ letter ∈ word, letter ∈ grammar.terminals) :
    grammar.Completes pending word ↔
      ∃ rest, grammar.Produces pending word rest ∧ grammar.ends rest = true := by
  induction word generalizing pending with
  | nil =>
      simp only [produces_nil_iff, exists_eq_left']
      cases pending with
      | none => simp [Completes, ends]
      | some left => simp [Completes, ends, derives_nil_iff]
  | cons letter word induction =>
      have isTerminal : letter ∈ grammar.terminals := letters letter (by simp)
      have later : ∀ other ∈ word, other ∈ grammar.terminals :=
        fun other member => letters other (by simp [member])
      cases pending with
      | none => simp [Completes, not_produces_none_cons]
      | some left =>
          rw [Completes, derives_cons_iff]
          constructor
          · rintro ⟨next, production, _, _, completed⟩
            obtain ⟨rest, run, ending⟩ := (induction later).1 completed
            exact ⟨rest, .step production run, ending⟩
          · rintro ⟨rest, run, ending⟩
            obtain ⟨next, production, run⟩ := produces_cons_iff.1 run
            have completed := (induction later).2 ⟨rest, run, ending⟩
            refine ⟨next, production, isTerminal, ?_, completed⟩
            intro symbol waits
            cases waits
            exact formed.left_mem_of_derives completed

end Grammar
end RightLinear
