import RightLinear.Proofs.Grammar.Derivation

/-! # Derivations step by step

A stage of a derivation is a produced word with something pending behind it.
Each step replaces the pending non-terminal by one of its alternatives that has
a right-linear form. Over the terminals of a well-formed grammar, the search
finds a word exactly if such steps lead from the start to it. Two well-formed
grammars that differ in unusable alternatives only generate the same words.
-/

namespace RightLinear
namespace Grammar

open Relation

variable {grammar : Grammar}

/-- The word produced so far, and what is pending behind it. -/
abbrev Stage := Word × Pending

/-- Replaces what is pending by an alternative of a right-linear form. -/
inductive Rewrites (grammar : Grammar) : Stage → Stage → Prop
  | stop {produced : Word} {left : Symbol}
      (production : .epsilon ∈ grammar.alternatives left) :
      Rewrites grammar (produced, some left) (produced, none)
  | last {produced : Word} {left letter : Symbol}
      (production : .symbols [letter] ∈ grammar.alternatives left)
      (isTerminal : letter ∈ grammar.terminals) :
      Rewrites grammar (produced, some left) (produced ++ [letter], none)
  | step {produced : Word} {left letter next : Symbol}
      (production : .symbols [letter, next] ∈ grammar.alternatives left)
      (isTerminal : letter ∈ grammar.terminals)
      (isNonTerminal : next ∈ grammar.nonTerminals) :
      Rewrites grammar (produced, some left) (produced ++ [letter], some next)

theorem reflTransGen_rewrites_of_derives {left : Symbol} {word : Word}
    (derivation : grammar.Derives left word) (produced : Word) :
    ReflTransGen grammar.Rewrites (produced, some left) (produced ++ word, none) := by
  induction derivation generalizing produced with
  | stop production =>
      rw [List.append_nil]
      exact .single (.stop production)
  | last production isTerminal => exact .single (.last production isTerminal)
  | @step left letter next word production isTerminal isNonTerminal _ induction =>
      have first : grammar.Rewrites (produced, some left) (produced ++ [letter], some next) :=
        .step production isTerminal isNonTerminal
      have later := induction (produced ++ [letter])
      rw [List.append_assoc, List.singleton_append] at later
      exact .head first later

/-- Steps that leave nothing pending have completed what was pending. -/
theorem exists_completes_of_reflTransGen {stage : Stage} {whole : Word}
    (steps : ReflTransGen grammar.Rewrites stage (whole, none)) :
    ∃ word, stage.1 ++ word = whole ∧ grammar.Completes stage.2 word := by
  -- The first step is taken off: what follows it completes what it left pending.
  induction steps using ReflTransGen.head_induction_on with
  | refl => exact ⟨[], List.append_nil whole, rfl⟩
  | head first _ induction =>
      obtain ⟨word, whole_eq, completed⟩ := induction
      cases first with
      | stop production =>
          cases completed
          exact ⟨[], whole_eq, .stop production⟩
      | @last produced left letter production isTerminal =>
          cases completed
          rw [List.append_nil] at whole_eq
          exact ⟨[letter], whole_eq, .last production isTerminal⟩
      | @step produced left letter next production isTerminal isNonTerminal =>
          rw [List.append_assoc, List.singleton_append] at whole_eq
          exact ⟨letter :: word, whole_eq, .step production isTerminal isNonTerminal completed⟩

theorem derives_iff_reflTransGen {left : Symbol} {word : Word} :
    grammar.Derives left word ↔
      ReflTransGen grammar.Rewrites ([], some left) (word, none) := by
  constructor
  · intro derivation
    exact reflTransGen_rewrites_of_derives derivation []
  · intro steps
    obtain ⟨completion, whole_eq, completed⟩ := exists_completes_of_reflTransGen steps
    rw [List.nil_append] at whole_eq
    exact whole_eq ▸ completed

theorem generates_iff_derives (formed : grammar.WellFormed) {word : Word}
    (letters : ∀ letter ∈ word, letter ∈ grammar.terminals) :
    grammar.generates word = true ↔ grammar.Derives grammar.start word := by
  rw [generates_iff_exists_produces, ← completes_iff_exists_produces formed letters]
  rfl

/-- The forms of an alternative that can stand in a step: nothing, a terminal, or a
terminal and a non-terminal. -/
def Usable (grammar : Grammar) : RightSide → Prop
  | .epsilon => True
  | .symbols [letter] => letter ∈ grammar.terminals
  | .symbols [letter, next] => letter ∈ grammar.terminals ∧ next ∈ grammar.nonTerminals
  | _ => False

instance (grammar : Grammar) (side : RightSide) : Decidable (grammar.Usable side) :=
  match side with
  | .epsilon => isTrue trivial
  | .symbols [] => isFalse id
  | .symbols [letter] => inferInstanceAs (Decidable (letter ∈ grammar.terminals))
  | .symbols [letter, next] =>
      inferInstanceAs (Decidable (letter ∈ grammar.terminals ∧ next ∈ grammar.nonTerminals))
  | .symbols (_ :: _ :: _ :: _) => isFalse id

/-- The same declared symbols, the same start and the same usable alternatives. -/
structure SameUsable (first second : Grammar) : Prop where
  start : first.start = second.start
  terminals : first.terminals.Same second.terminals
  nonTerminals : first.nonTerminals.Same second.nonTerminals
  alternatives : ∀ left side, first.Usable side →
    (side ∈ first.alternatives left ↔ side ∈ second.alternatives left)

namespace SameUsable

variable {first second : Grammar}

theorem usable_iff (same : first.SameUsable second) {side : RightSide} :
    first.Usable side ↔ second.Usable side := by
  have terminals := OrderedSet.same_iff.1 same.terminals
  have nonTerminals := OrderedSet.same_iff.1 same.nonTerminals
  match side with
  | .epsilon => exact Iff.rfl
  | .symbols [] => exact Iff.rfl
  | .symbols [letter] => exact terminals letter
  | .symbols [letter, next] => exact and_congr (terminals letter) (nonTerminals next)
  | .symbols (_ :: _ :: _ :: _) => exact Iff.rfl

theorem symm (same : first.SameUsable second) : second.SameUsable first where
  start := same.start.symm
  terminals := ⟨same.terminals.2, same.terminals.1⟩
  nonTerminals := ⟨same.nonTerminals.2, same.nonTerminals.1⟩
  alternatives left side usable :=
    (same.alternatives left side (same.usable_iff.2 usable)).symm

theorem derives (same : first.SameUsable second) {left : Symbol} {word : Word}
    (derivation : first.Derives left word) : second.Derives left word := by
  have terminals := OrderedSet.same_iff.1 same.terminals
  have nonTerminals := OrderedSet.same_iff.1 same.nonTerminals
  induction derivation with
  | @stop left production =>
      have usable : first.Usable .epsilon := trivial
      exact .stop ((same.alternatives left _ usable).1 production)
  | @last left letter production isTerminal =>
      have usable : first.Usable (.symbols [letter]) := isTerminal
      have shared := (same.alternatives left _ usable).1 production
      exact .last shared ((terminals letter).1 isTerminal)
  | @step left letter next word production isTerminal isNonTerminal _ induction =>
      have usable : first.Usable (.symbols [letter, next]) := ⟨isTerminal, isNonTerminal⟩
      have shared := (same.alternatives left _ usable).1 production
      exact .step shared ((terminals letter).1 isTerminal) ((nonTerminals next).1 isNonTerminal)
        induction

/-- Alternatives that no step can use do not change what is generated. -/
theorem generates_eq (same : first.SameUsable second) (firstFormed : first.WellFormed)
    (secondFormed : second.WellFormed) {word : Word}
    (letters : ∀ letter ∈ word, letter ∈ first.terminals) :
    second.generates word = first.generates word := by
  have shared : ∀ letter ∈ word, letter ∈ second.terminals :=
    fun letter member => same.terminals.1 letter (letters letter member)
  rw [Bool.eq_iff_iff, generates_iff_derives secondFormed shared,
    generates_iff_derives firstFormed letters, ← same.start]
  exact ⟨same.symm.derives, same.derives⟩

end SameUsable

/-- The grammar with its usable alternatives only. -/
def usablePart (grammar : Grammar) : Grammar where
  nonTerminals := grammar.nonTerminals
  terminals := grammar.terminals
  productions := .ofList ((grammar.productions.pairs.filter fun production =>
    grammar.Usable production.2).map fun production => (production.1, [production.2]))
  start := grammar.start

theorem mem_alternatives_usablePart {left : Symbol} {side : RightSide} :
    side ∈ grammar.usablePart.alternatives left ↔
      side ∈ grammar.alternatives left ∧ grammar.Usable side := by
  rw [alternatives, usablePart, Grouping.mem_values_ofList_singletons, List.mem_filter,
    Grouping.mem_pairs, decide_eq_true_iff]
  rfl

theorem sameUsable_usablePart : grammar.SameUsable grammar.usablePart where
  start := rfl
  terminals := OrderedSet.same_iff.2 fun _ => Iff.rfl
  nonTerminals := OrderedSet.same_iff.2 fun _ => Iff.rfl
  alternatives := by
    intro left side usable
    rw [mem_alternatives_usablePart]
    exact ⟨fun production => ⟨production, usable⟩, And.left⟩

theorem wellFormed_usablePart (formed : grammar.WellFormed) : grammar.usablePart.WellFormed where
  start_mem := formed.start_mem
  keys_mem := by
    intro group listed
    obtain ⟨step, inSteps, key⟩ := Grouping.exists_step_of_mem_groups listed
    obtain ⟨⟨left, side⟩, kept, rfl⟩ := List.mem_map.1 inSteps
    have production := Grouping.mem_pairs.1 (List.mem_filter.1 kept).1
    exact key ▸ formed.left_mem production
  admits := by
    intro group listed side member
    have production := mem_alternatives_of_mem_group listed member
    exact formed.admits_of_mem (mem_alternatives_usablePart.1 production).1

/-- A word over the terminals is generated exactly if steps lead from the start to
it, whatever other alternatives the grammar has. -/
theorem generates_iff_rewrites (formed : grammar.WellFormed) {word : Word}
    (letters : ∀ letter ∈ word, letter ∈ grammar.terminals) :
    (grammar.generates word = true ↔
        ReflTransGen grammar.Rewrites ([], some grammar.start) (word, none)) ∧
      ∀ other : Grammar, other.WellFormed → grammar.SameUsable other →
        other.generates word = grammar.generates word := by
  constructor
  · rw [generates_iff_derives formed letters, derives_iff_reflTransGen]
  · intro other otherFormed same
    exact same.generates_eq formed otherFormed letters

/-- A grammar with a name that is terminal and non-terminal, the empty word off the
start, and alternatives of all unusable forms. -/
def crowded : Grammar :=
  .ofLists [⟨"S"⟩, ⟨"A"⟩, ⟨"x"⟩] [⟨"a"⟩, ⟨"x"⟩]
    [(⟨"S"⟩, [.symbols [⟨"a"⟩, ⟨"A"⟩], .symbols [⟨"A"⟩], .symbols [⟨"A"⟩, ⟨"x"⟩]]),
      (⟨"A"⟩, [.epsilon, .symbols [⟨"x"⟩, ⟨"S"⟩], .symbols [⟨"a"⟩, ⟨"a"⟩],
        .symbols [⟨"a"⟩, ⟨"x"⟩, ⟨"A"⟩]])]
    ⟨"S"⟩

theorem crowded_rewrites_axa :
    crowded.WellFormed ∧ (∀ letter ∈ Word.ofText "axa", letter ∈ crowded.terminals) ∧
      ReflTransGen crowded.Rewrites ([], some crowded.start) (Word.ofText "axa", none) ∧
        crowded.usablePart ≠ crowded ∧
          crowded.usablePart.generates (Word.ofText "axa") = true := by
  have formed : crowded.WellFormed := defect?_eq_none_iff.1 (by decide)
  have letters : ∀ letter ∈ Word.ofText "axa", letter ∈ crowded.terminals := by decide
  have generated : crowded.generates (Word.ofText "axa") = true := by decide
  have decided := generates_iff_rewrites formed letters
  have unchanged := decided.2 crowded.usablePart (wellFormed_usablePart formed)
    sameUsable_usablePart
  exact ⟨formed, letters, decided.1.1 generated, by decide, unchanged.trans generated⟩

end Grammar
end RightLinear
