import RightLinear.Proofs.Grammar.Derivation
import RightLinear.Proofs.Grammar.Regular

/-! # Grammars within others

A grammar stands within another if they have the same start and if all alternatives of
the first are alternatives of the second. The second then generates whatever the first
does. Where both declare the same symbols, the first is regular if the second is: every
condition of regularity is one on the alternatives that there are.
-/

namespace RightLinear
namespace Grammar

/-- The same start, and all alternatives of the first grammar in the second. -/
structure Within (first second : Grammar) : Prop where
  start : first.start = second.start
  alternatives : ∀ left, ∀ side ∈ first.alternatives left, side ∈ second.alternatives left

variable {first second : Grammar}

theorem hasShape_congr (nonTerminals : first.nonTerminals.Same second.nonTerminals)
    (terminals : first.terminals.Same second.terminals) {side : RightSide} :
    first.HasShape side ↔ second.HasShape side := by
  have isLetter : ∀ symbol, first.IsLetter symbol ↔ second.IsLetter symbol := fun symbol =>
    and_congr (OrderedSet.same_iff.1 terminals symbol)
      (not_congr (OrderedSet.same_iff.1 nonTerminals symbol))
  have isVariable : ∀ symbol, first.IsVariable symbol ↔ second.IsVariable symbol := fun symbol =>
    and_congr (OrderedSet.same_iff.1 nonTerminals symbol)
      (not_congr (OrderedSet.same_iff.1 terminals symbol))
  simp only [hasShape_iff, isLetter, isVariable]

namespace Within

theorem produces (within : first.Within second) {pending rest : Pending} {word : Word}
    (run : first.Produces pending word rest) : second.Produces pending word rest := by
  induction run with
  | here pending => exact .here pending
  | step production _ induction => exact .step (within.alternatives _ _ production) induction

theorem ends (within : first.Within second) {pending : Pending}
    (ending : first.ends pending = true) : second.ends pending = true := by
  cases pending with
  | none => rfl
  | some symbol =>
      simp only [Grammar.ends, decide_eq_true_eq] at ending ⊢
      exact within.alternatives symbol _ ending

theorem generates (within : first.Within second) {word : Word}
    (generated : first.generates word = true) : second.generates word = true := by
  obtain ⟨rest, run, ending⟩ := generates_iff_exists_produces.1 generated
  have later := within.produces run
  rw [within.start] at later
  exact generates_iff_exists_produces.2 ⟨rest, later, within.ends ending⟩

theorem regular (within : first.Within second) {rule : EpsilonRule}
    (nonTerminals : first.nonTerminals.Same second.nonTerminals)
    (terminals : first.terminals.Same second.terminals) (regular : second.Regular rule) :
    first.Regular rule where
  shapes left side production :=
    (hasShape_congr nonTerminals terminals).2
      (regular.shapes left side (within.alternatives left side production))
  left_of_epsilon left production := by
    rw [within.start]
    exact regular.left_of_epsilon left (within.alternatives left _ production)
  start_unused := by
    intro strict produced left side production
    rw [within.start] at produced ⊢
    have produces := within.alternatives second.start _ produced
    exact regular.start_unused strict produces left side
      (within.alternatives left side production)

end Within

end Grammar
end RightLinear
