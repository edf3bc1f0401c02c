import RightLinear.Grammar.Language
import RightLinear.Grammar.Regular
import RightLinear.Proofs.Grammar.Derivation

/-! # Regularity without order

The rules are checked production by production, and the sequential one with a
memory. Yet whether a well-formed grammar passes is a matter of its alternatives
alone: where all shapes are right, the start is no alternative by itself, so
that the memory never decides.
-/

namespace RightLinear
namespace Grammar

variable {grammar : Grammar} {rule : EpsilonRule}

/-- Regularity under a rule, in terms of alternatives. -/
structure Regular (grammar : Grammar) (rule : EpsilonRule) : Prop where
  shapes : ∀ left, ∀ side ∈ grammar.alternatives left, grammar.HasShape side
  left_of_epsilon : ∀ left, .epsilon ∈ grammar.alternatives left → left = grammar.start
  start_unused : rule = .strict → .epsilon ∈ grammar.alternatives grammar.start →
    ∀ left, ∀ side ∈ grammar.alternatives left, ¬ grammar.start ∈ side.word

theorem groupShapeViolation?_eq_none_iff {group : Symbol × OrderedSet RightSide}
    (admitted : ∀ side ∈ group.2, grammar.Admits side) :
    grammar.groupShapeViolation? group = none ↔
      ∀ side ∈ group.2, grammar.HasShape side := by
  simp only [groupShapeViolation?, List.findSome?_eq_none_iff, Option.map_eq_none_iff]
  constructor
  · intro faultless side member
    exact (shapeFault?_eq_none_iff (admitted side member)).1 (faultless side member)
  · intro shaped side member
    exact (shapeFault?_eq_none_iff (admitted side member)).2 (shaped side member)

theorem shapeViolation?_eq_none_iff (formed : grammar.WellFormed) :
    grammar.shapeViolation? = none ↔
      ∀ left, ∀ side ∈ grammar.alternatives left, grammar.HasShape side := by
  rw [← forall_group_iff, shapeViolation?, List.findSome?_eq_none_iff]
  constructor
  · intro passed group listed
    exact (groupShapeViolation?_eq_none_iff (formed.admits group listed)).1 (passed group listed)
  · intro shaped group listed
    exact (groupShapeViolation?_eq_none_iff (formed.admits group listed)).2 (shaped group listed)

/-- Where no alternative is the start alone, the memory of the sequential rule has
nothing to object to. -/
theorem sequentialViolation?_eq_none_iff {start : Symbol} {seen : Bool}
    {groups : List (Symbol × OrderedSet RightSide)}
    (apart : ∀ group ∈ groups, ∀ side ∈ group.2, side.isExactly start = false) :
    sequentialViolation? start seen groups = none ↔
      ∀ group ∈ groups, .epsilon ∈ group.2 → group.1 = start := by
  induction groups generalizing seen with
  | nil => simp [sequentialViolation?]
  | cons group groups induction =>
      have laterApart : ∀ other ∈ groups, ∀ side ∈ other.2, side.isExactly start = false :=
        fun other listed => apart other (List.mem_cons_of_mem group listed)
      have unmatched : group.2.toList.find? (·.isExactly start) = none := by
        rw [List.find?_eq_none]
        intro side member
        simp [apart group List.mem_cons_self side member]
      simp only [sequentialViolation?, unmatched, ite_self, List.forall_mem_cons]
      by_cases offStart : .epsilon ∈ group.2 ∧ group.1 ≠ start
      · simp [offStart.1, offStart.2]
      · have fits : .epsilon ∈ group.2 → group.1 = start := by
          intro produced
          by_cases same : group.1 = start
          · exact same
          · exact absurd ⟨produced, same⟩ offStart
        have passes : (decide (.epsilon ∈ group.2) && group.1 != start) = false := by
          simpa using fits
        rw [passes]
        simp only [Bool.false_eq_true, if_false, induction laterApart]
        exact ⟨fun later => ⟨fits, later⟩, fun both => both.2⟩

theorem useOf?_eq_none_iff {symbol : Symbol} {groups : List (Symbol × OrderedSet RightSide)} :
    useOf? symbol groups = none ↔
      ∀ group ∈ groups, ∀ side ∈ group.2, ¬ symbol ∈ side.word := by
  simp only [useOf?, List.findSome?_eq_none_iff, Option.map_eq_none_iff, List.find?_eq_none,
    decide_eq_true_eq]
  rfl

theorem strictViolation?_eq_none_iff :
    grammar.strictViolation? = none ↔
      (∀ group ∈ grammar.productions.groups, .epsilon ∈ group.2 → group.1 = grammar.start) ∧
        (.epsilon ∈ grammar.alternatives grammar.start →
          ∀ group ∈ grammar.productions.groups, ∀ side ∈ group.2,
            ¬ grammar.start ∈ side.word) := by
  unfold strictViolation?
  split
  · next group found =>
      have listed := List.mem_of_find?_eq_some found
      have offStart := List.find?_some found
      simp only [Bool.and_eq_true, bne_iff_ne, decide_eq_true_eq] at offStart
      simp only [reduceCtorEq, false_iff]
      rintro ⟨onStart, _⟩
      exact offStart.1 (onStart group listed offStart.2)
  · next unfound =>
      have onStart : ∀ group ∈ grammar.productions.groups,
          .epsilon ∈ group.2 → group.1 = grammar.start := by
        intro group listed produced
        have passed := List.find?_eq_none.1 unfound group listed
        by_cases same : group.1 = grammar.start
        · exact same
        · exact absurd (by simp [same, produced]) passed
      split
      · next produced =>
          rw [Option.map_eq_none_iff, useOf?_eq_none_iff]
          exact ⟨fun unused => ⟨onStart, fun _ => unused⟩, fun both => both.2 produced⟩
      · next absent =>
          exact ⟨fun _ => ⟨onStart, fun produced => absurd produced absent⟩, fun _ => rfl⟩

theorem isExactly_start_eq_false (formed : grammar.WellFormed) {side : RightSide}
    (shaped : grammar.HasShape side) : side.isExactly grammar.start = false := by
  match side with
  | .epsilon => rfl
  | .symbols [] => rfl
  | .symbols [only] =>
      have apart : only ≠ grammar.start := fun same => shaped.2 (same ▸ formed.start_mem)
      simpa [RightSide.isExactly] using apart
  | .symbols (_ :: _ :: _) => simp [RightSide.isExactly]

theorem forall_group_epsilon_iff :
    (∀ group ∈ grammar.productions.groups, .epsilon ∈ group.2 → group.1 = grammar.start) ↔
      ∀ left, .epsilon ∈ grammar.alternatives left → left = grammar.start := by
  constructor
  · intro onStart left production
    obtain ⟨group, listed, same, member⟩ := mem_alternatives_iff_exists_group.1 production
    exact same ▸ onStart group listed member
  · intro onStart group listed member
    exact onStart group.1 (mem_alternatives_of_mem_group listed member)

theorem epsilonViolation?_eq_none_iff (formed : grammar.WellFormed)
    (shapes : ∀ left, ∀ side ∈ grammar.alternatives left, grammar.HasShape side) :
    grammar.epsilonViolation? rule = none ↔
      (∀ left, .epsilon ∈ grammar.alternatives left → left = grammar.start) ∧
        (rule = .strict → .epsilon ∈ grammar.alternatives grammar.start →
          ∀ left, ∀ side ∈ grammar.alternatives left, ¬ grammar.start ∈ side.word) := by
  rw [← forall_group_epsilon_iff]
  cases rule with
  | sequential =>
      have apart := forall_group_iff.2 fun left side production =>
        isExactly_start_eq_false formed (shapes left side production)
      simp [epsilonViolation?, sequentialViolation?_eq_none_iff apart]
  | strict =>
      have unused := @forall_group_iff grammar fun _ side => ¬ grammar.start ∈ side.word
      rw [epsilonViolation?, strictViolation?_eq_none_iff, unused]
      simp

theorem violation?_eq_none_iff (formed : grammar.WellFormed) :
    grammar.violation? rule = none ↔ grammar.Regular rule := by
  rw [violation?, Option.or_eq_none_iff, shapeViolation?_eq_none_iff formed]
  constructor
  · rintro ⟨shapes, placed⟩
    obtain ⟨onStart, unused⟩ := (epsilonViolation?_eq_none_iff formed shapes).1 placed
    exact ⟨shapes, onStart, unused⟩
  · intro regular
    have placed := (epsilonViolation?_eq_none_iff formed regular.shapes).2
      ⟨regular.left_of_epsilon, regular.start_unused⟩
    exact ⟨regular.shapes, placed⟩

theorem isRegular_iff (formed : grammar.WellFormed) :
    grammar.isRegular rule = true ↔ grammar.Regular rule := by
  rw [isRegular, Option.isNone_iff_eq_none, violation?_eq_none_iff formed]

namespace Regular

variable {left letter : Symbol}

theorem isLetter_of_production (regular : grammar.Regular rule) {next : Pending}
    (production : .symbols (letter :: next.toList) ∈ grammar.alternatives left) :
    grammar.IsLetter letter := by
  cases next with
  | none => exact regular.shapes left _ production
  | some symbol => exact (regular.shapes left _ production).1

theorem isVariable_of_production (regular : grammar.Regular rule) {next : Pending}
    (production : .symbols (letter :: next.toList) ∈ grammar.alternatives left) :
    ∀ symbol ∈ next, grammar.IsVariable symbol := by
  intro symbol waits
  cases waits
  exact (regular.shapes left _ production).2

end Regular

theorem hasShape_iff {side : RightSide} :
    grammar.HasShape side ↔
      side = .epsilon ∨
        (∃ letter, side = .symbols [letter] ∧ grammar.IsLetter letter) ∨
          ∃ letter next, side = .symbols [letter, next] ∧ grammar.IsLetter letter ∧
            grammar.IsVariable next := by
  match side with
  | .epsilon => simp [HasShape]
  | .symbols [] => simp [HasShape]
  | .symbols [letter] => simp [HasShape]
  | .symbols [letter, next] =>
      simp only [HasShape, reduceCtorEq, RightSide.symbols.injEq, List.cons.injEq, and_true,
        false_or]
      constructor
      · intro shaped
        exact Or.inr ⟨letter, next, ⟨rfl, rfl⟩, shaped⟩
      · rintro (⟨_, ⟨_, alone⟩, _⟩ | ⟨_, _, ⟨rfl, rfl⟩, shaped⟩)
        · cases alone
        · exact shaped
  | .symbols (_ :: _ :: _ :: _) => simp [HasShape]

theorem length_word_le_of_hasShape {side : RightSide} (shaped : grammar.HasShape side) :
    side.word.length ≤ 2 := by
  rcases hasShape_iff.1 shaped with rfl | ⟨letter, rfl, _⟩ | ⟨letter, next, rfl, _⟩
  · simp
  · simp
  · simp

/-- What is not the empty word produces a letter. -/
theorem Regular.eq_symbols_of_production (regular : grammar.Regular rule) {left : Symbol}
    {side : RightSide} (production : side ∈ grammar.alternatives left) :
    side = .epsilon ∨ ∃ letter, ∃ next : Pending, side = .symbols (letter :: next.toList) := by
  rcases hasShape_iff.1 (regular.shapes left side production) with
    rfl | ⟨letter, rfl, _⟩ | ⟨letter, next, rfl, _⟩
  · exact Or.inl rfl
  · exact Or.inr ⟨letter, none, rfl⟩
  · exact Or.inr ⟨letter, some next, rfl⟩

theorem isRightLinear_iff (formed : grammar.WellFormed) :
    grammar.isRightLinear = true ↔
      ∀ left, ∀ side ∈ grammar.alternatives left, grammar.HasShape side := by
  rw [isRightLinear, Option.isNone_iff_eq_none, shapeViolation?_eq_none_iff formed]

/-- How the alternatives of a well-formed grammar decide its class, whatever their order
and whatever names are terminal and non-terminal at once. -/
theorem classified_by_alternatives (formed : grammar.WellFormed) :
    (grammar.isRightLinear = true ↔
        ∀ left, ∀ side ∈ grammar.alternatives left,
          side = .epsilon ∨
            (∃ letter, side = .symbols [letter] ∧ grammar.IsLetter letter) ∨
              ∃ letter next, side = .symbols [letter, next] ∧ grammar.IsLetter letter ∧
                grammar.IsVariable next) ∧
      (grammar.isRegular .sequential = true ↔
        grammar.isRightLinear = true ∧
          ∀ left, .epsilon ∈ grammar.alternatives left → left = grammar.start) ∧
      (grammar.isRegular .strict = true ↔
        (grammar.isRightLinear = true ∧
          ∀ left, .epsilon ∈ grammar.alternatives left → left = grammar.start) ∧
          (.epsilon ∈ grammar.alternatives grammar.start →
            ∀ left, ∀ side ∈ grammar.alternatives left, ¬ grammar.start ∈ side.word)) := by
  have rightLinear := isRightLinear_iff formed
  refine ⟨?_, ?_, ?_⟩
  · simp only [rightLinear, hasShape_iff]
  · rw [isRegular_iff formed, rightLinear]
    constructor
    · intro regular
      exact ⟨regular.shapes, regular.left_of_epsilon⟩
    · rintro ⟨shapes, onStart⟩
      exact ⟨shapes, onStart, fun strict => nomatch strict⟩
  · rw [isRegular_iff formed, rightLinear]
    constructor
    · intro regular
      exact ⟨⟨regular.shapes, regular.left_of_epsilon⟩, regular.start_unused rfl⟩
    · rintro ⟨⟨shapes, onStart⟩, unused⟩
      exact ⟨shapes, onStart, fun _ => unused⟩

/-- A grammar whose start produces the empty word and is used again, with a name that is
terminal and non-terminal. The productions of the start come last. -/
def recurrent : Grammar :=
  .ofLists [⟨"A"⟩, ⟨"S"⟩, ⟨"x"⟩] [⟨"x"⟩, ⟨"a"⟩, ⟨"b"⟩]
    [(⟨"A"⟩, [.symbols [⟨"b"⟩, ⟨"S"⟩], .symbols [⟨"a"⟩]]),
      (⟨"S"⟩, [.symbols [⟨"a"⟩, ⟨"A"⟩], .epsilon])]
    ⟨"S"⟩

theorem recurrent_classified :
    recurrent.WellFormed ∧ recurrent.isRightLinear = true ∧
      recurrent.isRegular .sequential = true ∧ ¬ recurrent.isRegular .strict = true := by
  have formed : recurrent.WellFormed := defect?_eq_none_iff.1 (by decide)
  have classified := classified_by_alternatives formed
  have sequential : recurrent.isRegular .sequential = true := by decide
  refine ⟨formed, (classified.2.1.1 sequential).1, sequential, ?_⟩
  intro strict
  have unused := (classified.2.2.1 strict).2 (by decide)
  have used := unused ⟨"A"⟩ (.symbols [⟨"b"⟩, ⟨"S"⟩]) (by decide)
  exact used (by decide)

end Grammar
end RightLinear
