import Mathlib.Data.List.Find
import RightLinear.Proofs.Grammar.Regular
import RightLinear.Proofs.Results

/-! # Which violation is found

Many productions can stand against regularity at once, and one of them is named. A wrong
shape comes first, and of these the first in the order of the productions. Where all shapes
are right, both rules look for the empty word off the start, and only the strict one goes on
to look for a use of the start. So the strict rule finds whatever the sequential one finds,
and the violation that is named is always a true one.
-/

namespace RightLinear

/-- A kind that is about the shape of a production and not about the empty word. -/
def Violation.Kind.IsOfShape : Violation.Kind → Prop
  | .epsilonOffStart | .startAfterEpsilon => False
  | _ => True

instance (kind : Violation.Kind) : Decidable kind.IsOfShape :=
  match kind with
  | .epsilonOffStart | .startAfterEpsilon => instDecidableFalse
  | .tooLong | .loneNonTerminal | .leadingNonTerminal | .trailingTerminal => instDecidableTrue

namespace Grammar

variable {grammar : Grammar} {rule : EpsilonRule} {violation : Violation}

/-- What a violation of some kind says about the production that it names. -/
def Shows (grammar : Grammar) (left : Symbol) (side : RightSide) : Violation.Kind → Prop
  | .tooLong => 2 < side.word.length
  | .loneNonTerminal => ∃ only, side = .symbols [only] ∧ only ∈ grammar.nonTerminals
  | .leadingNonTerminal =>
      ∃ first second, side = .symbols [first, second] ∧ first ∈ grammar.nonTerminals
  | .trailingTerminal =>
      ∃ first second, side = .symbols [first, second] ∧ ¬ first ∈ grammar.nonTerminals ∧
        second ∈ grammar.terminals
  | .epsilonOffStart => side = .epsilon ∧ left ≠ grammar.start
  | .startAfterEpsilon =>
      grammar.start ∈ side.word ∧ .epsilon ∈ grammar.alternatives grammar.start

section Shapes

/-- The fault of an alternative is the one kind about shapes that is true of it. -/
theorem shapeFault?_eq_some_iff {left : Symbol} {side : RightSide} {kind : Violation.Kind} :
    grammar.shapeFault? side = some kind ↔ kind.IsOfShape ∧ grammar.Shows left side kind := by
  match side with
  | .epsilon => cases kind <;> simp [shapeFault?, Shows, Violation.Kind.IsOfShape]
  | .symbols [] => cases kind <;> simp [shapeFault?, Shows, Violation.Kind.IsOfShape]
  | .symbols [only] =>
      by_cases isVariable : only ∈ grammar.nonTerminals
      · cases kind <;> simp [shapeFault?, Shows, Violation.Kind.IsOfShape, isVariable]
      · cases kind <;> simp [shapeFault?, Shows, Violation.Kind.IsOfShape, isVariable]
  | .symbols [first, second] =>
      by_cases leads : first ∈ grammar.nonTerminals
      · cases kind <;> simp [shapeFault?, Shows, Violation.Kind.IsOfShape, leads]
      · by_cases trails : second ∈ grammar.terminals
        · cases kind <;> simp [shapeFault?, Shows, Violation.Kind.IsOfShape, leads, trails]
        · cases kind <;> simp [shapeFault?, Shows, Violation.Kind.IsOfShape, leads, trails]
  | .symbols (_ :: _ :: _ :: _) =>
      cases kind <;> simp [shapeFault?, Shows, Violation.Kind.IsOfShape]

/-- Going through the groups is going through the productions one by one. -/
theorem shapeViolation?_eq_findSome?_pairs :
    grammar.shapeViolation? = grammar.productions.pairs.findSome? fun production =>
      (grammar.shapeFault? production.2).map (⟨·, production.1, production.2⟩) := by
  rw [shapeViolation?, Grouping.pairs]
  induction grammar.productions.groups with
  | nil => rfl
  | cons group groups induction =>
      rw [List.flatMap_cons, List.findSome?_append, ← induction, List.findSome?_map,
        List.findSome?_cons]
      change _ = (grammar.groupShapeViolation? group).or _
      cases grammar.groupShapeViolation? group with
      | none => rfl
      | some found => rfl

theorem shapeViolation?_eq_some_iff (formed : grammar.WellFormed) :
    grammar.shapeViolation? = some violation ↔
      violation.kind.IsOfShape ∧ grammar.Shows violation.left violation.right violation.kind ∧
        IsFirst (fun production => ¬ grammar.HasShape production.2) grammar.productions.pairs
          (violation.left, violation.right) := by
  have faultless : ∀ production ∈ grammar.productions.pairs,
      grammar.shapeFault? production.2 = none ↔ grammar.HasShape production.2 := by
    intro production listed
    exact shapeFault?_eq_none_iff (formed.admits_of_mem (Grouping.mem_pairs.1 listed))
  rw [shapeViolation?_eq_findSome?_pairs, List.findSome?_eq_some_iff]
  constructor
  · rintro ⟨before, production, after, cut, named, passed⟩
    obtain ⟨kind, fault, rfl⟩ := Option.map_eq_some_iff.1 named
    obtain ⟨isOfShape, shows⟩ := shapeFault?_eq_some_iff.1 fault
    refine ⟨isOfShape, shows, ?_, before, after, cut, ?_⟩
    · intro shaped
      have none_found := (faultless production (by simp [cut])).2 shaped
      rw [fault] at none_found
      exact nomatch none_found
    · intro earlier listed
      rw [not_not, ← faultless earlier (by simp [cut, listed])]
      exact Option.map_eq_none_iff.1 (passed earlier listed)
  · rintro ⟨isOfShape, shows, _, before, after, cut, passed⟩
    refine ⟨before, _, after, cut, ?_, ?_⟩
    · rw [shapeFault?_eq_some_iff.2 ⟨isOfShape, shows⟩]
      rfl
    · intro earlier listed
      rw [Option.map_eq_none_iff, faultless earlier (by simp [cut, listed])]
      exact not_not.1 (passed earlier listed)

end Shapes

section EmptyWord

/-- The first symbol other than the start that produces the empty word. -/
def offStart? (grammar : Grammar) : Option Violation :=
  (grammar.productions.keys.find? fun key =>
      key != grammar.start && decide (.epsilon ∈ grammar.alternatives key)).map
    (⟨.epsilonOffStart, ·, .epsilon⟩)

/-- The first use of the start, if that produces the empty word. -/
def startUse? (grammar : Grammar) : Option Violation :=
  if .epsilon ∈ grammar.alternatives grammar.start then
    (grammar.productions.pairs.find? fun production =>
        decide (grammar.start ∈ production.2.word)).map
      fun production => ⟨.startAfterEpsilon, production.1, production.2⟩
  else none

theorem offStart?_eq_find?_groups :
    grammar.offStart? =
      (grammar.productions.groups.find? fun group =>
          group.1 != grammar.start && decide (.epsilon ∈ group.2)).map
        fun group => ⟨.epsilonOffStart, group.1, .epsilon⟩ := by
  have tests : ∀ group ∈ grammar.productions.groups,
      (group.1 != grammar.start && decide (.epsilon ∈ grammar.alternatives group.1)) =
        (group.1 != grammar.start && decide (.epsilon ∈ group.2)) := by
    intro group listed
    simp only [alternatives, Grouping.mem_values_iff_mem_group listed]
  rw [offStart?, Grouping.keys, List.find?_map, Option.map_map]
  exact congrArg (Option.map _) (List.find?_congr tests)

/-- Where the start is no alternative by itself, the sequential rule remembers the empty word
to no effect. -/
theorem sequentialViolation?_eq_find? {start : Symbol} {seen : Bool}
    {groups : List (Symbol × OrderedSet RightSide)}
    (apart : ∀ group ∈ groups, ∀ side ∈ group.2, side.isExactly start = false) :
    sequentialViolation? start seen groups =
      (groups.find? fun group => group.1 != start && decide (.epsilon ∈ group.2)).map
        fun group => ⟨.epsilonOffStart, group.1, .epsilon⟩ := by
  induction groups generalizing seen with
  | nil => rfl
  | cons group groups induction =>
      have laterApart : ∀ other ∈ groups, ∀ side ∈ other.2, side.isExactly start = false :=
        fun other listed => apart other (List.mem_cons_of_mem group listed)
      have unmatched : group.2.toList.find? (·.isExactly start) = none := by
        rw [List.find?_eq_none]
        intro side member
        simp [apart group List.mem_cons_self side member]
      rw [sequentialViolation?, List.find?_cons, Bool.and_comm]
      cases group.1 != start && decide (.epsilon ∈ group.2) with
      | true => rfl
      | false => simp [unmatched, induction laterApart]

theorem useOf?_eq_find?_pairs {symbol : Symbol} :
    useOf? symbol grammar.productions.groups =
      grammar.productions.pairs.find? fun production =>
        decide (symbol ∈ production.2.word) := by
  rw [useOf?, Grouping.pairs, List.find?_flatMap]
  simp only [List.find?_map]
  rfl

theorem strictViolation?_eq_or :
    grammar.strictViolation? = grammar.offStart?.or grammar.startUse? := by
  rw [strictViolation?, offStart?_eq_find?_groups, startUse?, useOf?_eq_find?_pairs]
  split
  · next found => rw [found]; rfl
  · next unfound => rw [unfound]; rfl

theorem offStart?_eq_some_iff :
    grammar.offStart? = some violation ↔
      ∃ left, violation = ⟨.epsilonOffStart, left, .epsilon⟩ ∧
        IsFirst (fun key => key ≠ grammar.start ∧ .epsilon ∈ grammar.alternatives key)
          grammar.productions.keys left := by
  have first_iff : ∀ left, (grammar.productions.keys.find? fun key =>
        key != grammar.start && decide (.epsilon ∈ grammar.alternatives key)) = some left ↔
      IsFirst (fun key => key ≠ grammar.start ∧ .epsilon ∈ grammar.alternatives key)
        grammar.productions.keys left :=
    fun _ => find?_eq_some_iff_isFirst (by simp)
  simp only [offStart?, Option.map_eq_some_iff, first_iff, eq_comm (b := violation), and_comm]

theorem offStart?_eq_none_iff :
    grammar.offStart? = none ↔
      ∀ left, .epsilon ∈ grammar.alternatives left → left = grammar.start := by
  rw [← forall_group_epsilon_iff, offStart?_eq_find?_groups, Option.map_eq_none_iff,
    List.find?_eq_none]
  simp only [Bool.and_eq_true, bne_iff_ne, decide_eq_true_eq, not_and', not_not]

theorem startUse?_eq_some_iff :
    grammar.startUse? = some violation ↔
      ∃ left side, violation = ⟨.startAfterEpsilon, left, side⟩ ∧
        .epsilon ∈ grammar.alternatives grammar.start ∧
          IsFirst (fun production => grammar.start ∈ production.2.word)
            grammar.productions.pairs (left, side) := by
  have first_iff : ∀ use, (grammar.productions.pairs.find? fun production =>
        decide (grammar.start ∈ production.2.word)) = some use ↔
      IsFirst (fun production => grammar.start ∈ production.2.word)
        grammar.productions.pairs use :=
    fun _ => find?_eq_some_iff_isFirst (by simp)
  unfold startUse?
  split
  · next produced =>
      simp only [Option.map_eq_some_iff, first_iff, Prod.exists, produced, true_and,
        eq_comm (b := violation), and_comm]
  · next absent => simp [absent]

/-- In a well-formed grammar the sequential rule only adds the empty word off the start to
what is wrong with the shapes. -/
theorem violation?_sequential_eq (formed : grammar.WellFormed) :
    grammar.violation? .sequential = grammar.shapeViolation?.or grammar.offStart? := by
  rw [violation?]
  cases found : grammar.shapeViolation? with
  | some violation => rfl
  | none =>
      have shapes := (shapeViolation?_eq_none_iff formed).1 found
      have apart := forall_group_iff.2 fun left side production =>
        isExactly_start_eq_false formed (shapes left side production)
      rw [Option.none_or, Option.none_or, offStart?_eq_find?_groups]
      exact sequentialViolation?_eq_find? apart

/-- The strict rule looks on where the sequential one has found nothing. -/
theorem violation?_strict_eq (formed : grammar.WellFormed) :
    grammar.violation? .strict = (grammar.violation? .sequential).or grammar.startUse? := by
  rw [violation?_sequential_eq formed, Option.or_assoc, ← strictViolation?_eq_or]
  rfl

end EmptyWord

/-- The violation that is to be named: of the first production of a wrong shape; if there is
none, of the first symbol other than the start that produces the empty word; and if there is
no such symbol either, under the strict rule, of the first use of a start that does. -/
inductive FirstViolation (grammar : Grammar) (rule : EpsilonRule) : Violation → Prop
  | shape {kind : Violation.Kind} {left : Symbol} {side : RightSide} (isOfShape : kind.IsOfShape)
      (shows : grammar.Shows left side kind)
      (first : IsFirst (fun production => ¬ grammar.HasShape production.2)
        grammar.productions.pairs (left, side)) :
      FirstViolation grammar rule ⟨kind, left, side⟩
  | offStart {left : Symbol}
      (shapes : ∀ left, ∀ side ∈ grammar.alternatives left, grammar.HasShape side)
      (first : IsFirst (fun key => key ≠ grammar.start ∧ .epsilon ∈ grammar.alternatives key)
        grammar.productions.keys left) :
      FirstViolation grammar rule ⟨.epsilonOffStart, left, .epsilon⟩
  | startUsed {left : Symbol} {side : RightSide} (strict : rule = .strict)
      (shapes : ∀ left, ∀ side ∈ grammar.alternatives left, grammar.HasShape side)
      (onStart : ∀ left, .epsilon ∈ grammar.alternatives left → left = grammar.start)
      (produced : .epsilon ∈ grammar.alternatives grammar.start)
      (first : IsFirst (fun production => grammar.start ∈ production.2.word)
        grammar.productions.pairs (left, side)) :
      FirstViolation grammar rule ⟨.startAfterEpsilon, left, side⟩

/-- What is searched for, and in which order, under either rule. -/
theorem violation?_eq_some_iff_searches (formed : grammar.WellFormed) :
    grammar.violation? rule = some violation ↔
      grammar.shapeViolation? = some violation ∨
        grammar.shapeViolation? = none ∧
          (grammar.offStart? = some violation ∨
            rule = .strict ∧ grammar.offStart? = none ∧ grammar.startUse? = some violation) := by
  cases rule with
  | sequential => simp [violation?_sequential_eq formed, Option.or_eq_some_iff]
  | strict =>
      simp [violation?_strict_eq formed, violation?_sequential_eq formed, Option.or_assoc,
        Option.or_eq_some_iff]

theorem violation?_eq_some_iff (formed : grammar.WellFormed) :
    grammar.violation? rule = some violation ↔ grammar.FirstViolation rule violation := by
  rw [violation?_eq_some_iff_searches formed, shapeViolation?_eq_none_iff formed,
    shapeViolation?_eq_some_iff formed, offStart?_eq_some_iff, offStart?_eq_none_iff,
    startUse?_eq_some_iff]
  constructor
  · rintro (⟨isOfShape, shows, first⟩ | ⟨shapes, ⟨left, rfl, first⟩ |
      ⟨strict, onStart, left, side, rfl, produced, first⟩⟩)
    · exact .shape isOfShape shows first
    · exact .offStart shapes first
    · exact .startUsed strict shapes onStart produced first
  · intro named
    cases named with
    | shape isOfShape shows first => exact Or.inl ⟨isOfShape, shows, first⟩
    | offStart shapes first => exact Or.inr ⟨shapes, Or.inl ⟨_, rfl, first⟩⟩
    | startUsed strict shapes onStart produced first =>
        exact Or.inr ⟨shapes, Or.inr ⟨strict, onStart, _, _, rfl, produced, first⟩⟩

namespace FirstViolation

/-- What is named is a production of the grammar. -/
theorem mem_alternatives (named : grammar.FirstViolation rule violation) :
    violation.right ∈ grammar.alternatives violation.left := by
  cases named with
  | shape _ _ first => exact Grouping.mem_pairs.1 first.mem
  | offStart _ first => exact first.1.2
  | startUsed _ _ _ _ first => exact Grouping.mem_pairs.1 first.mem

/-- What is said of the production is true. -/
theorem shows (named : grammar.FirstViolation rule violation) :
    grammar.Shows violation.left violation.right violation.kind := by
  cases named with
  | shape _ shows _ => exact shows
  | offStart _ first => exact ⟨rfl, first.1.1⟩
  | startUsed _ _ _ produced first => exact ⟨first.1, produced⟩

/-- A production of a wrong shape is named if there is one. -/
theorem exists_shape (formed : grammar.WellFormed) {left : Symbol} {side : RightSide}
    (production : side ∈ grammar.alternatives left) (misshapen : ¬ grammar.HasShape side) :
    ∃ violation, grammar.FirstViolation rule violation ∧ violation.kind.IsOfShape := by
  obtain ⟨⟨key, wrong⟩, first⟩ := exists_isFirst
    (fun production => ¬ grammar.HasShape production.2) (Grouping.mem_pairs.2 production) misshapen
  have admitted := formed.admits_of_mem (Grouping.mem_pairs.1 first.mem)
  have faulty := mt (shapeFault?_eq_none_iff admitted).1 first.1
  obtain ⟨kind, fault⟩ := Option.ne_none_iff_exists'.1 faulty
  obtain ⟨isOfShape, shows⟩ := shapeFault?_eq_some_iff.1 fault
  exact ⟨⟨kind, key, wrong⟩, .shape isOfShape shows first, isOfShape⟩

/-- Where all shapes are right, an empty word off the start is named, whether or not the
start is used. -/
theorem exists_offStart (shapes : ∀ left, ∀ side ∈ grammar.alternatives left,
      grammar.HasShape side) {left : Symbol} (production : .epsilon ∈ grammar.alternatives left)
    (offStart : left ≠ grammar.start) :
    ∃ first, grammar.FirstViolation rule ⟨.epsilonOffStart, first, .epsilon⟩ := by
  obtain ⟨key, first⟩ := exists_isFirst
    (fun key => key ≠ grammar.start ∧ .epsilon ∈ grammar.alternatives key)
    (Grouping.mem_keys_of_mem_values production) ⟨offStart, production⟩
  exact ⟨key, .offStart shapes first⟩

end FirstViolation

/-- What is found is a production of the grammar of which the named fault is true, and it is
found in the order of the shapes, the empty word off the start, and the uses of the start,
each in the order of the productions. -/
theorem violation?_genuine_and_first (formed : grammar.WellFormed) (rule : EpsilonRule) :
    (∀ violation, grammar.violation? rule = some violation →
        violation.right ∈ grammar.alternatives violation.left ∧
          grammar.Shows violation.left violation.right violation.kind) ∧
      (∀ violation, grammar.violation? rule = some violation ↔
        grammar.FirstViolation rule violation) ∧
      ((∃ left, ∃ side ∈ grammar.alternatives left, ¬ grammar.HasShape side) →
        ∃ violation, grammar.violation? rule = some violation ∧ violation.kind.IsOfShape) ∧
      ((∀ left, ∀ side ∈ grammar.alternatives left, grammar.HasShape side) →
        (∃ left, .epsilon ∈ grammar.alternatives left ∧ left ≠ grammar.start) →
        ∃ left, grammar.violation? rule = some ⟨.epsilonOffStart, left, .epsilon⟩) := by
  refine ⟨?_, fun violation => violation?_eq_some_iff formed, ?_, ?_⟩
  · intro violation found
    have named := (violation?_eq_some_iff formed).1 found
    exact ⟨named.mem_alternatives, named.shows⟩
  · rintro ⟨left, side, production, misshapen⟩
    obtain ⟨violation, named, isOfShape⟩ :=
      FirstViolation.exists_shape formed production misshapen
    exact ⟨violation, (violation?_eq_some_iff formed).2 named, isOfShape⟩
  · rintro shapes ⟨left, production, offStart⟩
    obtain ⟨first, named⟩ := FirstViolation.exists_offStart shapes production offStart
    exact ⟨first, (violation?_eq_some_iff formed).2 named⟩

/-- A grammar with faults of every sort. One name is terminal and non-terminal, and the
productions of the start stand between others. -/
def entangled : Grammar :=
  .ofLists [⟨"S"⟩, ⟨"A"⟩, ⟨"x"⟩] [⟨"a"⟩, ⟨"b"⟩, ⟨"x"⟩]
    [(⟨"A"⟩, [.symbols [⟨"b"⟩, ⟨"A"⟩], .epsilon, .symbols [⟨"x"⟩]]),
      (⟨"S"⟩, [.symbols [⟨"a"⟩, ⟨"b"⟩, ⟨"A"⟩], .epsilon, .symbols [⟨"A"⟩, ⟨"a"⟩]]),
      (⟨"x"⟩, [.symbols [⟨"a"⟩, ⟨"S"⟩], .symbols [⟨"a"⟩, ⟨"b"⟩]])]
    ⟨"S"⟩

theorem entangled_violation? :
    entangled.WellFormed ∧
      entangled.violation? .strict = some ⟨.loneNonTerminal, ⟨"A"⟩, .symbols [⟨"x"⟩]⟩ ∧
      entangled.FirstViolation .strict ⟨.loneNonTerminal, ⟨"A"⟩, .symbols [⟨"x"⟩]⟩ ∧
      .symbols [⟨"x"⟩] ∈ entangled.alternatives ⟨"A"⟩ ∧
      entangled.Shows ⟨"A"⟩ (.symbols [⟨"x"⟩]) .loneNonTerminal := by
  have formed : entangled.WellFormed := defect?_eq_none_iff.1 (by decide)
  have found : entangled.violation? .strict =
      some ⟨.loneNonTerminal, ⟨"A"⟩, .symbols [⟨"x"⟩]⟩ := by decide
  obtain ⟨genuine, first, _⟩ := violation?_genuine_and_first formed .strict
  exact ⟨formed, found, (first _).1 found, genuine _ found⟩

/-- The strict rule names what the sequential one names. Where that names nothing, it can
name only an alternative that ends in the start; and the sequential rule never objects to
that. -/
theorem strict_refines_sequential (formed : grammar.WellFormed) :
    (∀ violation, grammar.violation? .sequential = some violation →
        grammar.violation? .strict = some violation ∧ violation.kind ≠ .startAfterEpsilon) ∧
      (grammar.violation? .sequential = none →
        ∀ violation, grammar.violation? .strict = some violation →
          violation.kind = .startAfterEpsilon ∧
            ∃ letter ∈ grammar.terminals, violation.right = .symbols [letter, grammar.start]) := by
  rw [violation?_strict_eq formed]
  constructor
  · intro violation found
    refine ⟨by rw [found, Option.some_or], ?_⟩
    rw [violation?_sequential_eq formed, Option.or_eq_some_iff] at found
    rcases found with misshapen | ⟨_, misplaced⟩
    · have isOfShape := ((shapeViolation?_eq_some_iff formed).1 misshapen).1
      intro same
      exact (same ▸ isOfShape : Violation.Kind.startAfterEpsilon.IsOfShape)
    · obtain ⟨left, rfl, _⟩ := offStart?_eq_some_iff.1 misplaced
      exact nofun
  · intro passed violation found
    rw [passed, Option.none_or] at found
    obtain ⟨left, side, rfl, _, first⟩ := startUse?_eq_some_iff.1 found
    have regular := (violation?_eq_none_iff formed).1 passed
    have production := Grouping.mem_pairs.1 first.mem
    have used : grammar.start ∈ side.word := first.1
    refine ⟨rfl, ?_⟩
    rcases hasShape_iff.1 (regular.shapes left side production) with
      rfl | ⟨letter, rfl, isLetter⟩ | ⟨letter, next, rfl, isLetter, _⟩
    · exact absurd used List.not_mem_nil
    · exact absurd (List.mem_singleton.1 used ▸ formed.start_mem) isLetter.2
    · have apart : grammar.start ≠ letter := fun same => isLetter.2 (same ▸ formed.start_mem)
      have atEnd : grammar.start = next := by simpa [apart] using used
      exact ⟨letter, isLetter.1, by rw [atEnd]⟩

/-- A grammar with the empty word behind two symbols, the start among them. -/
def scattered : Grammar :=
  .ofLists [⟨"S"⟩, ⟨"A"⟩] [⟨"a"⟩, ⟨"b"⟩]
    [(⟨"S"⟩, [.symbols [⟨"a"⟩, ⟨"S"⟩], .epsilon]), (⟨"A"⟩, [.symbols [⟨"b"⟩], .epsilon])] ⟨"S"⟩

/-- The grammar `scattered` with the empty word behind the start only. -/
def reused : Grammar :=
  .ofLists [⟨"S"⟩, ⟨"A"⟩] [⟨"a"⟩, ⟨"b"⟩]
    [(⟨"A"⟩, [.symbols [⟨"b"⟩], .symbols [⟨"b"⟩, ⟨"S"⟩]]),
      (⟨"S"⟩, [.symbols [⟨"a"⟩, ⟨"S"⟩], .epsilon])] ⟨"S"⟩

theorem scattered_and_reused_violation? :
    scattered.WellFormed ∧
      scattered.violation? .sequential = some ⟨.epsilonOffStart, ⟨"A"⟩, .epsilon⟩ ∧
      scattered.violation? .strict = some ⟨.epsilonOffStart, ⟨"A"⟩, .epsilon⟩ ∧
      reused.WellFormed ∧ reused.violation? .sequential = none ∧
      ∃ violation, reused.violation? .strict = some violation ∧
        violation.kind = .startAfterEpsilon ∧
        ∃ letter ∈ reused.terminals, violation.right = .symbols [letter, ⟨"S"⟩] := by
  have formed : scattered.WellFormed := defect?_eq_none_iff.1 (by decide)
  have misplaced : scattered.violation? .sequential =
      some ⟨.epsilonOffStart, ⟨"A"⟩, .epsilon⟩ := by decide
  have otherFormed : reused.WellFormed := defect?_eq_none_iff.1 (by decide)
  have passed : reused.violation? .sequential = none := by decide
  have found : reused.violation? .strict =
      some ⟨.startAfterEpsilon, ⟨"A"⟩, .symbols [⟨"b"⟩, ⟨"S"⟩]⟩ := by decide
  exact ⟨formed, misplaced, ((strict_refines_sequential formed).1 _ misplaced).1, otherFormed,
    passed, _, found, (strict_refines_sequential otherFormed).2 passed _ found⟩

end Grammar
end RightLinear
