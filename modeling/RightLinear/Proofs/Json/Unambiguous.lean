import Mathlib.Data.List.Nodup
import RightLinear.Proofs.Grammar.RightSide
import RightLinear.Proofs.Grouping
import RightLinear.Proofs.Json.Delimited

/-! # JSON documents are unambiguous

From the document of an automaton the whole automaton can be told, and from the document of a
grammar the whole grammar up to the order of its productions, if its right-hand sides can be
told from their texts. No name can make the document of one look like that of another.
-/

namespace RightLinear

namespace Json

theorem ofTexts_injective : Function.Injective ofTexts := by
  intro first second same
  exact List.map_injective_iff.2 (fun _ _ => Json.text.inj) (Json.list.inj same)

theorem ofSymbols_injective : Function.Injective ofSymbols := by
  intro first second same
  exact OrderedSet.ext (List.map_injective_iff.2 Symbol.text_injective (ofTexts_injective same))

/-- Sorting fields by distinct names forgets their order and nothing else. -/
theorem ofFields_eq_iff_perm {first second : List (String × Json)}
    (distinct : (first.map Prod.fst).Nodup) :
    ofFields first = ofFields second ↔ first.Perm second := by
  let inOrder (field other : String × Json) : Bool := (compare field.1 other.1).isLE
  have sorted : ∀ fields : List (String × Json), (fields.mergeSort inOrder).Pairwise
      fun field other => inOrder field other = true := by
    intro fields
    apply List.pairwise_mergeSort
    · intro field other another before after
      exact Std.TransCmp.isLE_trans before after
    · intro field other
      rw [Bool.or_eq_true]
      by_cases before : inOrder field other = true
      · exact Or.inl before
      · exact Or.inr (Ordering.isLE_of_eq_lt (Std.OrientedCmp.lt_of_not_isLE before))
  constructor
  · intro same
    have sortedSame : first.mergeSort inOrder = second.mergeSort inOrder := Json.object.inj same
    exact (List.mergeSort_perm first inOrder).symm.trans
      (sortedSame ▸ List.mergeSort_perm second inOrder)
  · intro permuted
    have sortedPermuted : (first.mergeSort inOrder).Perm (second.mergeSort inOrder) :=
      (List.mergeSort_perm first inOrder).trans
        (permuted.trans (List.mergeSort_perm second inOrder).symm)
    refine congrArg Json.object (List.Perm.eq_of_pairwise ?_ (sorted first) (sorted second)
      sortedPermuted)
    intro field other listed otherListed before after
    have names : field.1 = other.1 :=
      Std.LawfulEqCmp.eq_of_compare (Std.OrientedCmp.isLE_antisymm before after)
    have isField := (List.mergeSort_perm first inOrder).mem_iff.1 listed
    have isOther := permuted.mem_iff.2 ((List.mergeSort_perm second inOrder).mem_iff.1 otherListed)
    exact List.inj_on_of_nodup_map distinct isField isOther names

end Json

namespace Automaton

theorem transitionJson_injective : Function.Injective transitionJson := by
  rintro ⟨⟨source, letter⟩, targets⟩ ⟨⟨otherSource, otherLetter⟩, otherTargets⟩ same
  simp only [transitionJson, Json.object.injEq, List.cons.injEq, Prod.mk.injEq, true_and,
    and_true, Json.text.injEq] at same
  obtain ⟨sources, letters, targetsSame⟩ := same
  rw [Symbol.text_injective sources, Symbol.text_injective letters,
    Json.ofSymbols_injective targetsSame]

theorem toJson_injective : Function.Injective toJson := by
  intro first second same
  simp only [toJson, Json.object.injEq, List.cons.injEq, Prod.mk.injEq, true_and, and_true,
    Json.text.injEq, Json.list.injEq] at same
  obtain ⟨alphabets, finals, initials, states, transitions⟩ := same
  have groups := List.map_injective_iff.2 transitionJson_injective transitions
  cases first
  cases second
  congr
  · exact Json.ofSymbols_injective states
  · exact Json.ofSymbols_injective alphabets
  · exact Grouping.ext groups
  · exact Symbol.text_injective initials
  · exact Json.ofSymbols_injective finals

end Automaton

namespace Grammar

variable {grammar first second : Grammar}

/-- Each right-hand side is what its text is read as. -/
def SidesReadBack (grammar : Grammar) : Prop :=
  ∀ group ∈ grammar.productions.groups, ∀ side ∈ group.2.toList,
    RightSide.ofText side.text = side

/-- The field of a non-terminal. -/
def productionField (group : Symbol × OrderedSet RightSide) : String × Json :=
  (group.1.text, .ofTexts (group.2.toList.map RightSide.text))

theorem nodup_productionFields (grammar : Grammar) :
    ((grammar.productions.groups.map productionField).map Prod.fst).Nodup := by
  have texts : (grammar.productions.groups.map productionField).map Prod.fst =
      grammar.productions.keys.map Symbol.text := by
    rw [Grouping.keys, List.map_map, List.map_map]
    rfl
  rw [texts]
  exact grammar.productions.nodup_keys.map Symbol.text_injective

theorem eq_of_productionField_eq {group other : Symbol × OrderedSet RightSide}
    (readBack : ∀ side ∈ group.2.toList, RightSide.ofText side.text = side)
    (otherReadBack : ∀ side ∈ other.2.toList, RightSide.ofText side.text = side)
    (same : productionField group = productionField other) : group = other := by
  obtain ⟨names, lists⟩ := Prod.mk.inj same
  have sides : ∀ sides : List RightSide, (∀ side ∈ sides, RightSide.ofText side.text = side) →
      (sides.map RightSide.text).map RightSide.ofText = sides := by
    intro sides readable
    calc
      (sides.map RightSide.text).map RightSide.ofText =
          sides.map fun side => RightSide.ofText side.text := List.map_map
      _ = sides.map id := List.map_congr_left readable
      _ = sides := List.map_id sides
  have texts := congrArg (List.map RightSide.ofText) (Json.ofTexts_injective lists)
  rw [sides _ readBack, sides _ otherReadBack] at texts
  exact Prod.ext (Symbol.text_injective names) (OrderedSet.ext texts)

theorem mem_groups_of_perm (readBack : first.SidesReadBack) (otherReadBack : second.SidesReadBack)
    (permuted : (first.productions.groups.map productionField).Perm
      (second.productions.groups.map productionField))
    {group : Symbol × OrderedSet RightSide} (listed : group ∈ first.productions.groups) :
    group ∈ second.productions.groups := by
  obtain ⟨other, otherListed, same⟩ :=
    List.mem_map.1 (permuted.mem_iff.1 (List.mem_map_of_mem listed))
  rwa [eq_of_productionField_eq (readBack group listed) (otherReadBack other otherListed) same.symm]

theorem nodup_groups (grammar : Grammar) : grammar.productions.groups.Nodup :=
  List.Nodup.of_map Prod.fst grammar.productions.nodup_keys

/-- Two grammars have the same document just if they have the same declarations and start and,
in whatever order, the same groups of productions. -/
theorem text_json_eq_iff (readBack : first.SidesReadBack) (otherReadBack : second.SidesReadBack) :
    first.json.text = second.json.text ↔
      first.nonTerminals = second.nonTerminals ∧ first.terminals = second.terminals ∧
        first.start = second.start ∧
        first.productions.groups.Perm second.productions.groups := by
  have productions : first.productionsJson = second.productionsJson ↔
      (first.productions.groups.map productionField).Perm
        (second.productions.groups.map productionField) :=
    Json.ofFields_eq_iff_perm (nodup_productionFields first)
  constructor
  · intro same
    have values := Json.eq_of_text_document same
    simp only [toJson, Json.object.injEq, List.cons.injEq, Prod.mk.injEq, true_and, and_true,
      Json.text.injEq] at values
    obtain ⟨nonTerminals, fields, starts, terminals⟩ := values
    have permuted := productions.1 fields
    refine ⟨Json.ofSymbols_injective nonTerminals, Json.ofSymbols_injective terminals,
      Symbol.text_injective starts, ?_⟩
    rw [List.perm_ext_iff_of_nodup (nodup_groups first) (nodup_groups second)]
    intro group
    constructor
    · exact mem_groups_of_perm readBack otherReadBack permuted
    · exact mem_groups_of_perm otherReadBack readBack permuted.symm
  · rintro ⟨nonTerminals, terminals, starts, permuted⟩
    have fields := productions.2 (permuted.map productionField)
    have values : first.toJson = second.toJson := by
      rw [toJson, toJson, nonTerminals, terminals, starts, fields]
    rw [json, json, values]

end Grammar

/-- Two automata with the same document are equal, with the order of everything in them. Two
grammars with the same document are the same up to order, if their right-hand sides are what
their texts are read as. -/
theorem json_unambiguous :
    (∀ first second : Automaton, first.json.text = second.json.text → first = second) ∧
    ∀ first second : Grammar, first.SidesReadBack → second.SidesReadBack →
      first.json.text = second.json.text → first.Same second := by
  constructor
  · intro first second same
    exact Automaton.toJson_injective (Json.eq_of_text_document same)
  · intro first second readBack otherReadBack same
    obtain ⟨nonTerminals, terminals, starts, permuted⟩ :=
      (Grammar.text_json_eq_iff readBack otherReadBack).1 same
    refine ⟨?_, ?_, ⟨?_, ?_⟩, starts⟩
    · rw [nonTerminals]
      exact OrderedSet.Same.refl _
    · rw [terminals]
      exact OrderedSet.Same.refl _
    · intro group listed
      exact ⟨group, permuted.mem_iff.1 listed, rfl, OrderedSet.Same.refl _⟩
    · intro group listed
      exact ⟨group, permuted.mem_iff.2 listed, rfl, OrderedSet.Same.refl _⟩

/-- A grammar whose terminals look like the punctuation of its document. -/
def Grammar.punctuated (productions : List (Symbol × List RightSide)) : Grammar :=
  .ofLists [⟨"S"⟩, ⟨"A"⟩] [⟨"\""⟩, ⟨","⟩, ⟨"\\"⟩] productions ⟨"S"⟩

/-- An automaton whose letter looks like the punctuation of its document. -/
def Automaton.punctuated (states : List Symbol) : Automaton :=
  .ofLists states [⟨"\", \""⟩] [((⟨"q"⟩, ⟨"\", \""⟩), [⟨"q"⟩])] ⟨"q"⟩ states

/-- The productions are told up to their order. -/
theorem punctuated_told :
    let onStart : Symbol × List RightSide :=
      (⟨"S"⟩, [.symbols [⟨"\""⟩, ⟨"A"⟩], .epsilon])
    let onOther : Symbol × List RightSide := (⟨"A"⟩, [.symbols [⟨","⟩], .symbols [⟨"\\"⟩]])
    let first := Grammar.punctuated [onStart, onOther]
    let second := Grammar.punctuated [onOther, onStart]
    (first.WellFormed ∧ second.WellFormed ∧ first.SidesReadBack ∧ second.SidesReadBack ∧
      first.json.text = second.json.text ∧ first ≠ second ∧ first.Same second) ∧
    (Automaton.punctuated [⟨"q"⟩]).WellFormed ∧
      (Automaton.punctuated [⟨"q"⟩]).json.text = (Automaton.punctuated [⟨"q"⟩, ⟨"q"⟩]).json.text ∧
      Automaton.punctuated [⟨"q"⟩] = Automaton.punctuated [⟨"q"⟩, ⟨"q"⟩] := by
  intro onStart onOther first second
  have readBack : first.SidesReadBack := by
    unfold Grammar.SidesReadBack
    decide
  have otherReadBack : second.SidesReadBack := by
    unfold Grammar.SidesReadBack
    decide
  have texts : first.json.text = second.json.text :=
    (Grammar.text_json_eq_iff readBack otherReadBack).2 ⟨rfl, rfl, rfl, List.Perm.swap _ _ _⟩
  refine ⟨⟨Grammar.defect?_eq_none_iff.1 (by decide), Grammar.defect?_eq_none_iff.1 (by decide),
    readBack, otherReadBack, texts, by decide,
    json_unambiguous.2 first second readBack otherReadBack texts⟩,
    Automaton.defect?_eq_none_iff.1 (by decide), rfl, json_unambiguous.1 _ _ rfl⟩

/-- Right-hand sides that are not told apart by their texts are not told apart by documents. -/
example :
    let pair := Grammar.ofLists [⟨"S"⟩] [⟨"a"⟩, ⟨"b"⟩, ⟨"ab"⟩]
      [(⟨"S"⟩, [.symbols [⟨"a"⟩, ⟨"b"⟩]])] ⟨"S"⟩
    let single := Grammar.ofLists [⟨"S"⟩] [⟨"a"⟩, ⟨"b"⟩, ⟨"ab"⟩]
      [(⟨"S"⟩, [.symbols [⟨"ab"⟩]])] ⟨"S"⟩
    pair.defect? = none ∧ single.defect? = none ∧ pair.json = single.json ∧ ¬ pair.Same single :=
  ⟨by decide, by decide, rfl, by decide⟩

end RightLinear
