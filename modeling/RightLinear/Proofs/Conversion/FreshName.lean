import Mathlib.Data.Nat.Find
import Mathlib.Order.Bounds.Basic
import RightLinear.Conversion
import RightLinear.Proofs.Results

/-! # The search for a free name

There is one more numbered name to try than there are declared symbols. No two of them are the
same, so one is free, and the name that is chosen is none of the grammar.

Without a limit, names are tried until one is free: the wanted name, the letters from `Z` down
to `A`, and then the wanted name with 0, 1, 2 and so on behind it. This search ends soon, and
the name that it ends with is the one that is chosen.
-/

namespace RightLinear
namespace Grammar

variable {grammar : Grammar} {wanted : Symbol}

theorem numberedName_injective {first second : Nat}
    (same : numberedName wanted first = numberedName wanted second) : first = second := by
  have texts : wanted.text ++ toString first = wanted.text ++ toString second :=
    congrArg Symbol.text same
  have numerals : toString first = toString second :=
    (String.append_right_inj wanted.text).1 texts
  have digits : Nat.toDigits 10 first = Nat.toDigits 10 second := by
    have listed := congrArg String.toList numerals
    simpa only [Nat.toString_eq_ofList_toDigits, String.toList_ofList] using listed
  calc
    first = Nat.ofDigitChars 10 (Nat.toDigits 10 first) 0 :=
      (Nat.ofDigitChars_toDigits (by omega) (by omega)).symm
    _ = Nat.ofDigitChars 10 (Nat.toDigits 10 second) 0 := by rw [digits]
    _ = second := Nat.ofDigitChars_toDigits (by omega) (by omega)

theorem nodup_numberedNames (count : Nat) :
    ((List.range count).map (numberedName wanted)).Nodup := by
  rw [List.Nodup, List.pairwise_map]
  apply List.Pairwise.imp _ List.nodup_range
  intro first second apart same
  exact apart (numberedName_injective same)

/-- There are no more numbered names in a grammar than it declares symbols. -/
theorem count_le_of_forall_declares {count : Nat}
    (taken : ∀ number < count, grammar.Declares (numberedName wanted number)) :
    count ≤ grammar.terminals.toList.length + grammar.nonTerminals.toList.length := by
  have subset : (List.range count).map (numberedName wanted) ⊆
      grammar.terminals.toList ++ grammar.nonTerminals.toList := by
    intro name listed
    obtain ⟨number, inRange, same⟩ := List.mem_map.1 listed
    have declared := taken number (List.mem_range.1 inRange)
    exact List.mem_append.2 (same ▸ declared)
  have bound := (nodup_numberedNames count).length_le_of_subset subset
  simpa only [List.length_map, List.length_range, List.length_append] using bound

theorem exists_candidateName_undeclared :
    ∃ name ∈ grammar.candidateNames wanted, ¬ grammar.Declares name := by
  by_cases taken : ∀ number < grammar.terminals.toList.length +
      grammar.nonTerminals.toList.length + 1, grammar.Declares (numberedName wanted number)
  · have bound := count_le_of_forall_declares taken
    omega
  · simp only [Classical.not_forall] at taken
    obtain ⟨number, bound, free⟩ := taken
    have listed : numberedName wanted number ∈ (List.range (grammar.terminals.toList.length +
        grammar.nonTerminals.toList.length + 1)).map (numberedName wanted) :=
      List.mem_map.2 ⟨number, List.mem_range.2 bound, rfl⟩
    exact ⟨_, List.mem_append_right _ listed, free⟩

theorem not_declares_freshName : ¬ grammar.Declares (grammar.freshName wanted) := by
  obtain ⟨name, listed, free⟩ := @exists_candidateName_undeclared grammar wanted
  unfold freshName
  cases chosen : (grammar.candidateNames wanted).find? fun name =>
      ! decide (grammar.Declares name) with
  | none =>
      have passed := List.find?_eq_none.1 chosen name listed
      simp [free] at passed
  | some found =>
      have passed := List.find?_some chosen
      simpa using passed

theorem freshName_not_mem_nonTerminals :
    ¬ grammar.freshName wanted ∈ grammar.nonTerminals :=
  fun declared => not_declares_freshName (Or.inr declared)

/-- The name that is tried when so many others have been tried. -/
def attempt (wanted : Symbol) (index : Nat) : Symbol :=
  match (wanted :: letterNames)[index]? with
  | some name => name
  | none => numberedName wanted (index - (letterNames.length + 1))

/-- The search from some attempt on, with the number of names that it tries and the name
that it ends with. Nothing limits the attempts. -/
inductive Search (grammar : Grammar) (wanted : Symbol) : Nat → Nat → Symbol → Prop
  | found {index : Nat} (free : ¬ grammar.Declares (attempt wanted index)) :
      Search grammar wanted index 1 (attempt wanted index)
  | passed {index count : Nat} {name : Symbol}
      (taken : grammar.Declares (attempt wanted index))
      (later : Search grammar wanted (index + 1) count name) :
      Search grammar wanted index (count + 1) name

/-- What is passed over is declared and what is found is not, so there is one search. -/
theorem Search.unique {index count other : Nat} {name otherName : Symbol}
    (search : grammar.Search wanted index count name)
    (otherSearch : grammar.Search wanted index other otherName) :
    count = other ∧ name = otherName := by
  induction search generalizing other with
  | found free =>
      cases otherSearch with
      | found _ => exact ⟨rfl, rfl⟩
      | passed taken _ => exact absurd taken free
  | passed taken _ induction =>
      cases otherSearch with
      | found free => exact absurd taken free
      | passed _ later =>
          obtain ⟨counts, names⟩ := induction later
          exact ⟨congrArg Nat.succ counts, names⟩

/-- A search passes over declared names up to the first free one. -/
theorem search_of_taken_before {index steps : Nat}
    (free : ¬ grammar.Declares (attempt wanted (index + steps)))
    (taken : ∀ earlier < steps, grammar.Declares (attempt wanted (index + earlier))) :
    grammar.Search wanted index (steps + 1) (attempt wanted (index + steps)) := by
  induction steps generalizing index with
  | zero => exact .found free
  | succ steps induction =>
      have shifted : ∀ earlier, index + 1 + earlier = index + (earlier + 1) := by
        intro earlier
        omega
      have later : grammar.Search wanted (index + 1) (steps + 1)
          (attempt wanted (index + 1 + steps)) := by
        apply induction
        · rw [shifted]
          exact free
        · intro earlier inRange
          rw [shifted]
          exact taken (earlier + 1) (by omega)
      rw [shifted] at later
      exact .passed (taken 0 (by omega)) later

theorem length_letterNames : letterNames.length = 26 := by decide

theorem attempt_letter {index : Nat} {letter : Symbol} (listed : letterNames[index]? = some letter) :
    attempt wanted (index + 1) = letter := by
  rw [attempt, List.getElem?_cons_succ, listed]

theorem attempt_numbered (number : Nat) :
    attempt wanted (27 + number) = numberedName wanted number := by
  have beyond : (wanted :: letterNames)[27 + number]? = none := by
    apply List.getElem?_eq_none
    rw [List.length_cons, length_letterNames]
    omega
  have left : 27 + number - (letterNames.length + 1) = number := by
    rw [length_letterNames]
    omega
  rw [attempt, beyond, left]

theorem candidateNames_eq_map_attempt (grammar : Grammar) (wanted : Symbol) :
    grammar.candidateNames wanted =
      (List.range (27 + (grammar.terminals.toList.length +
        grammar.nonTerminals.toList.length + 1))).map (attempt wanted) := by
  have first : (List.range 27).map (attempt wanted) = wanted :: letterNames := by
    apply List.ext_getElem
    · rw [List.length_map, List.length_range, List.length_cons, length_letterNames]
    · intro index _ inRange
      rw [List.getElem_map, List.getElem_range, attempt, List.getElem?_eq_getElem inRange]
  rw [candidateNames]
  generalize grammar.terminals.toList.length + grammar.nonTerminals.toList.length + 1 = numbers
  rw [List.range_add, List.map_append, first, List.map_map]
  congr 1
  apply List.map_congr_left
  intro number _
  exact (attempt_numbered number).symm

/-- Some attempt succeeds, and not later than when all declared symbols have been met. -/
theorem exists_first_attempt (grammar : Grammar) (wanted : Symbol) :
    ∃ index, IsLeast {index | ¬ grammar.Declares (attempt wanted index)} index ∧
      index < 27 + (grammar.terminals.toList.length +
        grammar.nonTerminals.toList.length + 1) := by
  obtain ⟨name, listed, free⟩ := @exists_candidateName_undeclared grammar wanted
  rw [candidateNames_eq_map_attempt] at listed
  obtain ⟨other, inRange, rfl⟩ := List.mem_map.1 listed
  have succeeds : ∃ index, ¬ grammar.Declares (attempt wanted index) := ⟨other, free⟩
  refine ⟨Nat.find succeeds, ⟨Nat.find_spec succeeds, ?_⟩, ?_⟩
  · intro index later
    exact Nat.find_min' succeeds later
  · have notLater := Nat.find_min' succeeds free
    have bound := List.mem_range.1 inRange
    omega

theorem freshName_eq_attempt {index : Nat}
    (first : IsLeast {index | ¬ grammar.Declares (attempt wanted index)} index) :
    grammar.freshName wanted = attempt wanted index := by
  obtain ⟨other, otherFirst, bound⟩ := exists_first_attempt grammar wanted
  obtain rfl : index = other := first.unique otherFirst
  have chosen : (List.range (27 + (grammar.terminals.toList.length +
      grammar.nonTerminals.toList.length + 1))).find?
        ((fun name => ! decide (grammar.Declares name)) ∘ attempt wanted) = some index := by
    rw [List.find?_range_eq_some]
    refine ⟨by simpa using first.1, List.mem_range.2 bound, ?_⟩
    intro earlier before
    by_contra passed
    have free : ¬ grammar.Declares (attempt wanted earlier) := by simpa using passed
    have notLater := first.2 free
    omega
  rw [freshName, candidateNames_eq_map_attempt, List.find?_map, chosen, Option.map_some,
    Option.getD_some]

theorem freshName_eq_self (free : ¬ grammar.Declares wanted) :
    grammar.freshName wanted = wanted := by
  have first : IsLeast {index | ¬ grammar.Declares (attempt wanted index)} 0 :=
    ⟨free, fun _ _ => Nat.zero_le _⟩
  exact freshName_eq_attempt first

theorem freshName_eq_letter (taken : grammar.Declares wanted) {letter : Symbol}
    (isFirst : IsFirst (fun name => ¬ grammar.Declares name) letterNames letter) :
    grammar.freshName wanted = letter := by
  obtain ⟨free, before, after, cut, earlier⟩ := isFirst
  have atLetter : attempt wanted (before.length + 1) = letter := by
    apply attempt_letter
    simp [cut]
  have first : IsLeast {index | ¬ grammar.Declares (attempt wanted index)}
      (before.length + 1) := by
    constructor
    · change ¬ grammar.Declares (attempt wanted (before.length + 1))
      rw [atLetter]
      exact free
    · intro index succeeds
      by_contra sooner
      cases index with
      | zero => exact succeeds taken
      | succ index =>
          have inBefore : index < before.length := by omega
          have listed : letterNames[index]? = some before[index] := by
            rw [cut, List.getElem?_append_left inBefore, List.getElem?_eq_getElem inBefore]
          have passed : grammar.Declares before[index] :=
            Classical.not_not.1 (earlier _ (List.getElem_mem inBefore))
          change ¬ grammar.Declares (attempt wanted (index + 1)) at succeeds
          rw [attempt_letter listed] at succeeds
          exact succeeds passed
  rw [freshName_eq_attempt first, atLetter]

/-- If all letters are taken as well, the least number that makes the name free is put
behind it. -/
theorem exists_freshName_eq_numberedName (taken : grammar.Declares wanted)
    (letters : ∀ letter ∈ letterNames, grammar.Declares letter) :
    ∃ number, IsLeast {number | ¬ grammar.Declares (numberedName wanted number)} number ∧
      grammar.freshName wanted = numberedName wanted number := by
  obtain ⟨index, first, _⟩ := exists_first_attempt grammar wanted
  have numbered : ∃ number, index = 27 + number := by
    by_contra early
    have inNames : index < (wanted :: letterNames).length := by
      rw [List.length_cons, length_letterNames]
      by_contra beyond
      exact early ⟨index - 27, by omega⟩
    have attempted : attempt wanted index = (wanted :: letterNames)[index] := by
      rw [attempt, List.getElem?_eq_getElem inNames]
    have passed : ∀ name ∈ wanted :: letterNames, grammar.Declares name :=
      List.forall_mem_cons.2 ⟨taken, letters⟩
    apply first.1
    rw [attempted]
    exact passed _ (List.getElem_mem inNames)
  obtain ⟨number, rfl⟩ := numbered
  have chosen := freshName_eq_attempt first
  have free : ¬ grammar.Declares (attempt wanted (27 + number)) := first.1
  rw [attempt_numbered] at chosen free
  refine ⟨number, ⟨free, ?_⟩, chosen⟩
  intro other otherFree
  have succeeds : ¬ grammar.Declares (attempt wanted (27 + other)) := by
    rw [attempt_numbered]
    exact otherFree
  have notLater := first.2 succeeds
  omega

/-- The search for a free name ends with the chosen one, after no more names than are
listed, and with no other. The chosen name is neither a terminal nor a non-terminal: it is
the wanted name if that is free, otherwise the first free letter, and otherwise the wanted
name with the least possible number behind it. -/
theorem search_ends_with_freshName (grammar : Grammar) (wanted : Symbol) :
    (∃ count ≤ 27 + grammar.nonTerminals.toList.length + grammar.terminals.toList.length + 1,
        grammar.Search wanted 0 count (grammar.freshName wanted)) ∧
      (∀ count name, grammar.Search wanted 0 count name → name = grammar.freshName wanted) ∧
      ¬ grammar.freshName wanted ∈ grammar.terminals ∧
      ¬ grammar.freshName wanted ∈ grammar.nonTerminals ∧
      (¬ grammar.Declares wanted → grammar.freshName wanted = wanted) ∧
      (grammar.Declares wanted → ∀ letter,
        IsFirst (fun name => ¬ grammar.Declares name) letterNames letter →
          grammar.freshName wanted = letter) ∧
      (grammar.Declares wanted → (∀ letter ∈ letterNames, grammar.Declares letter) →
        ∃ number, IsLeast {number | ¬ grammar.Declares (numberedName wanted number)} number ∧
          grammar.freshName wanted = numberedName wanted number) := by
  obtain ⟨index, first, bound⟩ := exists_first_attempt grammar wanted
  have ends : grammar.Search wanted 0 (index + 1) (grammar.freshName wanted) := by
    rw [freshName_eq_attempt first]
    have search : grammar.Search wanted 0 (index + 1) (attempt wanted (0 + index)) := by
      apply search_of_taken_before
      · rw [Nat.zero_add]
        exact first.1
      · intro earlier before
        by_contra free
        rw [Nat.zero_add] at free
        have notLater := first.2 free
        omega
    rwa [Nat.zero_add] at search
  refine ⟨⟨index + 1, by omega, ends⟩, ?_, ?_, ?_, freshName_eq_self,
    fun taken _ => freshName_eq_letter taken, exists_freshName_eq_numberedName⟩
  · intro count name search
    exact (search.unique ends).2
  · intro isTerminal
    exact not_declares_freshName (Or.inl isTerminal)
  · exact freshName_not_mem_nonTerminals

/-- A grammar that has taken all letters and some numbered names. -/
def exhausted : Grammar :=
  .ofLists (letterNames ++ [⟨"K0"⟩, ⟨"K00"⟩]) [⟨"a"⟩, ⟨"K1"⟩]
    [(⟨"S"⟩, [.symbols [⟨"a"⟩, ⟨"K0"⟩]]), (⟨"K0"⟩, [.symbols [⟨"K1"⟩]])] ⟨"S"⟩

/-- A grammar that has taken the wanted name and two letters. -/
def partlyTaken : Grammar :=
  .ofLists [⟨"S"⟩, ⟨"K"⟩, ⟨"Z"⟩] [⟨"a"⟩, ⟨"Y"⟩] [(⟨"S"⟩, [.symbols [⟨"Y"⟩]])] ⟨"S"⟩

theorem exhausted_and_partlyTaken_freshName :
    exhausted.WellFormed ∧ exhausted.Declares ⟨"K"⟩ ∧
      (∀ letter ∈ letterNames, exhausted.Declares letter) ∧
      exhausted.freshName ⟨"K"⟩ = ⟨"K2"⟩ ∧
      (∃ count ≤ 58, exhausted.Search ⟨"K"⟩ 0 count ⟨"K2"⟩) ∧
      IsLeast {number | ¬ exhausted.Declares (numberedName ⟨"K"⟩ number)} 2 ∧
      partlyTaken.WellFormed ∧ partlyTaken.freshName ⟨"K"⟩ = ⟨"X"⟩ ∧
      partlyTaken.freshName ⟨"q1"⟩ = ⟨"q1"⟩ := by
  have taken : exhausted.Declares ⟨"K"⟩ := by decide +kernel
  have letters : ∀ letter ∈ letterNames, exhausted.Declares letter := by decide +kernel
  have chosen : exhausted.freshName ⟨"K"⟩ = numberedName ⟨"K"⟩ 2 := by decide +kernel
  obtain ⟨⟨count, bound, search⟩, _, _, _, _, _, numbered⟩ :=
    search_ends_with_freshName exhausted ⟨"K"⟩
  have few : 27 + exhausted.nonTerminals.toList.length + exhausted.terminals.toList.length + 1 =
      58 := by decide +kernel
  obtain ⟨number, least, same⟩ := numbered taken letters
  rw [chosen] at search same
  obtain rfl : 2 = number := numberedName_injective same
  obtain ⟨_, _, _, _, _, atLetter, _⟩ := search_ends_with_freshName partlyTaken ⟨"K"⟩
  obtain ⟨_, _, _, _, free, _, _⟩ := search_ends_with_freshName partlyTaken ⟨"q1"⟩
  refine ⟨defect?_eq_none_iff.1 (by decide +kernel), taken, letters, chosen, ⟨count, few ▸ bound, search⟩,
    least, defect?_eq_none_iff.1 (by decide), ?_, free (by decide)⟩
  apply atLetter (by decide)
  exact ⟨by decide, [⟨"Z"⟩, ⟨"Y"⟩], letterNames.drop 3, by decide, by decide⟩

end Grammar
end RightLinear
