import RightLinear.Graph
import RightLinear.Proofs.Automaton.Run
import RightLinear.Proofs.Conversion.Alternatives
import RightLinear.Proofs.Regrouping

/-! # The edges of a drawing

A drawing groups the transitions by the two states that they connect, where the automaton
groups them by source and letter. No transition is lost and none is drawn twice: there is one
edge for each two states that are connected, and its letters are those that connect them, in
the order of the keys.
-/

namespace RightLinear
namespace Automaton

variable {automaton : Automaton} {source target letter : Symbol}

/-- The letters that lead from one state to another, in the order of the keys. -/
def lettersBetween (automaton : Automaton) (source target : Symbol) : List Symbol :=
  (automaton.transitions.groups.filter fun group =>
    group.1.1 = source ∧ target ∈ group.2).map fun group => group.1.2

/-- The source and target of each transition, one key after the other, and under each key
one target after the other. -/
def connections (automaton : Automaton) : List (Symbol × Symbol) :=
  automaton.transitions.pairs.map fun transition => (transition.1.1, transition.2)

theorem mem_lettersBetween :
    letter ∈ automaton.lettersBetween source target ↔ target ∈ automaton.targets source letter := by
  rw [lettersBetween, targets, Grouping.mem_values_iff_exists_group, List.mem_map]
  constructor
  · rintro ⟨group, listed, rfl⟩
    obtain ⟨inGroups, leads⟩ := List.mem_filter.1 listed
    obtain ⟨rfl, member⟩ := of_decide_eq_true leads
    exact ⟨group, inGroups, rfl, member⟩
  · rintro ⟨⟨key, members⟩, inGroups, rfl, member⟩
    exact ⟨_, List.mem_filter.2 ⟨inGroups, decide_eq_true ⟨rfl, member⟩⟩, rfl⟩

/-- The letters keep the order of the keys to which they belong. -/
theorem sublist_keys_lettersBetween (automaton : Automaton) (source target : Symbol) :
    ((automaton.lettersBetween source target).map fun letter => (source, letter)).Sublist
      automaton.transitions.keys := by
  have keys : (automaton.lettersBetween source target).map (fun letter => (source, letter)) =
      (automaton.transitions.groups.filter fun group =>
        group.1.1 = source ∧ target ∈ group.2).map Prod.fst := by
    rw [lettersBetween, List.map_map]
    apply List.map_congr_left
    intro group listed
    obtain ⟨rfl, _⟩ := of_decide_eq_true (List.mem_filter.1 listed).2
    rfl
  rw [keys]
  exact List.filter_sublist.map Prod.fst

theorem nodup_lettersBetween (automaton : Automaton) (source target : Symbol) :
    (automaton.lettersBetween source target).Nodup := by
  have distinct := (sublist_keys_lettersBetween automaton source target).nodup
    automaton.transitions.nodup_keys
  exact distinct.of_map _

theorem mem_connections :
    (source, target) ∈ automaton.connections ↔
      ∃ letter, target ∈ automaton.targets source letter := by
  rw [connections, List.mem_map]
  constructor
  · rintro ⟨⟨⟨first, letter⟩, last⟩, paired, same⟩
    cases same
    exact ⟨letter, Grouping.mem_pairs.1 paired⟩
  · rintro ⟨letter, leads⟩
    exact ⟨((source, letter), target), Grouping.mem_pairs.2 leads, rfl⟩

/-- A group connects two states by its letter once or not at all. -/
theorem filter_pairs_of_group (group : (Symbol × Symbol) × OrderedSet Symbol)
    (source target : Symbol) :
    ((group.2.toList.map fun last => (group.1, last)).filter fun transition =>
        (transition.1.1, transition.2) = (source, target)) =
      if group.1.1 = source ∧ target ∈ group.2 then [(group.1, target)] else [] := by
  rw [List.filter_map]
  by_cases atSource : group.1.1 = source
  · have selected : group.2.toList.filter ((fun transition : (Symbol × Symbol) × Symbol =>
        decide ((transition.1.1, transition.2) = (source, target))) ∘ fun last => (group.1, last)) =
          group.2.toList.filter fun last => last = target := by
      apply List.filter_congr
      intro last _
      simp [atSource]
    rw [selected, List.filter_eq, group.2.nodup.count]
    by_cases present : target ∈ group.2.toList
    · rw [if_pos present, if_pos ⟨atSource, present⟩]
      rfl
    · rw [if_neg present, if_neg fun both => present both.2]
      rfl
  · rw [if_neg fun both => atSource both.1, List.map_eq_nil_iff, List.filter_eq_nil_iff]
    intro last _ same
    exact atSource (Prod.mk.inj (of_decide_eq_true same)).1

theorem lettersBetween_eq_map_pairs (automaton : Automaton) (source target : Symbol) :
    (automaton.transitions.pairs.filter fun transition =>
        (transition.1.1, transition.2) = (source, target)).map (fun transition => transition.1.2) =
      automaton.lettersBetween source target := by
  unfold Grouping.pairs lettersBetween
  induction automaton.transitions.groups with
  | nil => rfl
  | cons group groups induction =>
      rw [List.flatMap_cons, List.filter_append, List.map_append, induction,
        filter_pairs_of_group]
      by_cases leads : group.1.1 = source ∧ target ∈ group.2
      · rw [if_pos leads, List.filter_cons_of_pos (by simpa using leads)]
        rfl
      · rw [if_neg leads, List.filter_cons_of_neg (by simpa using leads)]
        rfl

section Drawing

variable {ends : Symbol × Symbol} {keys : List (Symbol × Symbol)}
  {letters : Symbol × Symbol → List Symbol}

theorem addLetter_of_not_mem (isNew : ¬ ends ∈ keys) :
    addLetter ends letter (keys.map fun key => (key, letters key)) =
      (keys.map fun key => (key, letters key)) ++ [(ends, [letter])] := by
  induction keys with
  | nil => rfl
  | cons key keys induction =>
      rw [List.mem_cons, not_or] at isNew
      rw [List.map_cons, addLetter, if_neg fun same => isNew.1 same.symm, induction isNew.2,
        List.cons_append]

theorem addLetter_of_mem (distinct : keys.Nodup) (drawn : ends ∈ keys) :
    addLetter ends letter (keys.map fun key => (key, letters key)) =
      keys.map fun key => (key, if key = ends then letters key ++ [letter] else letters key) := by
  induction keys with
  | nil => exact absurd drawn List.not_mem_nil
  | cons key keys induction =>
      obtain ⟨isNew, others⟩ := List.nodup_cons.1 distinct
      rw [List.map_cons, List.map_cons, addLetter]
      by_cases here : key = ends
      · subst here
        rw [if_pos rfl, if_pos rfl]
        congr 1
        apply List.map_congr_left
        intro other listed
        rw [if_neg fun same : other = key => isNew (same ▸ listed)]
      · rw [if_neg here, if_neg here,
          induction others ((List.mem_cons.1 drawn).resolve_left fun same => here same.symm)]

/-- Letters that are put on edges one after the other stand on one edge for each two states,
in the order in which they were put there. -/
theorem foldl_addLetter (labelled : List ((Symbol × Symbol) × Symbol)) :
    labelled.foldl (fun drawn pair => addLetter pair.1 pair.2 drawn) [] =
      (OrderedSet.ofList (labelled.map Prod.fst)).toList.map fun ends =>
        (ends, (labelled.filter fun pair => pair.1 = ends).map Prod.snd) := by
  induction labelled using List.reverseRecOn with
  | nil => rfl
  | append_singleton labelled pair induction =>
      obtain ⟨ends, letter⟩ := pair
      have last (key : Symbol × Symbol) :
          ((labelled ++ [(ends, letter)]).filter fun pair => pair.1 = key).map Prod.snd =
            if key = ends then
              (labelled.filter fun pair => pair.1 = key).map Prod.snd ++ [letter]
            else (labelled.filter fun pair => pair.1 = key).map Prod.snd := by
        by_cases same : key = ends
        · simp [same]
        · simp [same, Ne.symm same]
      rw [List.foldl_append, List.foldl_cons, List.foldl_nil, induction, List.map_append,
        List.map_singleton, OrderedSet.ofList_append_singleton, OrderedSet.toList_insert]
      simp only [last]
      by_cases drawn : ends ∈ OrderedSet.ofList (labelled.map Prod.fst)
      · rw [if_pos drawn, addLetter_of_mem (OrderedSet.nodup _) drawn]
      · rw [if_neg drawn, addLetter_of_not_mem drawn, List.map_append, List.map_singleton,
          if_pos rfl]
        have none : labelled.filter (fun pair => pair.1 = ends) = [] := by
          rw [List.filter_eq_nil_iff]
          intro pair listed same
          apply drawn
          rw [OrderedSet.mem_ofList, ← of_decide_eq_true same]
          exact List.mem_map_of_mem listed
        rw [none, List.map_nil, List.nil_append]
        congr 1
        apply List.map_congr_left
        intro key listed
        rw [if_neg fun same : key = ends => drawn (same ▸ listed)]

end Drawing

/-- There is one edge for each two states that are connected, with every letter that connects
them. -/
theorem edges_eq (automaton : Automaton) :
    automaton.edges = (OrderedSet.ofList automaton.connections).toList.map fun ends =>
      (ends, automaton.lettersBetween ends.1 ends.2) := by
  have labelled := foldl_addLetter (automaton.transitions.pairs.map fun transition =>
    ((transition.1.1, transition.2), transition.1.2))
  rw [List.foldl_map, List.map_map] at labelled
  refine labelled.trans ?_
  apply List.map_congr_left
  intro ends _
  rw [← lettersBetween_eq_map_pairs, List.filter_map, List.map_map]
  rfl

/-- No two edges connect the same states in the same direction. -/
theorem nodup_ends (automaton : Automaton) : (automaton.edges.map Prod.fst).Nodup := by
  have ends : automaton.edges.map Prod.fst = (OrderedSet.ofList automaton.connections).toList := by
    rw [edges_eq, List.map_map]
    exact List.map_id _
  rw [ends]
  exact OrderedSet.nodup _

theorem text_nodeLine (automaton : Automaton) (state : Symbol) :
    (automaton.nodeLine state).text =
      "  " ++ state.nodeName ++ " [shape=" ++
        (if state ∈ automaton.finals then "doublecircle" else "circle") ++ "];\n" := by
  change "  " ++ state.nodeName ++ " [shape=" ++
    (if state ∈ automaton.finals then "doublecircle" else "circle") ++ "];" ++ "\n" = _
  simp only [String.append_assoc, String.reduceAppend]

theorem text_edgeLine (edge : Edge) :
    (edgeLine edge).text =
      "  " ++ edge.1.1.nodeName ++ " -> " ++ edge.1.2.nodeName ++ " [label=\"" ++
        Symbol.joined "," edge.2 ++ "\"];\n" := by
  change "  " ++ edge.1.1.nodeName ++ " -> " ++ edge.1.2.nodeName ++ " [label=" ++ "\"" ++
    Symbol.joined "," edge.2 ++ "\"];" ++ "\n" = _
  simp only [String.append_assoc, String.reduceAppend]

/-- What the drawing of an automaton shows, if these are the states that its edges connect.
The edges stand in the order in which the transitions first connect their states. -/
structure DrawnWith (automaton : Automaton) (edges : List (Symbol × Symbol)) : Prop where
  lines : automaton.graph.map Piece.text =
    ["digraph FiniteAutomaton \x7b\n", "  rankdir=LR;\n", "  __start [shape=point];\n"] ++
      automaton.states.toList.map (fun state =>
        "  " ++ state.nodeName ++ " [shape=" ++
          (if state ∈ automaton.finals then "doublecircle" else "circle") ++ "];\n") ++
      ["  __start -> " ++ automaton.initial.nodeName ++ ";\n"] ++
      edges.map (fun edge =>
        "  " ++ edge.1.nodeName ++ " -> " ++ edge.2.nodeName ++ " [label=\"" ++
          Symbol.joined "," (automaton.lettersBetween edge.1 edge.2) ++ "\"];\n") ++
      ["\x7d\n"]
  mem_edges : ∀ source target, (source, target) ∈ edges ↔
    ∃ letter, target ∈ automaton.targets source letter
  nodup_edges : edges.Nodup
  first_seen : edges.Pairwise fun first second =>
    automaton.connections.idxOf first < automaton.connections.idxOf second
  declared : automaton.initial ∈ automaton.states ∧
    ∀ edge ∈ edges, edge.1 ∈ automaton.states ∧ edge.2 ∈ automaton.states
  mem_letters : ∀ source target letter, letter ∈ automaton.lettersBetween source target ↔
    target ∈ automaton.targets source letter
  nodup_letters : ∀ source target, (automaton.lettersBetween source target).Nodup
  letters_in_order : ∀ source target,
    ((automaton.lettersBetween source target).map fun letter => (source, letter)).Sublist
      automaton.transitions.keys

theorem map_text_edges (automaton : Automaton) :
    (automaton.edges.map edgeLine).map Piece.text =
      (OrderedSet.ofList automaton.connections).toList.map fun edge =>
        "  " ++ edge.1.nodeName ++ " -> " ++ edge.2.nodeName ++ " [label=\"" ++
          Symbol.joined "," (automaton.lettersBetween edge.1 edge.2) ++ "\"];\n" := by
  rw [edges_eq, List.map_map, List.map_map]
  apply List.map_congr_left
  intro edge _
  exact text_edgeLine _

theorem mem_connected :
    (source, target) ∈ (OrderedSet.ofList automaton.connections).toList ↔
      ∃ letter, target ∈ automaton.targets source letter := by
  rw [OrderedSet.mem_toList, OrderedSet.mem_ofList, mem_connections]

/-- The drawing of an automaton has a node for each state in the order of declaration, and
for each two states exactly one edge if some letter leads from the one to the other, and none
otherwise. The edge has all these letters, each of them once. -/
theorem exists_drawnWith (formed : automaton.WellFormed) :
    ∃ edges, automaton.DrawnWith edges := by
  refine ⟨(OrderedSet.ofList automaton.connections).toList, ?_⟩
  exact {
    lines := by
      have nodes : (automaton.states.toList.map automaton.nodeLine).map Piece.text =
          automaton.states.toList.map fun state =>
            "  " ++ state.nodeName ++ " [shape=" ++
              (if state ∈ automaton.finals then "doublecircle" else "circle") ++ "];\n" := by
        rw [List.map_map]
        exact List.map_congr_left fun state _ => text_nodeLine automaton state
      have startEdge : "  __start -> " ++ automaton.initial.nodeName ++ ";\n" =
          "  __start -> " ++ automaton.initial.nodeName ++ ";" ++ "\n" := by
        simp only [String.append_assoc, String.reduceAppend]
      rw [← map_text_edges, ← nodes, startEdge]
      simp only [graph, List.map_append]
      rfl
    mem_edges := fun _ _ => mem_connected
    nodup_edges := OrderedSet.nodup _
    first_seen := OrderedSet.pairwise_idxOf_ofList automaton.connections
    declared := by
      refine ⟨formed.initial_mem, ?_⟩
      rintro ⟨source, target⟩ listed
      obtain ⟨letter, leads⟩ := mem_connected.1 listed
      obtain ⟨sourceDeclared, _, targetDeclared⟩ := formed.declared_of_mem_targets leads
      exact ⟨sourceDeclared, targetDeclared⟩
    mem_letters := fun _ _ _ => mem_lettersBetween
    nodup_letters := nodup_lettersBetween automaton
    letters_in_order := sublist_keys_lettersBetween automaton }

/-- An automaton with a loop, with parallel transitions whose keys stand apart from each
other, and with a key without targets. -/
def tangled : Automaton :=
  .ofLists [⟨"q"⟩, ⟨"p"⟩] [⟨"a"⟩, ⟨"b"⟩, ⟨"c"⟩]
    [((⟨"p"⟩, ⟨"c"⟩), [⟨"q"⟩, ⟨"p"⟩]), ((⟨"q"⟩, ⟨"a"⟩), []), ((⟨"q"⟩, ⟨"b"⟩), [⟨"p"⟩]),
      ((⟨"p"⟩, ⟨"a"⟩), [⟨"q"⟩])] ⟨"p"⟩ [⟨"q"⟩]

theorem tangled_drawnWith :
    tangled.WellFormed ∧ tangled.lettersBetween ⟨"p"⟩ ⟨"q"⟩ = [⟨"c"⟩, ⟨"a"⟩] ∧
      ∃ edges, tangled.DrawnWith edges ∧ (⟨"p"⟩, ⟨"p"⟩) ∈ edges ∧ ¬ (⟨"q"⟩, ⟨"q"⟩) ∈ edges := by
  have formed : tangled.WellFormed := defect?_eq_none_iff.1 (by decide)
  obtain ⟨edges, drawn⟩ := exists_drawnWith formed
  refine ⟨formed, by decide, edges, drawn, (drawn.mem_edges _ _).2 ⟨⟨"c"⟩, by decide⟩, ?_⟩
  intro looped
  obtain ⟨letter, leads⟩ := (drawn.mem_edges _ _).1 looped
  have unlabelled : tangled.lettersBetween ⟨"q"⟩ ⟨"q"⟩ = [] := by decide
  have member := (drawn.mem_letters _ _ letter).2 leads
  rw [unlabelled] at member
  exact List.not_mem_nil member

end Automaton
end RightLinear
