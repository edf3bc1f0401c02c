/-! # Insertion-ordered sets

An `OrderedSet` lists its members without repetition, in the order in which
they were first inserted. Two sets can hold the same members in different
orders; `Same` compares them with the order forgotten.
-/

namespace RightLinear

/-- A list of distinct members; its order is the order of first insertion. -/
structure OrderedSet (α : Type) where
  toList : List α
  nodup : toList.Nodup
  deriving DecidableEq

namespace OrderedSet

variable {α : Type} [DecidableEq α]

omit [DecidableEq α] in
@[ext] theorem ext {first second : OrderedSet α}
    (same : first.toList = second.toList) : first = second := by
  cases first
  cases second
  cases same
  rfl

instance : Membership α (OrderedSet α) := ⟨fun set member => member ∈ set.toList⟩

instance (member : α) (set : OrderedSet α) : Decidable (member ∈ set) :=
  inferInstanceAs (Decidable (member ∈ set.toList))

omit [DecidableEq α] in
theorem mem_toList {member : α} {set : OrderedSet α} :
    member ∈ set.toList ↔ member ∈ set := Iff.rfl

instance : EmptyCollection (OrderedSet α) := ⟨⟨[], List.nodup_nil⟩⟩

instance : Inhabited (OrderedSet α) := ⟨∅⟩

omit [DecidableEq α] in
@[simp] theorem toList_empty : (∅ : OrderedSet α).toList = [] := rfl

omit [DecidableEq α] in
@[simp] theorem not_mem_empty (member : α) : ¬ member ∈ (∅ : OrderedSet α) :=
  List.not_mem_nil

omit [DecidableEq α] in
theorem nodup_append_singleton {members : List α} {member : α}
    (distinct : members.Nodup) (fresh : ¬ member ∈ members) :
    (members ++ [member]).Nodup := by
  rw [List.nodup_append]
  refine ⟨distinct, by simp, ?_⟩
  intro first firstMem second secondMem equal
  rw [List.mem_singleton] at secondMem
  exact fresh (secondMem ▸ equal ▸ firstMem)

/-- A new member goes to the end; a member that is already there keeps its
place. -/
def insert (set : OrderedSet α) (member : α) : OrderedSet α :=
  if present : member ∈ set.toList then set
  else ⟨set.toList ++ [member], nodup_append_singleton set.nodup present⟩

def insertAll (set : OrderedSet α) (members : List α) : OrderedSet α :=
  members.foldl insert set

/-- The distinct members of a list in order of first occurrence. -/
def ofList (members : List α) : OrderedSet α :=
  (∅ : OrderedSet α).insertAll members

theorem toList_insert (set : OrderedSet α) (member : α) :
    (set.insert member).toList =
      if member ∈ set then set.toList else set.toList ++ [member] := by
  by_cases present : member ∈ set.toList
  · simp [insert, ← mem_toList, present]
  · simp [insert, ← mem_toList, present]

@[simp] theorem mem_insert {set : OrderedSet α} {old new : α} :
    old ∈ set.insert new ↔ old ∈ set ∨ old = new := by
  rw [← mem_toList, toList_insert]
  by_cases present : new ∈ set
  · rw [if_pos present, mem_toList]
    exact ⟨Or.inl, fun either => either.elim id fun equal => equal ▸ present⟩
  · rw [if_neg present, List.mem_append, List.mem_singleton, mem_toList]

@[simp] theorem mem_insertAll {set : OrderedSet α} {member : α} {members : List α} :
    member ∈ set.insertAll members ↔ member ∈ set ∨ member ∈ members := by
  induction members generalizing set with
  | nil => simp [insertAll]
  | cons head tail induction =>
      change member ∈ (set.insert head).insertAll tail ↔ _
      rw [induction, mem_insert, List.mem_cons, or_assoc]

@[simp] theorem mem_ofList {member : α} {members : List α} :
    member ∈ ofList members ↔ member ∈ members := by
  simp [ofList]

/-- Two sets with the same members, in whatever order. -/
def Same (first second : OrderedSet α) : Prop :=
  (∀ member ∈ first.toList, member ∈ second) ∧
    ∀ member ∈ second.toList, member ∈ first

instance (first second : OrderedSet α) : Decidable (first.Same second) :=
  inferInstanceAs (Decidable (_ ∧ _))

omit [DecidableEq α] in
theorem same_iff {first second : OrderedSet α} :
    first.Same second ↔ ∀ member, member ∈ first ↔ member ∈ second :=
  ⟨fun same member => ⟨same.1 member, same.2 member⟩,
    fun same => ⟨fun member => (same member).1, fun member => (same member).2⟩⟩

end OrderedSet
end RightLinear
