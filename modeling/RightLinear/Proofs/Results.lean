import Mathlib.Data.List.Find

/-! # Results, programs and searches

A step that can fail goes on with its result or stops with its fault. Two steps one
after the other give a result exactly if both do, and what is done to the fault of a
step does not touch its result. A program is a step that also changes a state, which is kept
where it fails. A search through a list ends at the first member that has a property: it has
it, and no member before it does.
-/

namespace RightLinear

section Results

variable {ε δ α β : Type}

@[simp] theorem ok_bind (value : α) (next : α → Except ε β) :
    (Except.ok value >>= next) = next value :=
  rfl

@[simp] theorem error_bind (fault : ε) (next : α → Except ε β) :
    (Except.error fault >>= next) = .error fault :=
  rfl

@[simp] theorem mapError_ok (value : α) (change : ε → δ) :
    (Except.ok value : Except ε α).mapError change = .ok value :=
  rfl

@[simp] theorem mapError_error (fault : ε) (change : ε → δ) :
    (Except.error fault : Except ε α).mapError change = .error (change fault) :=
  rfl

theorem bind_eq_ok_iff {first : Except ε α} {next : α → Except ε β} {result : β} :
    first >>= next = .ok result ↔ ∃ value, first = .ok value ∧ next value = .ok result := by
  cases first with
  | error fault => simp
  | ok value => simp

theorem bind_eq_error_iff {first : Except ε α} {next : α → Except ε β} {fault : ε} :
    first >>= next = .error fault ↔
      first = .error fault ∨ ∃ value, first = .ok value ∧ next value = .error fault := by
  cases first with
  | error other => simp
  | ok value => simp

theorem mapError_eq_ok_iff {first : Except ε α} {change : ε → δ} {result : α} :
    first.mapError change = .ok result ↔ first = .ok result := by
  cases first with
  | error fault => simp
  | ok value => simp

theorem mapError_eq_error_iff {first : Except ε α} {change : ε → δ} {fault : δ} :
    first.mapError change = .error fault ↔ ∃ cause, first = .error cause ∧ change cause = fault := by
  cases first with
  | error cause => simp
  | ok value => simp

/-- Two steps that can only succeed together fail together. -/
theorem exists_errors_or_exists_oks {first : Except ε α} {second : Except δ β}
    (together : (∃ value, first = .ok value) ↔ ∃ value, second = .ok value) :
    (∃ fault other, first = .error fault ∧ second = .error other) ∨
      ∃ value other, first = .ok value ∧ second = .ok other := by
  cases first with
  | error fault =>
      cases second with
      | error other => exact Or.inl ⟨fault, other, rfl, rfl⟩
      | ok other =>
          obtain ⟨value, impossible⟩ := together.2 ⟨other, rfl⟩
          exact nomatch impossible
  | ok value =>
      obtain ⟨other, also⟩ := together.1 ⟨value, rfl⟩
      exact Or.inr ⟨value, other, rfl, also⟩

theorem mapError_bind (first : Except ε α) (next : α → Except ε β) (change : ε → δ) :
    (first >>= next).mapError change =
      first.mapError change >>= fun value => (next value).mapError change := by
  cases first with
  | error fault => rfl
  | ok value => rfl

end Results

section Programs

variable {ε σ α β : Type} {first : EStateM ε σ α} {next : α → EStateM ε σ β}
  {before between after : σ}

theorem bind_of_ok {value : α} (ran : first before = .ok value between) :
    (first >>= next) before = next value between := by
  change EStateM.bind first next before = _
  rw [EStateM.bind, ran]

theorem bind_of_error {fault : ε} (stopped : first before = .error fault after) :
    (first >>= next) before = .error fault after := by
  change EStateM.bind first next before = _
  rw [EStateM.bind, stopped]

theorem run_bind_eq_ok_iff {result : β} :
    (first >>= next) before = .ok result after ↔
      ∃ value between, first before = .ok value between ∧ next value between = .ok result after := by
  cases ran : first before with
  | error fault stopped => simp [bind_of_error ran]
  | ok value between => simp [bind_of_ok ran]

end Programs

section Searches

/-- The first member of a list that has a property. -/
def IsFirst {α : Type} (property : α → Prop) (items : List α) (item : α) : Prop :=
  property item ∧ ∃ before after, items = before ++ item :: after ∧
    ∀ earlier ∈ before, ¬ property earlier

variable {α : Type} {property : α → Prop} {items : List α} {item : α}

theorem find?_eq_some_iff_isFirst {test : α → Bool}
    (decides : ∀ other, test other = true ↔ property other) :
    items.find? test = some item ↔ IsFirst property items item := by
  simp only [List.find?_eq_some_iff_append, IsFirst, ← decides, Bool.not_eq_eq_eq_not,
    Bool.not_true, Bool.not_eq_true]

theorem exists_isFirst (property : α → Prop) (member : item ∈ items) (holds : property item) :
    ∃ first, IsFirst property items first := by
  classical
  have found : (items.find? fun other => decide (property other)).isSome = true :=
    List.find?_isSome.2 ⟨item, member, decide_eq_true holds⟩
  obtain ⟨first, isFound⟩ := Option.isSome_iff_exists.1 found
  exact ⟨first, (find?_eq_some_iff_isFirst fun _ => decide_eq_true_iff).1 isFound⟩

theorem IsFirst.mem (first : IsFirst property items item) : item ∈ items := by
  obtain ⟨_, before, after, rfl, _⟩ := first
  simp

end Searches

end RightLinear
