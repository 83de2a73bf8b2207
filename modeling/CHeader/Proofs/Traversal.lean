import Mathlib.Data.List.Forall2

/-!
# Traversals that may fail

A list is traversed from front to back by a function that may fail.  The traversal succeeds exactly
if the function succeeds everywhere, and otherwise its error is the first one.
-/

namespace CHeader

variable {α β ε : Type}

/-! ## Outcomes -/

section Outcome

variable {ε' : Type} {outcome : Except ε α} {f : α → β} {g : ε → ε'}

theorem except_map_eq_ok_iff {y : β} : outcome.map f = .ok y ↔ ∃ x, outcome = .ok x ∧ f x = y := by
  cases outcome <;> simp [Except.map]

theorem except_map_eq_error_iff {cause : ε} :
    outcome.map f = .error cause ↔ outcome = .error cause := by
  cases outcome <;> simp [Except.map]

theorem except_mapError_eq_ok_iff {x : α} : outcome.mapError g = .ok x ↔ outcome = .ok x := by
  cases outcome <;> simp [Except.mapError]

theorem except_mapError_eq_error_iff {other : ε'} :
    outcome.mapError g = .error other ↔ ∃ cause, outcome = .error cause ∧ g cause = other := by
  cases outcome <;> simp [Except.mapError]

theorem except_bind_eq_ok_iff {next : α → Except ε β} {y : β} :
    (outcome >>= next) = .ok y ↔ ∃ x, outcome = .ok x ∧ next x = .ok y := by
  cases outcome <;> simp [bind, Except.bind]

theorem except_bind_eq_error_iff {next : α → Except ε β} {cause : ε} :
    (outcome >>= next) = .error cause ↔
      outcome = .error cause ∨ ∃ x, outcome = .ok x ∧ next x = .error cause := by
  cases outcome <;> simp [bind, Except.bind]

/-- Conditions for the results and for the errors that cover all cases describe an outcome. -/
theorem except_eq_iff_of_total {Succeeds : α → Prop} {Fails : ε → Prop}
    (succeeds : ∀ x, Succeeds x → outcome = .ok x)
    (fails : ∀ cause, Fails cause → outcome = .error cause)
    (total : (∃ x, Succeeds x) ∨ ∃ cause, Fails cause) :
    (∀ x, outcome = .ok x ↔ Succeeds x) ∧ ∀ cause, outcome = .error cause ↔ Fails cause := by
  rcases total with ⟨x, success⟩ | ⟨cause, failure⟩
  · have found := succeeds x success
    refine ⟨fun y => ⟨fun also => ?_, succeeds y⟩, fun cause => ⟨fun also => ?_, fails cause⟩⟩
    · cases found.symm.trans also
      exact success
    · cases found.symm.trans also
  · have found := fails cause failure
    refine ⟨fun y => ⟨fun also => ?_, succeeds y⟩, fun other => ⟨fun also => ?_, fails other⟩⟩
    · cases found.symm.trans also
    · cases found.symm.trans also
      exact failure

theorem except_exists_error_iff : (∃ cause, outcome = .error cause) ↔ ¬ ∃ x, outcome = .ok x := by
  cases outcome <;> simp

end Outcome

variable {f : α → Except ε β}

/-! ## Success -/

theorem mapM_cons_eq_ok_iff {x : α} {xs : List α} {ys : List β} :
    (x :: xs).mapM f = .ok ys ↔ ∃ z zs, f x = .ok z ∧ xs.mapM f = .ok zs ∧ ys = z :: zs := by
  simp only [List.mapM_cons, except_bind_eq_ok_iff, pure, Except.pure, Except.ok.injEq,
    exists_and_left, @eq_comm _ ys]

/-- A successful traversal succeeds at each place. -/
theorem mapM_eq_ok_iff {xs : List α} {ys : List β} :
    xs.mapM f = .ok ys ↔ List.Forall₂ (fun x y => f x = .ok y) xs ys := by
  induction xs generalizing ys with
  | nil => simp [pure, Except.pure, eq_comm]
  | cons x xs ih =>
      rw [mapM_cons_eq_ok_iff, List.forall₂_cons_left_iff]
      simp only [ih, exists_and_left]

/-- The outcome of a traversal, each result beside the element that it comes from. -/
theorem exists_pairs_of_mapM {xs : List α} {ys : List β} (mapped : xs.mapM f = .ok ys) :
    ∃ pairs : List (α × β), xs = pairs.map Prod.fst ∧ ys = pairs.map Prod.snd ∧
      ∀ pair ∈ pairs, f pair.1 = .ok pair.2 := by
  induction xs generalizing ys with
  | nil =>
      obtain rfl := Except.ok.inj mapped
      exact ⟨[], rfl, rfl, by simp⟩
  | cons x xs ih =>
      obtain ⟨z, zs, image, later, rfl⟩ := mapM_cons_eq_ok_iff.mp mapped
      obtain ⟨pairs, rfl, rfl, images⟩ := ih later
      exact ⟨(x, z) :: pairs, rfl, rfl, List.forall_mem_cons.mpr ⟨image, images⟩⟩

theorem mapM_pairs {pairs : List (α × β)} (images : ∀ pair ∈ pairs, f pair.1 = .ok pair.2) :
    (pairs.map Prod.fst).mapM f = .ok (pairs.map Prod.snd) := by
  induction pairs with
  | nil => rfl
  | cons pair pairs ih =>
      obtain ⟨image, images⟩ := List.forall_mem_cons.mp images
      exact mapM_cons_eq_ok_iff.mpr ⟨_, _, image, ih images, rfl⟩

theorem exists_mem_of_mem_mapM {xs : List α} {ys : List β} (mapped : xs.mapM f = .ok ys) {y : β}
    (member : y ∈ ys) : ∃ x ∈ xs, f x = .ok y := by
  obtain ⟨pairs, rfl, rfl, images⟩ := exists_pairs_of_mapM mapped
  obtain ⟨pair, listed, rfl⟩ := List.mem_map.mp member
  exact ⟨pair.1, List.mem_map_of_mem listed, images pair listed⟩

theorem exists_mem_mapM_of_mem {xs : List α} {ys : List β} (mapped : xs.mapM f = .ok ys) {x : α}
    (member : x ∈ xs) : ∃ y ∈ ys, f x = .ok y := by
  obtain ⟨pairs, rfl, rfl, images⟩ := exists_pairs_of_mapM mapped
  obtain ⟨pair, listed, rfl⟩ := List.mem_map.mp member
  exact ⟨pair.2, List.mem_map_of_mem listed, images pair listed⟩

theorem exists_mapM_eq_ok {xs : List α} (each : ∀ x ∈ xs, ∃ y, f x = .ok y) :
    ∃ ys, xs.mapM f = .ok ys := by
  induction xs with
  | nil => exact ⟨[], rfl⟩
  | cons x xs ih =>
      obtain ⟨⟨z, image⟩, later⟩ := List.forall_mem_cons.mp each
      obtain ⟨zs, mapped⟩ := ih later
      exact ⟨z :: zs, mapM_cons_eq_ok_iff.mpr ⟨z, zs, image, mapped, rfl⟩⟩

/-! ## Failure -/

theorem mapM_cons_eq_error_iff {x : α} {xs : List α} {cause : ε} :
    (x :: xs).mapM f = .error cause ↔
      f x = .error cause ∨ ∃ z, f x = .ok z ∧ xs.mapM f = .error cause := by
  simp only [List.mapM_cons, except_bind_eq_error_iff, pure, Except.pure, reduceCtorEq, and_false,
    exists_false, or_false]

/-- The first element that stops is the head, or it comes later and the head passes. -/
theorem exists_first_cons_iff {Passed Stopped : α → Prop} {x : α} {xs : List α} :
    (∃ front y back, x :: xs = front ++ y :: back ∧ (∀ earlier ∈ front, Passed earlier) ∧
      Stopped y) ↔
      Stopped x ∨ Passed x ∧ ∃ front y back, xs = front ++ y :: back ∧
        (∀ earlier ∈ front, Passed earlier) ∧ Stopped y := by
  constructor
  · rintro ⟨front, y, back, split, before, stopped⟩
    cases front with
    | nil =>
        obtain ⟨rfl, rfl⟩ := List.cons.inj split
        exact .inl stopped
    | cons first front =>
        obtain ⟨rfl, rfl⟩ := List.cons.inj split
        obtain ⟨passed, before⟩ := List.forall_mem_cons.mp before
        exact .inr ⟨passed, front, y, back, rfl, before, stopped⟩
  · rintro (stopped | ⟨passed, front, y, back, rfl, before, stopped⟩)
    · exact ⟨[], x, xs, rfl, by simp, stopped⟩
    · exact ⟨x :: front, y, back, rfl, List.forall_mem_cons.mpr ⟨passed, before⟩, stopped⟩

/-- The error of a traversal is the first one. -/
theorem mapM_eq_error_iff {xs : List α} {cause : ε} :
    xs.mapM f = .error cause ↔ ∃ front x back, xs = front ++ x :: back ∧
      (∀ earlier ∈ front, ∃ y, f earlier = .ok y) ∧ f x = .error cause := by
  induction xs with
  | nil => simp [pure, Except.pure]
  | cons x xs ih => rw [mapM_cons_eq_error_iff, ih, exists_first_cons_iff, exists_and_right]

end CHeader
