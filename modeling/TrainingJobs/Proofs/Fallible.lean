/-
Steps that may fail. What a chain of steps comes to is told by its steps: a chain that goes well has gone well at each of
them, and one that fails has gone well up to the one that does.

- `of_bind_eq_ok`, `of_bind_eq_error`, `of_map_eq_ok`, `of_map_eq_error`, `isOk_map_iff`: one step after another;
- `mapError_eq_ok_iff`, `of_mapError_eq_error`: a step whose error is told in other terms;
- `mapM_eq_ok_iff`, `of_mapM_eq_error`: a step that is taken if there is something to take it on;
- `of_foldlM_eq_error`, `forM_eq_ok_iff`, `of_forM_eq_error`: many steps of one kind.
-/
import Mathlib.Tactic

namespace TrainingJobs

variable {ε α β σ : Type}

theorem of_bind_eq_ok {x : Except ε α} {f : α → Except ε β} {b : β} (h : x >>= f = .ok b) :
    ∃ a, x = .ok a ∧ f a = .ok b := by
  cases x with
  | error e => cases h
  | ok a => exact ⟨a, rfl, h⟩

theorem of_bind_eq_error {x : Except ε α} {f : α → Except ε β} {e : ε} (h : x >>= f = .error e) :
    x = .error e ∨ ∃ a, x = .ok a ∧ f a = .error e := by
  cases x with
  | error =>
    cases h
    exact .inl rfl
  | ok a => exact .inr ⟨a, rfl, h⟩

theorem of_map_eq_ok {x : Except ε α} {f : α → β} {b : β} (h : f <$> x = .ok b) :
    ∃ a, x = .ok a ∧ f a = b := by
  cases x with
  | error e => cases h
  | ok a => exact ⟨a, rfl, Except.ok.inj h⟩

theorem of_map_eq_error {x : Except ε α} {f : α → β} {e : ε} (h : f <$> x = .error e) : x = .error e := by
  cases x with
  | error e' => exact congrArg _ (Except.error.inj h)
  | ok a => cases h

theorem isOk_map_iff {x : Except ε α} {f : α → β} : (∃ b, f <$> x = .ok b) ↔ ∃ a, x = .ok a := by
  cases x <;> simp [Functor.map, Except.map]

theorem mapError_eq_ok_iff {ε' : Type} {f : ε → ε'} {x : Except ε α} {a : α} : x.mapError f = .ok a ↔ x = .ok a := by
  cases x <;> simp [Except.mapError]

theorem of_mapError_eq_error {ε' : Type} {f : ε → ε'} {x : Except ε α} {e' : ε'} (h : x.mapError f = .error e') :
    ∃ e, x = .error e ∧ e' = f e := by
  cases x with
  | error e => exact ⟨e, rfl, (Except.error.inj h).symm⟩
  | ok a => cases h

theorem eq_ok_of_isSome {x : Except ε α} (h : x.toOption.isSome = true) : ∃ a, x = .ok a := by
  cases x with
  | error e => cases h
  | ok a => exact ⟨a, rfl⟩

/-- a step that gives what stands in a relation gives it of whatever there is -/
theorem mapM_eq_ok_iff {f : α → Except ε β} {R : α → β → Prop} (hf : ∀ a b, f a = .ok b ↔ R a b) {x : Option α}
    {y : Option β} : x.mapM f = .ok y ↔ Option.Rel R x y := by
  cases x with
  | none =>
    constructor
    · intro h
      cases h
      exact .none
    · intro h
      cases h
      rfl
  | some a =>
    constructor
    · intro h
      obtain ⟨b, hb, rfl⟩ := of_map_eq_ok h
      exact .some ((hf a b).1 hb)
    · intro h
      cases h with
      | some h => exact congrArg (some <$> ·) ((hf a _).2 h)

theorem of_mapM_eq_error {f : α → Except ε β} {x : Option α} {e : ε} (h : x.mapM f = .error e) :
    ∃ a, x = some a ∧ f a = .error e := by
  cases x with
  | none => cases h
  | some a =>
    exact ⟨a, rfl, of_map_eq_error h⟩

/-- a run of steps that fails has gone well up to the one that does -/
theorem of_foldlM_eq_error {f : σ → α → Except ε σ} {xs : List α} {init : σ} {e : ε}
    (h : xs.foldlM f init = .error e) :
    ∃ before x after mid, xs = before ++ x :: after ∧ before.foldlM f init = .ok mid ∧ f mid x = .error e := by
  induction xs generalizing init with
  | nil => cases h
  | cons x rest ih =>
    rw [List.foldlM_cons] at h
    rcases of_bind_eq_error h with hx | ⟨mid, hmid, h⟩
    · exact ⟨[], x, rest, init, rfl, rfl, hx⟩
    · obtain ⟨before, y, after, last, rfl, hbefore, hy⟩ := ih h
      refine ⟨x :: before, y, after, last, rfl, ?_, hy⟩
      rw [List.foldlM_cons, hmid]
      exact hbefore

theorem forM_eq_ok_iff {f : α → Except ε Unit} {xs : List α} : xs.forM f = .ok () ↔ ∀ x ∈ xs, f x = .ok () := by
  induction xs with
  | nil => exact iff_of_true rfl fun _ h => absurd h List.not_mem_nil
  | cons x rest ih =>
    rw [List.forall_mem_cons, ← ih]
    change (f x >>= fun _ => rest.forM f) = .ok () ↔ _
    constructor
    · intro h
      obtain ⟨_, hx, hrest⟩ := of_bind_eq_ok h
      exact ⟨hx, hrest⟩
    · rintro ⟨hx, hrest⟩
      rw [hx]
      exact hrest

theorem of_forM_eq_error {f : α → Except ε Unit} {xs : List α} {e : ε} (h : xs.forM f = .error e) :
    ∃ x ∈ xs, f x = .error e := by
  induction xs with
  | nil => cases h
  | cons x rest ih =>
    change (f x >>= fun _ => rest.forM f) = .error e at h
    rcases of_bind_eq_error h with hx | ⟨_, _, h⟩
    · exact ⟨x, List.mem_cons_self, hx⟩
    · obtain ⟨y, hy, hfails⟩ := ih h
      exact ⟨y, List.mem_cons_of_mem x hy, hfails⟩

end TrainingJobs
