import Mathlib.Data.List.Basic
import Mathlib.Tactic.Lemma

/-!
# Steps that can fail

A chain of steps has a result exactly if each of its steps has one.
-/

namespace Checkup

variable {α β γ ε : Type}

lemma ok_bind (x : α) (f : α → Except ε β) : (Except.ok x >>= f) = f x := rfl

lemma pure_eq_ok (x : α) : (pure x : Except ε α) = .ok x := rfl

lemma bind_eq_ok {x : Except ε α} {f : α → Except ε β} {b : β} :
    (x >>= f) = .ok b ↔ ∃ a, x = .ok a ∧ f a = .ok b := by
  cases x with
  | error e => simp [bind, Except.bind]
  | ok a => simp [bind, Except.bind]

lemma map_eq_ok {x : Except ε α} {f : α → β} {b : β} :
    x.map f = .ok b ↔ ∃ a, x = .ok a ∧ f a = b := by
  cases x with
  | error e => simp [Except.map]
  | ok a => simp [Except.map]

lemma mapM_eq_ok {f : α → Except ε β} {g : α → β} {xs : List α} (h : ∀ x ∈ xs, f x = .ok (g x)) :
    xs.mapM f = .ok (xs.map g) := by
  induction xs with
  | nil => rfl
  | cons x xs ih =>
    obtain ⟨hx, hxs⟩ := List.forall_mem_cons.mp h
    rw [List.mapM_cons, hx, ih hxs]
    rfl

/-- What comes out of a list of steps comes out of one of them. -/
lemma exists_of_mem_mapM {f : α → Except ε β} {xs : List α} {ys : List β}
    (h : xs.mapM f = .ok ys) {y : β} (hy : y ∈ ys) : ∃ x ∈ xs, f x = .ok y := by
  induction xs generalizing ys with
  | nil =>
    rw [List.mapM_nil, pure_eq_ok, Except.ok.injEq] at h
    rw [← h] at hy
    simp at hy
  | cons x xs ih =>
    simp only [List.mapM_cons, bind_eq_ok, pure_eq_ok, Except.ok.injEq] at h
    obtain ⟨z, hz, zs, hzs, rfl⟩ := h
    rcases List.mem_cons.mp hy with rfl | hy
    · exact ⟨x, List.mem_cons_self, hz⟩
    · obtain ⟨w, hw, hwy⟩ := ih hzs hy
      exact ⟨w, List.mem_cons_of_mem x hw, hwy⟩

/-- A loop whose steps all succeed succeeds. -/
lemma forIn_eq_ok {f : α → PUnit.{1} → Except ε (ForInStep PUnit.{1})} {xs : List α}
    (h : ∀ x ∈ xs, f x ⟨⟩ = .ok (.yield ⟨⟩)) : forIn xs ⟨⟩ f = .ok ⟨⟩ := by
  induction xs with
  | nil => rfl
  | cons x xs ih =>
    obtain ⟨hx, hxs⟩ := List.forall_mem_cons.mp h
    rw [List.forIn_cons, hx]
    exact ih hxs

end Checkup
