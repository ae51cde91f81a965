import Mathlib

/-!
Validators as sequences of guards in `Except`, and what a success of one says.
-/

namespace NightWatch.Lib.Guard

universe u v

variable {ε : Type u} {α β : Type v}

theorem bind_eq_ok {x : Except ε α} {f : α → Except ε β} {b : β} :
    (x >>= f) = .ok b ↔ ∃ a, x = .ok a ∧ f a = .ok b := by
  cases x with
  | error e =>
      constructor
      · intro h
        contradiction
      · rintro ⟨a, h, -⟩
        contradiction
  | ok a =>
      constructor
      · intro h
        exact ⟨a, rfl, h⟩
      · rintro ⟨a', h, hf⟩
        cases h
        exact hf

/-- A `for` loop whose body only refuses. -/
def forEach {α : Type*} (check : α → Except ε Unit) : List α → Except ε Unit
  | [] => .ok ()
  | x :: rest => do
      check x
      forEach check rest

theorem forEach_eq_ok {α : Type*} {check : α → Except ε Unit} {xs : List α} :
    forEach check xs = .ok () ↔ ∀ x ∈ xs, check x = .ok () := by
  induction xs with
  | nil => simp [forEach]
  | cons x xs ih =>
      rw [forEach, bind_eq_ok]
      constructor
      · rintro ⟨_, hx, hxs⟩ y hy
        rcases List.mem_cons.mp hy with rfl | hy
        · exact hx
        · exact ih.mp hxs y hy
      · intro h
        exact ⟨(), h x (by simp), ih.mpr fun y hy => h y (by simp [hy])⟩

theorem ite_eq_ok {p : Prop} [Decidable p] {x : Except ε Unit} :
    (if p then x else .ok ()) = .ok () ↔ (p → x = .ok ()) := by
  by_cases hp : p
  · simp [hp]
  · simp [hp]

end NightWatch.Lib.Guard
