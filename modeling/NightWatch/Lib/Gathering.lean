import Mathlib

/-!
Loops that only ever add to what they have seen. Such a loop is described by a view of its
state in a join-semilattice and by the value each element adds: the view of the result is
the join of everything added, whatever else the state remembers.
-/

namespace NightWatch.Lib.Gathering

universe u v w z

variable {σ : Type u} {ι : Type v} {ε : Type w} {L : Type z} [SemilatticeSup L] [OrderBot L]

def gathered (value : ι → L) (xs : List ι) : L := ((xs : Multiset ι).map value).sup

variable {value : ι → L}

@[simp] theorem gathered_nil : gathered value [] = ⊥ := rfl

@[simp] theorem gathered_cons (x : ι) (xs : List ι) :
    gathered value (x :: xs) = value x ⊔ gathered value xs := by
  unfold gathered
  rw [← Multiset.cons_coe, Multiset.map_cons, Multiset.sup_cons]

theorem mem_sup {α : Type*} (s t : Set α) (a : α) : a ∈ s ⊔ t ↔ a ∈ s ∨ a ∈ t := Iff.rfl

theorem mem_gathered {α : Type*} {s : ι → Set α} (xs : List ι) (a : α) :
    a ∈ gathered s xs ↔ ∃ x ∈ xs, a ∈ s x := by
  induction xs with
  | nil => simp
  | cons x xs ih => simp [ih]

variable {view : σ → L} {step : σ → ι → Except ε σ}

theorem foldlM_gathers {xs : List ι}
    (hstep : ∀ x ∈ xs, ∀ s, ∃ s', step s x = .ok s' ∧ view s' = view s ⊔ value x) (s : σ) :
    ∃ s', xs.foldlM step s = .ok s' ∧ view s' = view s ⊔ gathered value xs := by
  induction xs generalizing s with
  | nil => exact ⟨s, rfl, by simp⟩
  | cons x xs ih =>
      obtain ⟨s₁, hs₁, hview₁⟩ := hstep x (List.mem_cons_self) s
      obtain ⟨s₂, hs₂, hview₂⟩ := ih (fun y hy => hstep y (List.mem_cons_of_mem x hy)) s₁
      refine ⟨s₂, ?_, ?_⟩
      · rw [List.foldlM_cons, hs₁]
        exact hs₂
      · rw [hview₂, hview₁, gathered_cons, sup_assoc]

theorem foldl_gathers {step : σ → ι → σ} (hstep : ∀ s x, view (step s x) = view s ⊔ value x)
    (xs : List ι) (s : σ) : view (xs.foldl step s) = view s ⊔ gathered value xs := by
  induction xs generalizing s with
  | nil => simp
  | cons x xs ih => rw [List.foldl_cons, ih, hstep, gathered_cons, sup_assoc]

end NightWatch.Lib.Gathering
