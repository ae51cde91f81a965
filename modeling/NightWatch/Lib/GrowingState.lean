import NightWatch.Lib.Mirror

/-!
What the results of a computation say of its state for good: of the state it ends in and of
every state that this one grows to.
-/

namespace NightWatch.Lib.GrowingState

open Lib.Mirror

universe u v

variable {σ ε α β : Type u} {γ : Type v}

/-- The computation lets the state grow, and its result satisfies `q` with every later state. -/
def Lasting (le : σ → σ → Prop) (c : Computation σ ε α) (q : σ → α → Prop) : Prop :=
  ∀ s x s', c s = .ok (x, s') → le s s' ∧ ∀ t, le s' t → q t x

variable {le : σ → σ → Prop} {q q' : σ → α → Prop}

theorem Lasting.mono {c : Computation σ ε α} (h : Lasting le c q) (hq : ∀ t x, q t x → q' t x) :
    Lasting le c q' := by
  intro s x s' hrun
  obtain ⟨hgrows, hx⟩ := h s x s' hrun
  exact ⟨hgrows, fun t ht => hq t x (hx t ht)⟩

theorem Lasting.throw (e : ε) : Lasting le (MonadExcept.throw e : Computation σ ε α) q := by
  intro s x s' h
  contradiction

theorem Lasting.ite {p : Prop} [Decidable p] {a b : Computation σ ε α} (ha : p → Lasting le a q)
    (hb : ¬p → Lasting le b q) : Lasting le (if p then a else b) q := by
  by_cases hp : p
  · rw [if_pos hp]
    exact ha hp
  · rw [if_neg hp]
    exact hb hp

variable [IsPreorder σ le]

theorem Lasting.pure {x : α} (h : ∀ t, q t x) : Lasting le (Pure.pure x : Computation σ ε α) q := by
  intro s y s' hrun
  obtain ⟨rfl, rfl⟩ := Prod.mk.inj (Except.ok.inj hrun)
  exact ⟨refl_of le s, fun t _ => h t⟩

theorem Lasting.bind {a : Computation σ ε α} {k : α → Computation σ ε β} {r : α → σ → β → Prop}
    (ha : Lasting le a q) (hk : ∀ x, Lasting le (k x) (r x)) :
    Lasting le (a >>= k) fun t y => ∃ x, q t x ∧ r x t y := by
  intro s y s' hrun
  change (a s >>= fun out => k out.1 out.2) = _ at hrun
  cases hout : a s with
  | error e =>
      rw [hout] at hrun
      contradiction
  | ok out =>
      rw [hout] at hrun
      obtain ⟨hfirst, hx⟩ := ha s out.1 out.2 hout
      obtain ⟨hsecond, hy⟩ := hk out.1 out.2 y s' hrun
      refine ⟨trans_of le hfirst hsecond, fun t ht => ⟨out.1, ?_, hy t ht⟩⟩
      exact hx t (trans_of le hsecond ht)

theorem Lasting.runAll {c : γ → Computation σ ε α} {q : γ → σ → α → Prop} {gs : List γ}
    (h : ∀ g ∈ gs, Lasting le (c g) (q g)) :
    Lasting le (runAll (gs.map c)) fun t xs => List.Forall₂ (fun g x => q g t x) gs xs := by
  induction gs with
  | nil => exact Lasting.pure fun _ => .nil
  | cons g rest ih =>
      have hrest := ih fun other hother => h other (List.mem_cons_of_mem g hother)
      have hboth := (h g List.mem_cons_self).bind fun x => hrest.bind fun xs =>
        (Lasting.pure (x := x :: xs) (q := fun _ ys => ys = x :: xs) fun _ => rfl)
      refine hboth.mono ?_
      rintro t _ ⟨x, hx, xs, hxs, rfl⟩
      exact .cons hx hxs

end NightWatch.Lib.GrowingState
