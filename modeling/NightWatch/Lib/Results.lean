import NightWatch.Lib.Mirror

/-!
What every result of a computation with a state and errors satisfies.
-/

namespace NightWatch.Lib.Results

open Lib.Mirror

universe u v

variable {σ ε α β : Type u} {γ : Type v}

/-- Every result of the computation, from whatever state, satisfies `p`. -/
structure Yields (c : Computation σ ε α) (p : α → Prop) : Prop where
  result : ∀ s x s', c s = .ok (x, s') → p x

variable {p : α → Prop} {q : β → Prop}

theorem Yields.of_any (c : Computation σ ε α) : Yields c fun _ => True := ⟨fun _ _ _ _ => trivial⟩

theorem Yields.pure {x : α} (h : p x) : Yields (Pure.pure x : Computation σ ε α) p := by
  constructor
  intro s y s' hy
  obtain ⟨rfl, -⟩ := Prod.mk.inj (Except.ok.inj hy)
  exact h

theorem Yields.throw (e : ε) : Yields (MonadExcept.throw e : Computation σ ε α) p := by
  constructor
  intro s x s' h
  contradiction

theorem Yields.lift (x : Except ε α) : Yields (liftM x : Computation σ ε α) fun y => x = .ok y := by
  constructor
  intro s y s' h
  cases x with
  | error e => contradiction
  | ok x =>
      obtain ⟨rfl, -⟩ := Prod.mk.inj (Except.ok.inj h)
      rfl

theorem Yields.bind {a : Computation σ ε α} {k : α → Computation σ ε β} (ha : Yields a p)
    (hk : ∀ x, p x → Yields (k x) q) : Yields (a >>= k) q := by
  constructor
  intro s y s' h
  change (a s >>= fun out => k out.1 out.2) = _ at h
  cases hout : a s with
  | error e =>
      rw [hout] at h
      contradiction
  | ok out =>
      rw [hout] at h
      exact (hk out.1 (ha.result s out.1 out.2 hout)).result out.2 y s' h

theorem Yields.ite {c : Prop} [Decidable c] {a b : Computation σ ε α} (ha : c → Yields a p)
    (hb : ¬c → Yields b p) : Yields (if c then a else b) p := by
  by_cases hc : c
  · rw [if_pos hc]
    exact ha hc
  · rw [if_neg hc]
    exact hb hc

theorem Yields.runAll {r : α → γ → Prop} {as : List (Computation σ ε α)} {gs : List γ}
    (h : List.Forall₂ (fun a g => Yields a fun x => r x g) as gs) :
    Yields (runAll as) fun xs => List.Forall₂ r xs gs := by
  induction h with
  | nil => exact Yields.pure .nil
  | @cons a g as gs hhead htail ih =>
      show Yields (a >>= fun x => Mirror.runAll as >>= fun xs => Pure.pure (x :: xs))
        fun xs => List.Forall₂ r xs (g :: gs)
      refine Yields.bind hhead fun x hx => ?_
      refine Yields.bind ih fun xs hxs => ?_
      exact Yields.pure (List.Forall₂.cons hx hxs)

end NightWatch.Lib.Results
