import Mathlib

/-!
Computations with a state and errors, and when one mirrors another along a map of the
states: from mirrored states they return the same and end in mirrored states, or they
throw the same.
-/

namespace NightWatch.Lib.Mirror

universe u

variable {σ ε α β : Type u}

abbrev Computation (σ ε α : Type u) : Type u := StateT σ (Except ε) α

def Mirrors (r : σ → σ) (a b : Computation σ ε α) : Prop :=
  ∀ s, b (r s) = (a s).map (Prod.map id r)

variable {r : σ → σ}

theorem Mirrors.pure (x : α) : Mirrors r (Pure.pure x : Computation σ ε α) (Pure.pure x) :=
  fun _ => rfl

theorem Mirrors.throw (e : ε) :
    Mirrors r (MonadExcept.throw e : Computation σ ε α) (MonadExcept.throw e) :=
  fun _ => rfl

variable {a b : Computation σ ε α}

theorem Mirrors.bind {k l : α → Computation σ ε β}
    (hab : Mirrors r a b) (hkl : ∀ x, Mirrors r (k x) (l x)) : Mirrors r (a >>= k) (b >>= l) := by
  intro s
  change (b (r s) >>= fun out => l out.1 out.2) = (a s >>= fun out => k out.1 out.2).map _
  rw [hab s]
  cases a s with
  | error e => rfl
  | ok out => exact hkl out.1 out.2

theorem Mirrors.ite {p : Prop} [Decidable p] {a' b' : Computation σ ε α}
    (h : Mirrors r a a') (h' : Mirrors r b b') :
    Mirrors r (if p then a else b) (if p then a' else b') := by
  by_cases hp : p
  · rw [if_pos hp, if_pos hp]
    exact h
  · rw [if_neg hp, if_neg hp]
    exact h'

def runAll : List (Computation σ ε α) → Computation σ ε (List α)
  | [] => Pure.pure []
  | a :: rest => do
      let x ← a
      let xs ← runAll rest
      return x :: xs

theorem Mirrors.runAll {as bs : List (Computation σ ε α)} (h : List.Forall₂ (Mirrors r) as bs) :
    Mirrors r (runAll as) (runAll bs) := by
  induction h with
  | nil => exact Mirrors.pure []
  | cons hhead htail ih =>
      apply Mirrors.bind hhead
      intro x
      apply Mirrors.bind ih
      intro xs
      exact Mirrors.pure _

end NightWatch.Lib.Mirror
