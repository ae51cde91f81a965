import Mathlib

/-!
Loops whose body says whether to go round again. A loop runs on fuel; a body that
lowers a measure needs no more fuel than the measure of its start.
-/

namespace NightWatch.Lib.Loop

universe u v

inductive Turn (σ : Type u) (ρ : Type v) where
  | again (s : σ)
  | done (r : ρ)

variable {σ : Type u} {ρ : Type v} (turn : σ → Turn σ ρ)

/-- `none` is the loop that has run out of fuel. -/
def loop : Nat → σ → Option ρ
  | 0, _ => none
  | fuel + 1, s =>
      match turn s with
      | .done r => some r
      | .again s' => loop fuel s'

variable {turn} {fuel : Nat} {s : σ} {r : ρ}

theorem loop_done (h : turn s = .done r) : loop turn (fuel + 1) s = some r := by
  rw [loop, h]

theorem loop_again {s' : σ} (h : turn s = .again s') :
    loop turn (fuel + 1) s = loop turn fuel s' := by
  rw [loop, h]

theorem loop_mono {more : Nat} (h : loop turn fuel s = some r)
    (hle : fuel ≤ more) : loop turn more s = some r := by
  induction fuel generalizing more s with
  | zero => contradiction
  | succ fuel ih =>
      obtain ⟨more, rfl⟩ : ∃ k, more = k + 1 := ⟨more - 1, by omega⟩
      cases hturn : turn s with
      | done r' =>
          rw [loop_done hturn] at h ⊢
          exact h
      | again s' =>
          rw [loop_again hturn] at h ⊢
          exact ih h (by omega)

variable {P : σ → Prop}

theorem loop_invariant {Q : ρ → Prop} (hagain : ∀ s s', P s → turn s = .again s' → P s')
    (hdone : ∀ s r, P s → turn s = .done r → Q r) (hs : P s)
    (h : loop turn fuel s = some r) : Q r := by
  induction fuel generalizing s with
  | zero => contradiction
  | succ fuel ih =>
      cases hturn : turn s with
      | done r' =>
          rw [loop_done hturn] at h
          exact hdone s r hs (hturn.trans (congrArg Turn.done (Option.some.inj h)))
      | again s' =>
          rw [loop_again hturn] at h
          exact ih (hagain s s' hs hturn) h

variable {measure : σ → Nat}

theorem loop_ends
    (hagain : ∀ s s', P s → turn s = .again s' → P s' ∧ measure s' < measure s) {fuel : Nat}
    (hs : P s) (hfuel : measure s < fuel) : ∃ r, loop turn fuel s = some r := by
  induction fuel generalizing s with
  | zero => contradiction
  | succ fuel ih =>
      cases hturn : turn s with
      | done r => exact ⟨r, loop_done hturn⟩
      | again s' =>
          obtain ⟨hs', hless⟩ := hagain s s' hs hturn
          rw [loop_again hturn]
          exact ih hs' (by omega)

theorem loop_spec {Q : ρ → Prop} (measure : σ → Nat)
    (hturn : ∀ s, P s → (∃ r, turn s = .done r ∧ Q r) ∨
      ∃ s', turn s = .again s' ∧ P s' ∧ measure s' < measure s) {fuel : Nat} (hs : P s)
    (hfuel : measure s < fuel) : ∃ r, loop turn fuel s = some r ∧ Q r := by
  induction fuel generalizing s with
  | zero => contradiction
  | succ fuel ih =>
      obtain ⟨r, hdone, hr⟩ | ⟨s', hagain, hs', hless⟩ := hturn s hs
      · exact ⟨r, loop_done hdone, hr⟩
      · rw [loop_again hagain]
        exact ih hs' (by omega)

theorem exists_loop (hagain : ∀ s s', P s → turn s = .again s' → P s' ∧ measure s' < measure s)
    (hs : P s) : ∃ fuel r, loop turn fuel s = some r :=
  ⟨measure s + 1, loop_ends hagain hs (Nat.lt_succ_self _)⟩

/-- The loop comes to `r` from `s` on any fuel over the size of `s`. -/
def Settles (turn : σ → Turn σ ρ) (size : σ → Nat) (s : σ) (r : ρ) : Prop :=
  ∀ fuel, size s < fuel → loop turn fuel s = some r

variable {size : σ → Nat}

theorem Settles.of_done (h : turn s = .done r) : Settles turn size s r := by
  intro fuel hfuel
  obtain ⟨fuel, rfl⟩ : ∃ k, fuel = k + 1 := ⟨fuel - 1, by omega⟩
  exact loop_done h

theorem Settles.of_again {s' : σ} (h : turn s = .again s')
    (hless : size s' < size s) (hrest : Settles turn size s' r) : Settles turn size s r := by
  intro fuel hfuel
  obtain ⟨fuel, rfl⟩ : ∃ k, fuel = k + 1 := ⟨fuel - 1, by omega⟩
  rw [loop_again h]
  exact hrest fuel (by omega)

theorem Settles.loop_eq (h : Settles turn size s r) : loop turn (size s + 1) s = some r :=
  h _ (Nat.lt_succ_self _)

/-- A fold by an invariant that speaks of the part already done. -/
theorem foldl_done {α : Type*} {step : σ → α → σ} {P : List α → σ → Prop} {s : σ} (hstart : P [] s)
    {xs : List α}
    (hstep : ∀ done x rest s, xs = done ++ x :: rest → P done s → P (done ++ [x]) (step s x)) :
    P xs (xs.foldl step s) := by
  have hrun (rest : List α) :
      ∀ done s, xs = done ++ rest → P done s → P xs (rest.foldl step s) := by
    induction rest with
    | nil =>
        intro done s hxs hdone
        rw [hxs, List.append_nil]
        exact hdone
    | cons x rest ih =>
        intro done s hxs hdone
        refine ih (done ++ [x]) (step s x) (by simpa using hxs) ?_
        exact hstep done x rest s hxs hdone
  exact hrun xs [] s rfl hstart

end NightWatch.Lib.Loop
