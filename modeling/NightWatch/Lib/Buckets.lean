import Mathlib

/-!
Distributing items over a fixed row of buckets, one item at a time: whatever bucket is
chosen nothing is lost or doubled, and dealing in turn fills the buckets evenly.
-/

namespace NightWatch.Lib.Buckets

universe u

variable {α : Type u}

/-- `buckets[i].push(x)` for a bucket that is there. -/
def push (buckets : List (List α)) (i : Nat) (x : α) : List (List α) :=
  buckets.modify i (· ++ [x])

@[simp] theorem length_push (buckets : List (List α)) (i : Nat) (x : α) :
    (push buckets i x).length = buckets.length := List.length_modify ..

variable {buckets : List (List α)}

theorem perm_flatten_push {i : Nat} (hi : i < buckets.length) (x : α) :
    (push buckets i x).flatten.Perm (buckets.flatten ++ [x]) := by
  induction buckets generalizing i with
  | nil => simp at hi
  | cons bucket rest ih =>
      rcases i with _ | i
      · rw [push, List.modify_zero_cons, List.flatten_cons, List.flatten_cons, List.append_assoc,
          List.append_assoc]
        exact List.Perm.append_left bucket List.perm_append_comm
      · have hrest : i < rest.length := by simpa using hi
        rw [push, List.modify_succ_cons, List.flatten_cons, List.flatten_cons, List.append_assoc]
        exact List.Perm.append_left bucket (ih hrest)

theorem getElem?_push {i j : Nat} {x : α} :
    (push buckets i x)[j]? = if i = j then buckets[j]?.map (· ++ [x]) else buckets[j]? := by
  rw [push, List.getElem?_modify]
  by_cases h : i = j
  · simp [h]
  · simp [h]

/-- The items in turn, the item in position `k` first: `buckets[k % buckets.length]`. -/
def deal (buckets : List (List α)) (k : Nat) : List α → List (List α)
  | [] => buckets
  | x :: xs => deal (push buckets (k % buckets.length) x) (k + 1) xs

@[simp] theorem length_deal (buckets : List (List α)) (k : Nat) (xs : List α) :
    (deal buckets k xs).length = buckets.length := by
  induction xs generalizing buckets k with
  | nil => rfl
  | cons x xs ih => rw [deal, ih, length_push]

theorem perm_flatten_deal (buckets : List (List α)) (hpos : 0 < buckets.length) (k : Nat)
    (xs : List α) : (deal buckets k xs).flatten.Perm (buckets.flatten ++ xs) := by
  induction xs generalizing buckets k with
  | nil => simp [deal]
  | cons x xs ih =>
      rw [deal]
      refine (ih _ (by rw [length_push]; exact hpos) (k + 1)).trans ?_
      have hpush := perm_flatten_push (Nat.mod_lt k hpos) x
      refine (hpush.append_right xs).trans ?_
      rw [List.append_assoc, List.singleton_append]

/-- After `k` items the bucket in position `i` is no fuller than its share. -/
def Even (buckets : List (List α)) (k : Nat) : Prop :=
  ∀ i bucket, buckets[i]? = some bucket →
    buckets.length * bucket.length + i ≤ k + (buckets.length - 1)

theorem even_push {k : Nat} (hpos : 0 < buckets.length)
    (heven : Even buckets k) (x : α) : Even (push buckets (k % buckets.length) x) (k + 1) := by
  intro i bucket hbucket
  rw [length_push]
  rw [getElem?_push] at hbucket
  by_cases hi : k % buckets.length = i
  · rw [if_pos hi] at hbucket
    obtain ⟨old, hold, rfl⟩ := Option.map_eq_some_iff.mp hbucket
    have hshare := heven i old hold
    -- `k - i` is a multiple of the number of buckets, so the old share was rounded down
    have hdiv := Nat.div_add_mod k buckets.length
    have hle : old.length ≤ k / buckets.length := by
      have hlt : buckets.length * old.length < buckets.length * (k / buckets.length + 1) := by
        rw [Nat.mul_add]
        omega
      have := Nat.lt_of_mul_lt_mul_left hlt
      omega
    have hmul := Nat.mul_le_mul_left buckets.length hle
    rw [List.length_append, List.length_singleton, Nat.mul_add]
    omega
  · rw [if_neg hi] at hbucket
    have := heven i bucket hbucket
    omega

theorem even_deal {k : Nat} (hpos : 0 < buckets.length)
    (heven : Even buckets k) (xs : List α) : Even (deal buckets k xs) (k + xs.length) := by
  induction xs generalizing buckets k with
  | nil => exact heven
  | cons x xs ih =>
      rw [deal, List.length_cons, ← Nat.add_assoc, Nat.add_right_comm]
      exact ih (by rw [length_push]; exact hpos) (even_push hpos heven x)

theorem even_empty (n : Nat) : Even (List.replicate n ([] : List α)) 0 := by
  intro i bucket hbucket
  obtain ⟨hi, rfl⟩ := by simpa [List.getElem?_replicate] using hbucket
  simp only [List.length_replicate, List.length_nil, Nat.mul_zero, Nat.zero_add]
  omega

theorem length_le_of_deal {n bound : Nat} {xs bucket : List α} (hpos : 0 < n)
    (hfit : xs.length ≤ n * bound) (hmem : bucket ∈ deal (List.replicate n []) 0 xs) :
    bucket.length ≤ bound := by
  obtain ⟨i, hi⟩ := List.mem_iff_getElem?.mp hmem
  have heven := even_deal (by rw [List.length_replicate]; exact hpos) (even_empty n) xs i bucket hi
  rw [length_deal, List.length_replicate, Nat.zero_add] at heven
  have hlt : n * bucket.length < n * (bound + 1) := by
    rw [Nat.mul_add]
    omega
  have := Nat.lt_of_mul_lt_mul_left hlt
  omega

theorem perm_flatten_foldl {β : Type*} (P : β × List (List α) → Prop)
    (place : β × List (List α) → α → β × List (List α)) (xs : List α)
    (state : β × List (List α)) (hstate : P state) (hkeep : ∀ s x, P s → P (place s x))
    (hplace : ∀ s x, P s → ∃ i < s.2.length, (place s x).2 = push s.2 i x) :
    (xs.foldl place state).2.flatten.Perm (state.2.flatten ++ xs) := by
  induction xs generalizing state with
  | nil => simp
  | cons x xs ih =>
      obtain ⟨i, hi, heq⟩ := hplace state x hstate
      refine (ih _ (hkeep state x hstate)).trans ?_
      rw [heq]
      refine ((perm_flatten_push hi x).append_right xs).trans ?_
      rw [List.append_assoc, List.singleton_append]

end NightWatch.Lib.Buckets
