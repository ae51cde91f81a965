import NightWatch.Lib.Json

/-!
Texts that record their own size. The search for the recorded number, from below, ends
within a few steps: a number that is raised by what its digits grow crosses one power of
ten at most.
-/

namespace NightWatch.Lib.SelfCount

open Lib.JsText Lib.JsData Lib.Json

section Search

def search (measure : Nat → Nat) : Nat → Nat → Option Nat
  | 0, _ => none
  | fuel + 1, n => if measure n = n then some n else search measure fuel (measure n)

variable {measure : Nat → Nat} {fuel n start : Nat}

theorem search_fixed (h : search measure fuel start = some n) : measure n = n := by
  induction fuel generalizing start with
  | zero => contradiction
  | succ fuel ih =>
      rw [search] at h
      split at h
      · rename_i hfixed
        rw [← Option.some.inj h]
        exact hfixed
      · exact ih h

theorem search_succ (h : search measure fuel (measure start) = some n) :
    ∃ n, search measure (fuel + 1) start = some n := by
  rw [search]
  split
  · exact ⟨start, rfl⟩
  · exact ⟨n, h⟩

theorem exists_search {steps : Nat} (hsteps : steps < fuel)
    (hfixed : measure (measure^[steps] start) = measure^[steps] start) :
    ∃ n, search measure fuel start = some n := by
  induction steps generalizing fuel start with
  | zero =>
      obtain ⟨fuel, rfl⟩ := Nat.exists_eq_succ_of_ne_zero (Nat.ne_of_gt hsteps)
      exact ⟨start, if_pos hfixed⟩
  | succ steps ih =>
      obtain ⟨fuel, rfl⟩ := Nat.exists_eq_succ_of_ne_zero (Nat.ne_of_gt (Nat.zero_lt_of_lt hsteps))
      obtain ⟨n, hn⟩ := ih (Nat.lt_of_succ_lt_succ hsteps) hfixed
      exact search_succ hn

end Search

section Widths

def width (n : Nat) : Nat := (decimal n).length

theorem width_pos (n : Nat) : 0 < width n := Nat.length_toDigits_pos

theorem width_le_iff {n k : Nat} (hk : 0 < k) : width n ≤ k ↔ n < 10 ^ k :=
  Nat.length_toDigits_le_iff (by omega) hk

theorem width_mono {m n : Nat} (h : m ≤ n) : width m ≤ width n :=
  (width_le_iff (width_pos n)).mpr
    (Nat.lt_of_le_of_lt h ((width_le_iff (width_pos n)).mp le_rfl))

theorem two_mul_le_pow (k : Nat) : 2 * (k + 1) ≤ 9 * 10 ^ k := by
  induction k with
  | zero => omega
  | succ k ih =>
      rw [Nat.pow_succ]
      omega

variable {base : Nat}

theorem width_settles {n raise : Nat} (hraise : raise ≤ width n) :
    width (n + raise + (width (n + raise) - width n)) = width (n + raise) := by
  have hmono : width n ≤ width (n + raise) := width_mono (Nat.le_add_right n raise)
  rcases hmono.eq_or_lt with heq | hlt
  · rw [← heq, Nat.sub_self, Nat.add_zero, ← heq]
  · refine le_antisymm ?_ (width_mono (Nat.le_add_right _ _))
    obtain ⟨k, hk⟩ : ∃ k, width (n + raise) = k + 1 := ⟨width (n + raise) - 1, by omega⟩
    have hsmall : n < 10 ^ k := by
      by_contra hlarge
      have hwidth : width n ≤ k := by omega
      have hn := (width_le_iff (Nat.lt_of_lt_of_le (width_pos n) hwidth)).mp hwidth
      omega
    have hpower := two_mul_le_pow k
    rw [hk, width_le_iff (Nat.succ_pos k), Nat.pow_succ]
    omega

theorem rests_after_three {measure : Nat → Nat} (hmeasure : ∀ n, measure n = base + width n)
    {start : Nat} (hstart : start ≤ base) : measure (measure^[3] start) = measure^[3] start := by
  have hfirst : width start ≤ width (base + width start) :=
    width_mono (hstart.trans (Nat.le_add_right _ _))
  have hsecond : base + width (base + width start) =
      base + width start + (width (base + width start) - width start) := by omega
  have hraise : width (base + width start) - width start ≤ width (base + width start) :=
    Nat.sub_le _ _
  have hsettled := width_settles hraise
  rw [← hsecond] at hsettled
  have hgrown : width (base + width start) ≤ width (base + width (base + width start)) :=
    width_mono (Nat.add_le_add_left hfirst base)
  have hthird : base + width (base + width (base + width start)) =
      base + width (base + width start) +
        (width (base + width (base + width start)) - width (base + width start)) := by omega
  simp only [Function.iterate_succ, Function.iterate_zero, Function.comp_apply, id_eq, hmeasure]
  rw [hthird, hsettled, ← hthird]

theorem exists_size {measure : Nat → Nat} (hmeasure : ∀ n, measure n = base + width n)
    {start fuel : Nat} (hstart : start ≤ base) (hfuel : 3 < fuel) :
    ∃ n, search measure fuel start = some n :=
  exists_search hfuel (rests_after_three hmeasure hstart)

end Widths

theorem byteLength_append (s t : JsString) : byteLength (s ++ t) = byteLength s + byteLength t := by
  simp [byteLength]

theorem byteLength_decimal (n : Nat) : byteLength (decimal n) = width n := by
  have hsize : ∀ c ∈ decimal n, c.utf8Size = 1 := by
    intro c hc
    have hrange := Char.isDigit_iff_toNat.mp (isDigit_of_mem_decimal hc)
    have hnine : '9'.toNat = 57 := rfl
    rw [Char.utf8Size_eq_one_iff]
    exact UInt32.le_iff_toNat_le.mpr (by simpa using show c.toNat ≤ 127 by omega)
  rw [byteLength, List.map_congr_left hsize]
  simp [width]

theorem byteLength_numberText (n : Nat) : byteLength (numberText (.ofNat n)) = width n := by
  have hnonneg : ¬ ((n : ℚ).num < 0) := not_lt.mpr (Rat.num_nonneg.mpr (Nat.cast_nonneg n))
  rw [← byteLength_decimal, JsNumber.ofNat, numberText, if_neg hnonneg, Rat.num_natCast,
    Int.natAbs_natCast]

theorem exists_size_fieldsText (before after : List (JsString × JsValue)) (name : JsString) :
    ∃ rest, ∀ value, byteLength (fieldsText (before ++ (name, value) :: after)) =
      rest + byteLength (text value) := by
  induction before with
  | nil =>
      refine ⟨byteLength (',' :: quoted name ++ [':']) + byteLength (fieldsText after), ?_⟩
      intro value
      have hsplit : fieldsText ((name, value) :: after) =
          (',' :: quoted name ++ [':']) ++ text value ++ fieldsText after := by
        simp [fieldsText]
      rw [List.nil_append, hsplit, byteLength_append, byteLength_append]
      omega
  | cons field before ih =>
      obtain ⟨rest, hrest⟩ := ih
      obtain ⟨other, shown⟩ := field
      refine ⟨byteLength (',' :: quoted other ++ ':' :: text shown) + rest, ?_⟩
      intro value
      rw [List.cons_append, fieldsText, byteLength_append, hrest]
      omega

theorem exists_size_field (before after : List (JsString × JsValue)) (name : JsString) :
    ∃ rest, ∀ value, byteLength (text (.obj (before ++ (name, value) :: after))) =
      rest + byteLength (text value) := by
  cases before with
  | nil =>
      refine ⟨byteLength ('\x7b' :: quoted name ++ [':']) + byteLength (fieldsText after), ?_⟩
      intro value
      have hsplit : text (.obj ((name, value) :: after)) =
          ('\x7b' :: quoted name ++ [':']) ++ text value ++ fieldsText after := by
        simp [text]
      rw [List.nil_append, hsplit, byteLength_append, byteLength_append]
      omega
  | cons field before =>
      obtain ⟨rest, hrest⟩ := exists_size_fieldsText before after name
      obtain ⟨other, shown⟩ := field
      refine ⟨byteLength ('\x7b' :: quoted other ++ ':' :: text shown) + rest, ?_⟩
      intro value
      rw [List.cons_append, text, byteLength_append, hrest]
      omega

end NightWatch.Lib.SelfCount
