import NightWatch.Lib.JsData

/-!
Integers as doubles: exact within the safe range, and never taken back into it from
outside. A running sum is therefore exact as long as its exact partial sums are safe, and
the first one that is not safe is not safe as a double either.
-/

namespace NightWatch.Lib.SafeIntegers

open Lib.JsData JsNumber

def IsSafe (z : ℤ) : Prop := z.natAbs ≤ 2 ^ 53 - 1

instance (z : ℤ) : Decidable (IsSafe z) := inferInstanceAs (Decidable (_ ≤ _))

variable {z : ℤ} {q : ℚ} {items : List ℤ}

theorem isSafe_iff : IsSafe z ↔ |(z : ℚ)| < 2 ^ 53 := by
  have hcast : |(z : ℚ)| = (z.natAbs : ℚ) := by rw [Nat.cast_natAbs, Int.cast_abs]
  rw [hcast, IsSafe]
  constructor
  · intro h
    exact_mod_cast (show z.natAbs < 2 ^ 53 by omega)
  · intro h
    have hlt : z.natAbs < 2 ^ 53 := by exact_mod_cast h
    omega

theorem ofRat_of_isSafe (hz : IsSafe z) : ofRat z = .finite z := ofRat_intCast (isSafe_iff.mp hz)

theorem le_nearestEven {n : ℤ} (h : (n : ℚ) ≤ q) : n ≤ nearestEven q := by
  have hfloor : n ≤ ⌊q⌋ := Int.le_floor.mpr h
  simp only [nearestEven]
  split_ifs <;> omega

theorem nearestEven_le {n : ℤ} (h : q ≤ n) : nearestEven q ≤ n := by
  rcases lt_or_eq_of_le (Int.floor_le_iff.mpr (by linarith : q < n + 1)) with hlt | heq
  · simp only [nearestEven]
    split_ifs <;> omega
  · have hwhole : q = n := le_antisymm h (heq ▸ Int.floor_le q)
    rw [hwhole, nearestEven_intCast]

theorem le_abs_rounded {e : ℤ} (h : (2 : ℚ) ^ (52 + e) ≤ |q|) :
    (2 : ℚ) ^ (52 + e) ≤ |(nearestEven (q / 2 ^ e) : ℚ) * 2 ^ e| := by
  have hspacing : (0 : ℚ) < 2 ^ e := by positivity
  have hsplit : (2 : ℚ) ^ (52 + e) = ((2 ^ 52 : ℤ) : ℚ) * 2 ^ e := by
    rw [zpow_add₀ (by norm_num)]
    norm_num
  rw [abs_mul, abs_of_pos hspacing, hsplit]
  rw [hsplit] at h
  apply mul_le_mul_of_nonneg_right _ hspacing.le
  rcases le_abs.mp h with hq | hq
  · have hscaled := le_nearestEven ((le_div_iff₀ hspacing).mpr hq)
    exact le_abs.mpr (.inl (by exact_mod_cast hscaled))
  · have hbelow : q / 2 ^ e ≤ ((-2 ^ 52 : ℤ) : ℚ) := by
      rw [div_le_iff₀ hspacing]
      push_cast at hq ⊢
      linarith
    have hscaled := nearestEven_le hbelow
    refine le_abs.mpr (.inr ?_)
    have hcast : ((nearestEven (q / 2 ^ e) : ℤ) : ℚ) ≤ ((-2 ^ 52 : ℤ) : ℚ) := by
      exact_mod_cast hscaled
    push_cast at hcast ⊢
    linarith

theorem ofRat_of_large (hq : 2 ^ 53 ≤ |q|) {r : ℚ} (hr : ofRat q = .finite r) : 2 ^ 53 ≤ |r| := by
  have hpos : 0 < |q| := lt_of_lt_of_le (by norm_num) hq
  have hlog : 53 ≤ Int.log 2 |q| := by
    apply (Int.zpow_le_iff_le_log (by norm_num) hpos).mp
    exact_mod_cast hq
  have hmax : max (Int.log 2 |q| - 52) (-1074) = Int.log 2 |q| - 52 := by omega
  rw [ofRat, if_neg (abs_pos.mp hpos), hmax] at hr
  have hlarge : (2 : ℚ) ^ (52 + (Int.log 2 |q| - 52)) ≤ |q| := by
    rw [add_sub_cancel]
    exact_mod_cast Int.zpow_log_le_self (by norm_num) hpos
  have hrounded := le_abs_rounded hlarge
  have hexponent : (2 : ℚ) ^ 53 ≤ 2 ^ (52 + (Int.log 2 |q| - 52)) := by
    rw [add_sub_cancel]
    exact_mod_cast zpow_le_zpow_right₀ (by norm_num : (1 : ℚ) ≤ 2) hlog
  simp only at hr
  split_ifs at hr
  rw [← finite.inj hr]
  exact hexponent.trans hrounded

def runningSum (items : List ℤ) : JsNumber :=
  items.foldl (fun acc (value : ℤ) => acc.add (.finite (value : ℚ))) (.ofNat 0)

theorem runningSum_concat (items : List ℤ) (z : ℤ) :
    runningSum (items ++ [z]) = (runningSum items).add (.finite z) := by
  simp [runningSum]

def SafeSums (items : List ℤ) : Prop := ∀ done, done <+: items → IsSafe done.sum

theorem SafeSums.of_concat (h : SafeSums (items ++ [z])) : SafeSums items := by
  intro done hdone
  exact h done (hdone.trans (List.prefix_append items [z]))

theorem runningSum_of_safe (h : SafeSums items) : runningSum items = .finite (items.sum : ℤ) := by
  induction items using List.reverseRecOn with
  | nil => rfl
  | append_singleton items z ih =>
      have hsum : IsSafe (items ++ [z]).sum := h _ (List.prefix_refl _)
      rw [runningSum_concat, ih h.of_concat]
      have hadd : ((items.sum : ℤ) : ℚ) + z = ((items ++ [z]).sum : ℤ) := by simp
      rw [JsNumber.add, hadd, ofRat_of_isSafe hsum]

theorem isSafeInteger_iff : isSafeInteger (.finite z) = true ↔ IsSafe z := by
  simp only [isSafeInteger, Rat.den_intCast, Rat.num_intCast, beq_self_eq_true, Bool.true_and]
  exact decide_eq_true_iff

theorem runningSums_safe_iff :
    (∀ done, done <+: items → (runningSum done).isSafeInteger = true) ↔ SafeSums items := by
  induction items using List.reverseRecOn with
  | nil =>
      simp only [List.prefix_nil, forall_eq, SafeSums]
      decide
  | append_singleton items z ih =>
      constructor
      · intro h
        have hbefore : SafeSums items :=
          ih.mp fun done hdone => h done (hdone.trans (List.prefix_append items [z]))
        intro done hdone
        rcases List.prefix_concat_iff.mp hdone with rfl | hdone
        · have hlast := h _ (List.prefix_refl _)
          by_contra hunsafe
          have hlarge : 2 ^ 53 ≤ |(((items ++ [z]).sum : ℤ) : ℚ)| :=
            not_lt.mp (mt isSafe_iff.mpr hunsafe)
          have hadd : ((items.sum : ℤ) : ℚ) + z = ((items ++ [z]).sum : ℤ) := by simp
          rw [runningSum_concat, runningSum_of_safe hbefore, JsNumber.add, hadd] at hlast
          cases hrounded : ofRat (((items ++ [z]).sum : ℤ) : ℚ) with
          | finite r =>
              have hr := ofRat_of_large hlarge hrounded
              rw [hrounded] at hlast
              simp only [isSafeInteger, Bool.and_eq_true, beq_iff_eq, decide_eq_true_eq] at hlast
              have hwhole : ((r.num : ℤ) : ℚ) = r := by
                rw [← Rat.den_eq_one_iff]
                exact hlast.1
              have hsafe : IsSafe r.num := hlast.2
              rw [isSafe_iff, hwhole] at hsafe
              linarith
          | _ =>
              rw [hrounded] at hlast
              contradiction
        · exact hbefore done hdone
      · intro h done hdone
        have hdoneSafe : SafeSums done := fun less hless => h less (hless.trans hdone)
        rw [runningSum_of_safe hdoneSafe, isSafeInteger_iff]
        exact h done hdone

end NightWatch.Lib.SafeIntegers
