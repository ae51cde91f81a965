import NightWatch.Lib.SafeIntegers
import NightWatch.Oracles.Invariants

namespace NightWatch.Oracles.SumRelation

open Lib.JsText Lib.JsData Lib.SafeIntegers Oracles.Invariants

section Scaling

variable (numberText : ℚ → JsString)

def wholeOperands (values : List ℤ) : List JsNumber := values.map fun z : ℤ => .finite (z : ℚ)

theorem maxPlaces_whole (values : List ℤ) : maxPlaces numberText (wholeOperands values) = 0 := by
  have hzero : (wholeOperands values).map (decimalPlaces numberText) =
      List.replicate values.length 0 := by
    rw [wholeOperands, List.map_map]
    rw [List.eq_replicate_iff]
    refine ⟨List.length_map .., fun places hplaces => ?_⟩
    obtain ⟨z, -, rfl⟩ := List.mem_map.mp hplaces
    simp [decimalPlaces]
  rw [maxPlaces, hzero]
  induction values.length with
  | zero => rfl
  | succ n ih => exact ih

theorem scaledInteger_of_isSafe {z : ℤ} (hz : IsSafe z) : scaledInteger 1 (.finite z) = some z := by
  have hfloor : ⌊(z : ℚ) + 1 / 2⌋ = z := by
    rw [Int.floor_eq_iff]
    constructor <;> linarith
  rw [scaledInteger, Nat.cast_one, mul_one, ofRat_of_isSafe hz]
  simp only [hfloor]
  exact if_pos hz

theorem scaledInteger_of_outside {z : ℤ} (hz : ¬ IsSafe z) : scaledInteger 1
    (.finite z) = none := by
  have hlarge : 2 ^ 53 ≤ |(z : ℚ)| := not_lt.mp (mt isSafe_iff.mpr hz)
  rw [scaledInteger, Nat.cast_one, mul_one]
  cases hrounded : JsNumber.ofRat (z : ℚ) with
  | finite r =>
      have hr := ofRat_of_large hlarge hrounded
      have hfloor : ¬ ⌊r + 1 / 2⌋.natAbs ≤ 2 ^ 53 - 1 := by
        rcases le_abs.mp hr with hpos | hneg
        · have hle : (2 ^ 53 : ℤ) ≤ ⌊r + 1 / 2⌋ := by
            apply Int.le_floor.mpr
            push_cast
            linarith
          omega
        · have hlt : ⌊r + 1 / 2⌋ < -2 ^ 53 + 1 := by
            apply Int.floor_lt.mpr
            push_cast
            linarith
          omega
      simp only [hfloor, if_false]
  | _ => rfl

theorem scaledIntegers_whole (values : List ℤ) : scaledIntegers 1 (wholeOperands values) =
      if ∀ z ∈ values, IsSafe z then some values else none := by
  induction values with
  | nil => rfl
  | cons z rest ih =>
      have hcons : scaledIntegers 1 (wholeOperands (z :: rest)) =
          (scaledInteger 1 (.finite z)).bind fun scaled =>
            (scaledIntegers 1 (wholeOperands rest)).bind fun more => some (scaled :: more) := rfl
      rw [hcons, ih]
      by_cases hz : IsSafe z
      · rw [scaledInteger_of_isSafe hz, Option.bind_some]
        by_cases hrest : ∀ z ∈ rest, IsSafe z
        · rw [if_pos hrest, if_pos (List.forall_mem_cons.mpr ⟨hz, hrest⟩)]
          rfl
        · rw [if_neg hrest, if_neg fun hall => hrest (List.forall_mem_cons.mp hall).2]
          rfl
      · rw [scaledInteger_of_outside hz, if_neg fun hall => hz (List.forall_mem_cons.mp hall).1]
        rfl

end Scaling

section Relation

variable (numberText : ℚ → JsString)

theorem evaluateSum_whole (items : List ℤ) (total : ℤ) :
    evaluateNumericRelation numberText .sumEquals (wholeOperands (items ++ [total])) =
      if ∀ z ∈ items ++ [total], IsSafe z then matchIf (runningSum items = .finite total)
      else .invalidInput := by
  have hlength : ¬ (wholeOperands (items ++ [total])).length < 1 := by simp [wholeOperands]
  have hfinite : ((wholeOperands (items ++ [total])).any fun value => !value.isFinite) = false := by
    simp [wholeOperands, JsNumber.isFinite]
  have hplaces := maxPlaces_whole numberText (items ++ [total])
  rw [evaluateNumericRelation, evaluateSum, if_neg hlength, hfinite, if_neg Bool.false_ne_true,
    hplaces, if_neg (by decide), pow_zero, scaledIntegers_whole]
  by_cases hsafe : ∀ z ∈ items ++ [total], IsSafe z
  · have hsum : List.foldl (fun acc (value : ℚ) => acc.add (.finite value)) (.ofNat 0)
        (List.flatMap (fun z : ℤ => [(z : ℚ)]) items) = runningSum items := by
      rw [runningSum, ← List.map_eq_flatMap, List.foldl_map]
    rw [if_pos hsafe, if_pos hsafe, ← hsum]
    simp
  · rw [if_neg hsafe, if_neg hsafe]

/-- What is promised of a sum: no partial sum leaves the safe range, and the verdict is that
of exact arithmetic. -/
structure SumsExactly (items : List ℤ) (total : ℤ) : Prop where
  partialSums : ∀ done, done <+: items → (runningSum done).isSafeInteger = true
  verdict : evaluateNumericRelation numberText .sumEquals (wholeOperands (items ++ [total])) =
    .isMatch ↔ items.sum = total

/-- Line items and a total that are refused, or whose exact partial sums are all safe. -/
def KeepsSafe (items : List ℤ) (total : ℤ) : Prop :=
  (∀ z ∈ items ++ [total], IsSafe z) → SafeSums items

theorem sums_exactly_iff (items : List ℤ) (total : ℤ) :
    (evaluateNumericRelation numberText .sumEquals (wholeOperands (items ++ [total])) ≠
      .invalidInput → SumsExactly numberText items total) ↔ KeepsSafe items total := by
  have hresult := evaluateSum_whole numberText items total
  by_cases hoperands : ∀ z ∈ items ++ [total], IsSafe z
  · have hvalid : evaluateNumericRelation numberText .sumEquals
        (wholeOperands (items ++ [total])) ≠ .invalidInput := by
      rw [hresult, if_pos hoperands, matchIf]
      split <;> simp
    constructor
    · intro h _
      exact runningSums_safe_iff.mp (h hvalid).partialSums
    · intro h _
      have hsums := h hoperands
      refine ⟨runningSums_safe_iff.mpr hsums, ?_⟩
      have hcast : JsNumber.finite (items.sum : ℤ) = .finite (total : ℤ) ↔ items.sum = total := by
        rw [JsNumber.finite.injEq, Int.cast_inj]
      rw [hresult, if_pos hoperands, runningSum_of_safe hsums, matchIf]
      simp only [decide_eq_true_eq, hcast]
      by_cases heq : items.sum = total
      · simp [heq]
      · simp [heq]
  · constructor
    · intro _ hall
      exact absurd hall hoperands
    · intro _ hvalid
      exact absurd (by rw [hresult, if_neg hoperands]) hvalid

/-- Line items that leave the safe range and come back: their total is one that the rounded
sum misses. -/
def excursion : List ℤ := [2 ^ 53 - 1, 2, -3]

theorem excursion_mismatch :
    evaluateNumericRelation (fun _ => []) .sumEquals (wholeOperands (excursion ++ [2 ^ 53 - 2])) =
        .mismatch ∧ excursion.sum = 2 ^ 53 - 2 ∧
      ¬ SumsExactly (fun _ => []) excursion (2 ^ 53 - 2) := by
  have hmismatch : evaluateNumericRelation (fun _ => []) .sumEquals
      (wholeOperands (excursion ++ [2 ^ 53 - 2])) = .mismatch := by decide +kernel
  refine ⟨hmismatch, rfl, fun hexact => ?_⟩
  have hmatch := hexact.verdict.mpr rfl
  rw [hmismatch] at hmatch
  contradiction

end Relation

end NightWatch.Oracles.SumRelation
