import NightWatch.Lib.JsText

/-!
Plain JavaScript data: the values a source program receives as `unknown` and
narrows field by field. A finite number is the exact rational the double denotes,
which is all that comparisons against integer bounds can observe.
-/

namespace NightWatch.Lib.JsData

open Lib.JsText

inductive JsNumber where
  | nan
  | negInfinity
  | posInfinity
  | finite (q : ℚ)
  deriving DecidableEq

namespace JsNumber

/-- `a < b`; every comparison with `NaN` is false. -/
def lt : JsNumber → JsNumber → Bool
  | finite a, finite b => decide (a < b)
  | negInfinity, finite _ | negInfinity, posInfinity | finite _, posInfinity => true
  | _, _ => false

/-- `a >= b`; every comparison with `NaN` is false. -/
def ge : JsNumber → JsNumber → Bool
  | nan, _ | _, nan => false
  | a, b => !lt a b

def ofNat (n : Nat) : JsNumber := finite n

/-- `Number.isFinite(x)`. -/
def isFinite : JsNumber → Bool
  | finite _ => true
  | _ => false

/-- `Number.isInteger(x)`. -/
def isInteger : JsNumber → Bool
  | finite q => q.den == 1
  | _ => false

/-- The integer nearest to `q`, the even one of two. -/
def nearestEven (q : ℚ) : ℤ :=
  let below := ⌊q⌋
  if q - below < 1 / 2 then below
  else if 1 / 2 < q - below then below + 1
  else if Even below then below
  else below + 1

/-- The double nearest to `q`. -/
def ofRat (q : ℚ) : JsNumber :=
  if q = 0 then finite 0
  else
    let spacing : ℚ := 2 ^ max (Int.log 2 |q| - 52) (-1074)
    let rounded := nearestEven (q / spacing) * spacing
    if |rounded| < 2 ^ 1024 then finite rounded
    else if 0 < q then posInfinity
    else negInfinity

/-- `a - b`. -/
def sub : JsNumber → JsNumber → JsNumber
  | finite a, finite b => ofRat (a - b)
  | nan, _ | _, nan | posInfinity, posInfinity | negInfinity, negInfinity => nan
  | posInfinity, _ | _, negInfinity => posInfinity
  | negInfinity, _ | _, posInfinity => negInfinity

/-- `a + b`. -/
def add : JsNumber → JsNumber → JsNumber
  | finite a, finite b => ofRat (a + b)
  | nan, _ | _, nan | posInfinity, negInfinity | negInfinity, posInfinity => nan
  | posInfinity, _ | _, posInfinity => posInfinity
  | negInfinity, _ | _, negInfinity => negInfinity

/-- `Number.isSafeInteger(x)`. -/
def isSafeInteger : JsNumber → Bool
  | finite q => q.den == 1 && decide (q.num.natAbs ≤ 2 ^ 53 - 1)
  | _ => false

end JsNumber

section Counts

open JsNumber

theorem nearestEven_intCast (z : ℤ) : nearestEven z = z := by
  simp [nearestEven]

theorem ofRat_intCast {z : ℤ} (hz : |(z : ℚ)| < 2 ^ 53) : ofRat z = .finite z := by
  unfold ofRat
  by_cases hzero : z = 0
  · simp [hzero]
  · have hpos : 0 < |(z : ℚ)| := abs_pos.mpr (by exact_mod_cast hzero)
    have hlog : Int.log 2 |(z : ℚ)| < 53 := by
      apply (Int.lt_zpow_iff_log_lt (by norm_num) hpos).mp
      exact_mod_cast hz
    obtain ⟨k, hk⟩ : ∃ k : Nat, max (Int.log 2 |(z : ℚ)| - 52) (-1074) = -(k : ℤ) := by
      refine ⟨(-max (Int.log 2 |(z : ℚ)| - 52) (-1074)).toNat, ?_⟩
      omega
    have hscaled : (z : ℚ) / 2 ^ (-(k : ℤ)) = ((z * 2 ^ k : ℤ) : ℚ) := by
      rw [zpow_neg, div_inv_eq_mul, zpow_natCast]
      push_cast
      rfl
    have hrounded : (nearestEven ((z : ℚ) / 2 ^ (-(k : ℤ))) : ℚ) * 2 ^ (-(k : ℤ)) = z := by
      rw [hscaled, nearestEven_intCast, ← hscaled]
      exact div_mul_cancel₀ _ (by positivity)
    have hbound : |(z : ℚ)| < 2 ^ 1024 :=
      hz.trans_le (pow_le_pow_right₀ (by norm_num) (by norm_num))
    rw [if_neg (by exact_mod_cast hzero), hk]
    simp only [hrounded, hbound, if_true]

theorem ofRat_natCast {n : Nat} (hn : n < 2 ^ 53) : ofRat n = .ofNat n := by
  have hz : |(((n : ℤ)) : ℚ)| < 2 ^ 53 := by
    rw [Int.cast_natCast, Nat.abs_cast]
    exact_mod_cast hn
  exact_mod_cast ofRat_intCast hz

theorem add_ofNat {a b : Nat} (h : a + b < 2 ^ 53) :
    (JsNumber.ofNat a).add (.ofNat b) = .ofNat (a + b) := by
  have hsum := ofRat_natCast h
  push_cast at hsum
  exact hsum

end Counts

/-- A count stays below a finite limit, rounded up to a whole number. -/
def Within (used : Nat) (limit : JsNumber) : Prop := ∀ q, limit = .finite q → used ≤ ⌈q⌉₊

theorem within_zero (limit : JsNumber) : Within 0 limit := by
  intro q _
  exact Nat.zero_le _

variable {limit : JsNumber}

theorem within_succ {used : Nat}
    (h : (JsNumber.ofNat used).ge limit = false) : Within (used + 1) limit := by
  rintro q rfl
  have hlt : (used : ℚ) < q := by simpa [JsNumber.ofNat, JsNumber.ge, JsNumber.lt] using h
  exact Nat.lt_ceil.mpr hlt

theorem Within.mono {used used' : Nat} (h : Within used limit)
    (hle : used' ≤ used) : Within used' limit :=
  fun q hq => hle.trans (h q hq)

theorem ofNat_injective : Function.Injective JsNumber.ofNat := by
  intro m n h
  exact Nat.cast_injective (JsNumber.finite.inj h)

/-- Plain data: what `JSON.parse` and object literals build. -/
inductive JsValue where
  | undefined
  | null
  | bool (b : Bool)
  | num (n : JsNumber)
  | str (s : JsString)
  | arr (items : List JsValue)
  | obj (fields : List (JsString × JsValue))

namespace JsValue

/-- `record[key]` on a plain object. -/
def field (fields : List (JsString × JsValue)) (key : JsString) : JsValue :=
  (fields.lookup key).getD undefined

theorem field_pair (k k' key : JsString) (a b : JsValue) : field [(k, a), (k', b)] key =
      if key = k then a else if key = k' then b else .undefined := by
  unfold field
  rw [List.lookup_cons, List.lookup_cons]
  by_cases hk : key = k
  · rw [if_pos hk, beq_iff_eq.mpr hk]
    rfl
  · rw [if_neg hk, beq_eq_false_iff_ne.mpr hk]
    by_cases hk' : key = k'
    · rw [if_pos hk', beq_iff_eq.mpr hk']
      rfl
    · rw [if_neg hk', beq_eq_false_iff_ne.mpr hk']
      rfl

def isNullish : JsValue → Bool
  | undefined | null => true
  | _ => false

def isUndefined : JsValue → Bool
  | undefined => true
  | _ => false

def strings : List JsValue → Option (List JsString)
  | [] => some []
  | str s :: rest => (strings rest).map (s :: ·)
  | _ :: _ => none

end JsValue

/-- `map.set(key, value)`: a key that is there keeps its place. -/
def mapSet {α β : Type} [DecidableEq α] (key : α) (value : β) : List (α × β) → List (α × β)
  | [] => [(key, value)]
  | entry :: rest =>
      if entry.1 = key then (key, value) :: rest else entry :: mapSet key value rest

-- The equations of `mapSet`, made here once for the proofs below.
section

attribute [local simp] mapSet

end

section MapSet

variable {α : Type} [DecidableEq α] {key : α} {entries : List (α × β)} {value : β} {β : Type}

theorem mem_map_fst_mapSet {k : α} :
    k ∈ (mapSet key value entries).map Prod.fst ↔ k = key ∨ k ∈ entries.map Prod.fst := by
  induction entries with
  | nil => simp [mapSet]
  | cons entry rest ih =>
      rw [mapSet]
      by_cases hkey : entry.1 = key
      · rw [if_pos hkey, List.map_cons, List.map_cons, hkey]
        simp
      · rw [if_neg hkey, List.map_cons, List.mem_cons, ih, List.map_cons, List.mem_cons]
        tauto

theorem nodup_mapSet
    (h : (entries.map Prod.fst).Nodup) : ((mapSet key value entries).map Prod.fst).Nodup := by
  induction entries with
  | nil => simp [mapSet]
  | cons entry rest ih =>
      obtain ⟨hnot, hrest⟩ := List.nodup_cons.mp h
      rw [mapSet]
      by_cases hkey : entry.1 = key
      · rw [if_pos hkey]
        exact List.nodup_cons.mpr ⟨hkey ▸ hnot, hrest⟩
      · rw [if_neg hkey]
        refine List.nodup_cons.mpr ⟨?_, ih hrest⟩
        intro hmem
        rcases mem_map_fst_mapSet.mp hmem with heq | hmem
        · exact hkey heq
        · exact hnot hmem

theorem lookup_mapSet [BEq α] [LawfulBEq α] {k : α} :
    (mapSet key value entries).lookup k = if k = key then some value else entries.lookup k := by
  induction entries with
  | nil =>
      by_cases hk : k = key
      · simp [mapSet, hk]
      · simp [mapSet, hk]
  | cons entry rest ih =>
      rw [mapSet]
      by_cases hkey : entry.1 = key
      · rw [if_pos hkey, List.lookup_cons, List.lookup_cons, hkey]
        by_cases hk : k = key
        · simp [hk]
        · have hne : (k == key) = false := by simpa using hk
          simp [hne, hk]
      · rw [if_neg hkey, List.lookup_cons, List.lookup_cons, ih]
        by_cases hk : k = entry.1
        · have hne : k ≠ key := fun heq => hkey (hk.symm.trans heq)
          simp [hk, hkey]
        · have hne : (k == entry.1) = false := by simpa using hk
          simp [hne]

theorem mapSet_of_lookup [BEq α] [LawfulBEq α]
    (h : entries.lookup key = some value) : mapSet key value entries = entries := by
  induction entries with
  | nil => contradiction
  | cons entry rest ih =>
      rw [mapSet]
      by_cases hkey : entry.1 = key
      · have hvalue : some entry.2 = some value := by
          rw [← h, List.lookup_cons, hkey, beq_self_eq_true]
        rw [if_pos hkey, ← hkey, ← Option.some.inj hvalue]
      · have hne : (key == entry.1) = false := by simpa using Ne.symm hkey
        rw [List.lookup_cons, hne] at h
        rw [if_neg hkey, ih h]

theorem sum_mapSet_succ [BEq α] [LawfulBEq α] {counts : List (α × Nat)} :
    ((mapSet key ((counts.lookup key).getD 0 + 1) counts).map Prod.snd).sum =
      (counts.map Prod.snd).sum + 1 := by
  induction counts with
  | nil => simp [mapSet]
  | cons entry rest ih =>
      rw [mapSet, List.lookup_cons]
      by_cases hkey : entry.1 = key
      · simp only [hkey, if_true, beq_self_eq_true, Option.getD_some, List.map_cons, List.sum_cons]
        omega
      · have hbeq : (key == entry.1) = false := by simpa using Ne.symm hkey
        simp only [hkey, if_false, hbeq, List.map_cons, List.sum_cons, ih]
        omega

end MapSet

end NightWatch.Lib.JsData
