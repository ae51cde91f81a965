import NightWatch.Lib.Joined

/-!
Numbers as digits of a fixed width, the highest first: cut from a number by shifts and
put together by shifts again; and the hexadecimal digits a number is written with.
-/

namespace NightWatch.Lib.Radix

open Lib.JsText Lib.Joined

section Digits

variable (width : Nat)

def assemble (digits : List Nat) : Nat :=
  digits.foldl (fun value digit => value <<< width ||| digit) 0

/-- The lowest `count` digits. -/
def slices (count value : Nat) : List Nat :=
  (List.range count).reverse.map fun i => (value >>> (width * i)) &&& (2 ^ width - 1)

variable {width} {digits : List Nat} {count value : Nat}

theorem foldl_assemble (h : ∀ digit ∈ digits, digit < 2 ^ width) (value : Nat) :
    digits.foldl (fun value digit => value <<< width ||| digit) value =
      value * 2 ^ (width * digits.length) + assemble width digits := by
  induction digits generalizing value with
  | nil => simp [assemble]
  | cons digit digits ih =>
      have hrest := ih fun d hd => h d (List.mem_cons_of_mem digit hd)
      have hdigit : digit < 2 ^ width := h digit (by simp)
      have hstep : value <<< width ||| digit = value * 2 ^ width + digit := by
        rw [← Nat.shiftLeft_add_eq_or_of_lt hdigit, Nat.shiftLeft_eq]
      have hfirst : 0 <<< width ||| digit = digit := by simp
      have hpow : 2 ^ (width * (digit :: digits).length) =
          2 ^ width * 2 ^ (width * digits.length) := by
        rw [List.length_cons, Nat.mul_succ, Nat.add_comm, Nat.pow_add]
      rw [assemble, List.foldl_cons, List.foldl_cons, hrest, hrest, hstep, hfirst, hpow]
      ring

theorem assemble_cons {digit : Nat} (h : ∀ d ∈ digit :: digits, d < 2 ^ width) :
    assemble width (digit :: digits) =
      digit * 2 ^ (width * digits.length) + assemble width digits := by
  rw [assemble, List.foldl_cons, foldl_assemble fun d hd => h d (List.mem_cons_of_mem digit hd)]
  simp

theorem assemble_lt (h : ∀ digit ∈ digits, digit < 2 ^ width) :
    assemble width digits < 2 ^ (width * digits.length) := by
  induction digits with
  | nil => simp [assemble]
  | cons digit digits ih =>
      have hrest := ih fun d hd => h d (List.mem_cons_of_mem digit hd)
      have hdigit : digit + 1 ≤ 2 ^ width := h digit (by simp)
      have hbound : (digit + 1) * 2 ^ (width * digits.length) ≤
          2 ^ width * 2 ^ (width * digits.length) := Nat.mul_le_mul_right _ hdigit
      have hpow : 2 ^ (width * (digit :: digits).length) =
          2 ^ width * 2 ^ (width * digits.length) := by
        rw [List.length_cons, Nat.mul_succ, Nat.add_comm, Nat.pow_add]
      rw [assemble_cons h, hpow]
      rw [Nat.add_mul, Nat.one_mul] at hbound
      omega

theorem slices_succ (count value : Nat) : slices width (count + 1) value =
      (value >>> (width * count)) % 2 ^ width :: slices width count value := by
  simp [slices, List.range_succ, Nat.and_two_pow_sub_one_eq_mod]

@[simp] theorem length_slices (count value : Nat) : (slices width count value).length = count := by
  simp [slices]

theorem lt_of_mem_slices {digit : Nat} (h : digit ∈ slices width count value) :
    digit < 2 ^ width := by
  obtain ⟨i, -, rfl⟩ := List.mem_map.mp h
  rw [Nat.and_two_pow_sub_one_eq_mod]
  exact Nat.mod_lt _ (Nat.two_pow_pos width)

theorem assemble_slices_eq_mod (count value : Nat) :
    assemble width (slices width count value) = value % 2 ^ (width * count) := by
  induction count with
  | zero => simp [slices, assemble, Nat.mod_one]
  | succ count ih =>
      have hmem : ∀ d ∈ slices width (count + 1) value, d < 2 ^ width := fun d => lt_of_mem_slices
      rw [slices_succ] at hmem ⊢
      rw [assemble_cons hmem, ih, length_slices, Nat.shiftRight_eq_div_pow, Nat.mul_succ,
        Nat.pow_add, Nat.mod_mul]
      ring

theorem assemble_slices (h : value < 2 ^ (width * count)) :
    assemble width (slices width count value) = value := by
  rw [assemble_slices_eq_mod, Nat.mod_eq_of_lt h]

end Digits

def hexDigits : JsString := "0123456789abcdef".toList

variable {digit : Nat} {c : Char}

theorem digitChar_mem_hexDigits (h : digit < 16) : Nat.digitChar digit ∈ hexDigits := by
  interval_cases digit <;> decide

theorem hexValue_digitChar (h : digit < 16) : hexValue (Nat.digitChar digit) = some digit := by
  interval_cases digit <;> rfl

theorem mem_hexDigits_of_mem_toDigits {n : Nat} (hc : c ∈ Nat.toDigits 16 n) : c ∈ hexDigits := by
  induction n using Nat.strong_induction_on with
  | _ n ih =>
      rw [Nat.toDigits_eq_if (by omega)] at hc
      split at hc
      · rename_i hsmall
        rw [List.mem_singleton.mp hc]
        exact digitChar_mem_hexDigits hsmall
      · rcases List.mem_append.mp hc with hc | hc
        · exact ih (n / 16) (by omega) hc
        · rw [List.mem_singleton.mp hc]
          exact digitChar_mem_hexDigits (by omega)

variable {s : JsString} {value : Nat}

theorem hexNumber_concat (hs : hexNumber s = some value) (hc : hexValue c = some digit) :
    hexNumber (s ++ [c]) = some (16 * value + digit) := by
  obtain ⟨digits, hdigits, hvalue⟩ := Option.map_eq_some_iff.mp hs
  simp [hexNumber, List.mapM_append, hdigits, hc, hvalue]

theorem hexNumber_toDigits (n : Nat) : hexNumber (Nat.toDigits 16 n) = some n := by
  induction n using Nat.strong_induction_on with
  | _ n ih =>
      rw [Nat.toDigits_eq_if (by omega)]
      split
      · rename_i hsmall
        simp [hexNumber, hexValue_digitChar hsmall]
      · have hlast : n % 16 < 16 := Nat.mod_lt n (by decide)
        have hdigit := hexValue_digitChar hlast
        rw [hexNumber_concat (ih (n / 16) (by omega)) hdigit, Nat.div_add_mod]

theorem foldl_hex_lt {digits : List Nat} (h : ∀ digit ∈ digits, digit < 16) (value : Nat) :
    digits.foldl (fun value digit => 16 * value + digit) value < (value + 1) * 16 ^ digits.length := by
  induction digits generalizing value with
  | nil => simp
  | cons digit digits ih =>
      have hdigit : digit < 16 := h digit (by simp)
      have hrest := ih (fun d hd => h d (List.mem_cons_of_mem digit hd)) (16 * value + digit)
      rw [List.foldl_cons, List.length_cons, Nat.pow_succ]
      refine lt_of_lt_of_le hrest ?_
      calc (16 * value + digit + 1) * 16 ^ digits.length
          ≤ ((value + 1) * 16) * 16 ^ digits.length := Nat.mul_le_mul_right _ (by omega)
        _ = (value + 1) * (16 ^ digits.length * 16) := by ring

theorem hexValue_lt (h : hexValue c = some digit) : digit < 16 := by
  unfold hexValue at h
  split at h
  · rename_i hc
    have hrange := Char.isDigit_iff_toNat.mp hc
    have hnine : '9'.toNat = '0'.toNat + 9 := rfl
    rw [← Option.some.inj h]
    omega
  · split at h
    · rename_i hc
      have hrange : c.toNat ≤ 'f'.toNat := by
        simp only [Bool.and_eq_true, decide_eq_true_eq] at hc
        exact UInt32.le_iff_toNat_le.mp (Char.le_def.mp hc.2)
      have hlast : 'f'.toNat = 'a'.toNat + 5 := rfl
      rw [← Option.some.inj h]
      omega
    · split at h
      · rename_i hc
        have hrange : c.toNat ≤ 'F'.toNat := by
          simp only [Bool.and_eq_true, decide_eq_true_eq] at hc
          exact UInt32.le_iff_toNat_le.mp (Char.le_def.mp hc.2)
        have hlast : 'F'.toNat = 'A'.toNat + 5 := rfl
        rw [← Option.some.inj h]
        omega
      · contradiction

theorem hexNumber_lt (h : hexNumber s = some value) : value < 16 ^ s.length := by
  obtain ⟨digits, hdigits, rfl⟩ := Option.map_eq_some_iff.mp h
  have hsmall : ∀ digit ∈ digits, digit < 16 := by
    intro digit hdigit
    obtain ⟨c, -, hc⟩ := exists_of_mem_mapM hdigits hdigit
    exact hexValue_lt hc
  simpa [length_of_mapM hdigits] using foldl_hex_lt hsmall 0

end NightWatch.Lib.Radix
