import NightWatch.Lib.JsData

/-!
The numbers that texts spell: the conversion of a string to a number, with its blanks,
signs, fractions, exponents and radix marks.
-/

namespace NightWatch.Lib.NumberText

open Lib.JsText Lib.JsData Lib.JsData.JsNumber

def signed : JsString → ℤ × JsString
  | '-' :: rest => (-1, rest)
  | '+' :: rest => (1, rest)
  | rest => (1, rest)

def radixOf (mark : Char) : Option Nat :=
  if mark = 'x' || mark = 'X' then some 16
  else if mark = 'o' || mark = 'O' then some 8
  else if mark = 'b' || mark = 'B' then some 2
  else none

def radixValue (radix : Nat) (digits : JsString) : Option Nat :=
  if digits = [] then none
  else (digits.mapM fun c => (hexValue c).filter (· < radix)).map fun values =>
    values.foldl (fun value digit => radix * value + digit) 0

def exponentOf : JsString → Option ℤ
  | [] => some 0
  | mark :: rest =>
      if (mark = 'e' || mark = 'E') && allOf Char.isDigit (signed rest).2 then
        some ((signed rest).1 * decimalValue (signed rest).2)
      else none

def unsignedDecimal (s : JsString) : Option ℚ :=
  let whole := s.takeWhile Char.isDigit
  let rest := s.dropWhile Char.isDigit
  let pointed := rest.head? = some '.'
  let fraction := if pointed then rest.tail.takeWhile Char.isDigit else []
  let exponent := if pointed then rest.tail.dropWhile Char.isDigit else rest
  if whole = [] ∧ fraction = [] then none
  else (exponentOf exponent).map fun e : ℤ =>
    decimalValue (whole ++ fraction) * (10 : ℚ) ^ (e - (fraction.length : ℤ))

def signedDecimal (s : JsString) : JsNumber :=
  let (sign, digits) := signed s
  if digits = "Infinity".toList then (if sign < 0 then negInfinity else posInfinity)
  else
    match unsignedDecimal digits with
    | some q => ofRat (sign * q)
    | none => nan

/-- `Number(s)`; the negative zero is the zero. -/
def numberOf (s : JsString) : JsNumber :=
  match trim s with
  | [] => finite 0
  | '0' :: mark :: digits =>
      match radixOf mark with
      | some radix =>
          match radixValue radix digits with
          | some n => ofRat n
          | none => nan
      | none => signedDecimal ('0' :: mark :: digits)
  | text => signedDecimal text

section Decimals

theorem toNat_of_isDigit {c : Char} (h : c.isDigit = true) : 48 ≤ c.toNat ∧ c.toNat ≤ 57 :=
  Char.isDigit_iff_toNat.mp h

theorem isSpace_of_isDigit {c : Char} (h : c.isDigit = true) : isSpace c = false := by
  obtain ⟨hlow, hhigh⟩ := toNat_of_isDigit h
  rw [← Char.ofNat_toNat c]
  interval_cases c.toNat <;> decide

theorem trim_of_not_space {s : JsString} (h : ∀ c ∈ s, isSpace c = false) : trim s = s := by
  have hdrop : ∀ t : JsString, (∀ c ∈ t, isSpace c = false) → t.dropWhile isSpace = t := by
    intro t ht
    cases t with
    | nil => rfl
    | cons c t => rw [List.dropWhile_cons_of_neg (by simp [ht c (by simp)])]
  rw [trim, hdrop s h, hdrop s.reverse (by simpa using h), List.reverse_reverse]

variable {s : JsString}

theorem signed_digits (h : ∀ c ∈ s, c.isDigit = true) : signed s = (1, s) := by
  unfold signed
  split
  · exact absurd (h '-' (by simp)) (by decide)
  · exact absurd (h '+' (by simp)) (by decide)
  · rfl

theorem unsignedDecimal_digits (hne : s ≠ []) (h : ∀ c ∈ s, c.isDigit = true) :
    unsignedDecimal s = some (decimalValue s) := by
  have htake : s.takeWhile Char.isDigit = s := List.takeWhile_eq_self_iff.mpr h
  have hdrop : s.dropWhile Char.isDigit = [] := List.dropWhile_eq_nil_iff.mpr h
  simp [unsignedDecimal, htake, hdrop, hne, exponentOf]

theorem signedDecimal_digits (hne : s ≠ []) (h : ∀ c ∈ s, c.isDigit = true) :
    signedDecimal s = ofRat (decimalValue s) := by
  have hinfinity : s ≠ "Infinity".toList := by
    rintro rfl
    exact absurd (h 'I' (by decide)) (by decide)
  rw [signedDecimal, signed_digits h]
  dsimp only
  rw [if_neg hinfinity, unsignedDecimal_digits hne h]
  simp

theorem radixOf_digit {c : Char} (h : c.isDigit = true) : radixOf c = none := by
  obtain ⟨hlow, hhigh⟩ := toNat_of_isDigit h
  rw [← Char.ofNat_toNat c]
  interval_cases c.toNat <;> decide

theorem numberOf_digits (hne : s ≠ []) (h : ∀ c ∈ s, c.isDigit = true) :
    numberOf s = ofRat (decimalValue s) := by
  unfold numberOf
  rw [trim_of_not_space fun c hc => isSpace_of_isDigit (h c hc)]
  split
  · contradiction
  · rename_i mark digits
    rw [radixOf_digit (h mark (by simp))]
    exact signedDecimal_digits hne h
  · exact signedDecimal_digits hne h

theorem numberOf_decimal {n : Nat} (h : n < 2 ^ 53) : numberOf (decimal n) = .ofNat n := by
  have hne : decimal n ≠ [] := Nat.toDigits_ne_nil
  rw [numberOf_digits hne fun c => isDigit_of_mem_decimal, decimalValue_decimal, ofRat_natCast h]

end Decimals

example : numberOf " 0x1F\n".toList = .ofNat 31 := by decide +kernel

example : numberOf "-12.50e1".toList = .finite (-125) := by decide +kernel

end NightWatch.Lib.NumberText
