import Mathlib

/-!
JavaScript strings as lists of characters, with the operations and the regular
expression fragments that source programs use on them. Every operation is a
structural list function, so closed instances evaluate in the kernel.
-/

namespace NightWatch.Lib.JsText

abbrev JsString := List Char

-- These two come before the instances that go through every character there is.
instance (priority := high) (s : JsString) (p : Char → Prop) [DecidablePred p] :
    Decidable (∀ c ∈ s, p c) := List.decidableBAll p s

instance (priority := high) (s : JsString) (p : Char → Prop) [DecidablePred p] :
    Decidable (∃ c ∈ s, p c) := List.decidableBEx p s

instance (priority := high) (c : Char) (s : JsString) : Decidable (c ∈ s) :=
  List.instDecidableMemOfLawfulBEq c s

instance (priority := high) (s : JsString) (l : List JsString) : Decidable (s ∈ l) :=
  List.instDecidableMemOfLawfulBEq s l

/-- `s.startsWith(p)`. -/
def startsWith (s p : JsString) : Bool := p.isPrefixOf s

/-- `s.endsWith(p)`. -/
def endsWith (s p : JsString) : Bool := p.isSuffixOf s

/-- `s.includes(p)`. -/
def includes (s p : JsString) : Bool := decide (p <:+: s)

variable {after before s : JsString} {c : Char}

@[simp] theorem startsWith_iff {p : JsString} : startsWith s p = true ↔ p <+: s := by
  simp [startsWith]

@[simp] theorem endsWith_iff {p : JsString} : endsWith s p = true ↔ p <:+ s := by
  simp [endsWith]

/-- `s.length`: characters outside the basic plane take two code units. -/
def utf16Length (s : JsString) : Nat :=
  (s.map fun c => if c.toNat < 0x10000 then 1 else 2).sum

def utf16Units (s : JsString) : List Nat :=
  s.flatMap fun c =>
    if c.toNat < 0x10000 then [c.toNat]
    else [0xD800 + (c.toNat - 0x10000) / 0x400, 0xDC00 + (c.toNat - 0x10000) % 0x400]

/-- The order in which `sort()` arranges texts. -/
def textLe (s t : JsString) : Prop := utf16Units s ≤ utf16Units t

instance : DecidableRel textLe := fun s t => inferInstanceAs (Decidable (utf16Units s ≤ _))

theorem utf16Length_of_basic (hs : ∀ c ∈ s, c.toNat < 0x10000) : utf16Length s = s.length := by
  induction s with
  | nil => rfl
  | cons c s ih =>
      have hrest := ih fun d hd => hs d (by simp [hd])
      rw [utf16Length, List.map_cons, List.sum_cons, if_pos (hs c (by simp)), ← utf16Length, hrest,
        List.length_cons, Nat.add_comm]

/-- `Buffer.byteLength(s)`. -/
def byteLength (s : JsString) : Nat := (s.map Char.utf8Size).sum

/-- The `WhiteSpace` and `LineTerminator` productions, which `trim` and `\s` share. -/
def isSpace (c : Char) : Bool :=
  c.toNat ∈ [0x09, 0x0a, 0x0b, 0x0c, 0x0d, 0x20, 0xa0, 0x1680, 0x2028, 0x2029, 0x202f,
      0x205f, 0x3000, 0xfeff] ||
    (0x2000 ≤ c.toNat && c.toNat ≤ 0x200a)

/-- `s.trim()`. -/
def trim (s : JsString) : JsString :=
  ((s.dropWhile isSpace).reverse.dropWhile isSpace).reverse

/-- A string of seven-bit characters. -/
def IsAscii (s : JsString) : Prop := ∀ c ∈ s, c.toNat < 128

instance (s : JsString) : Decidable (IsAscii s) :=
  inferInstanceAs (Decidable (∀ c ∈ s, c.toNat < 128))

/-- A seven-bit string without capitals, on which case folding does nothing. -/
def IsLowerAscii (s : JsString) : Prop := ∀ c ∈ s, c.toNat < 128 ∧ c.isUpper = false

instance (s : JsString) : Decidable (IsLowerAscii s) :=
  inferInstanceAs (Decidable (∀ c ∈ s, c.toNat < 128 ∧ c.isUpper = false))

theorem IsLowerAscii.isAscii (hs : IsLowerAscii s) : IsAscii s :=
  fun c hc => (hs c hc).1

theorem toLower_of_not_isUpper (hc : c.isUpper = false) : c.toLower = c := by
  rw [Char.toLower, dif_neg]
  simpa [Char.isUpper] using hc

theorem map_toLower_of_isLowerAscii (hs : IsLowerAscii s) : s.map Char.toLower = s := by
  induction s with
  | nil => rfl
  | cons c s ih =>
      have hc := toLower_of_not_isUpper (hs c (by simp)).2
      have hrest : IsLowerAscii s := fun d hd => hs d (by simp [hd])
      simp only [List.map_cons, hc, ih hrest]

/-- The parts of `s` around the first occurrence of `c`: `s.slice(0, i)` and
`s.slice(i + 1)` for `i = s.indexOf(c)`. -/
def splitFirst (c : Char) : JsString → Option (JsString × JsString)
  | [] => none
  | d :: s =>
      if d = c then some ([], s)
      else (splitFirst c s).map fun parts => (d :: parts.1, parts.2)

/-- The parts of `s` around the last occurrence of `c`. -/
def splitLast (c : Char) (s : JsString) : Option (JsString × JsString) :=
  (splitFirst c s.reverse).map fun parts => (parts.2.reverse, parts.1.reverse)

-- The equations of the two splits, made here once for the proofs below.
section

attribute [local simp] splitFirst splitLast

end

theorem splitFirst_eq_some
    (h : splitFirst c s = some (before, after)) : s = before ++ c :: after ∧ c ∉ before := by
  induction s generalizing before with
  | nil => simp [splitFirst] at h
  | cons d s ih =>
      unfold splitFirst at h
      split at h
      · rename_i hd
        simp only [Option.some.injEq, Prod.mk.injEq] at h
        obtain ⟨rfl, rfl⟩ := h
        simp [hd]
      · rename_i hd
        obtain ⟨⟨before', after'⟩, hrest, heq⟩ := Option.map_eq_some_iff.mp h
        simp only [Prod.mk.injEq] at heq
        obtain ⟨rfl, rfl⟩ := heq
        obtain ⟨hs, hbefore⟩ := ih hrest
        refine ⟨by simp [← hs], ?_⟩
        simp only [List.mem_cons, not_or]
        exact ⟨fun hc => hd hc.symm, hbefore⟩

theorem splitFirst_eq_none (h : splitFirst c s = none) : c ∉ s := by
  induction s with
  | nil => simp
  | cons d s ih =>
      unfold splitFirst at h
      split at h
      · contradiction
      · rename_i hd
        have hrest := ih (Option.map_eq_none_iff.mp h)
        simp only [List.mem_cons, not_or]
        exact ⟨fun hc => hd hc.symm, hrest⟩

theorem splitLast_eq_some
    (h : splitLast c s = some (before, after)) : s = before ++ c :: after ∧ c ∉ after := by
  obtain ⟨⟨after', before'⟩, hrev, heq⟩ := Option.map_eq_some_iff.mp h
  simp only [Prod.mk.injEq] at heq
  obtain ⟨rfl, rfl⟩ := heq
  obtain ⟨hs, hafter⟩ := splitFirst_eq_some hrev
  refine ⟨?_, by simpa using hafter⟩
  simpa using congrArg List.reverse hs

theorem splitLast_eq_none (h : splitLast c s = none) : c ∉ s := by
  simpa using splitFirst_eq_none (Option.map_eq_none_iff.mp h)

theorem splitFirst_append (h : c ∉ before) :
    splitFirst c (before ++ c :: after) = some (before, after) := by
  induction before with
  | nil => simp [splitFirst]
  | cons d before ih =>
      simp only [List.mem_cons, not_or] at h
      rw [List.cons_append, splitFirst, if_neg (Ne.symm h.1), ih h.2]
      rfl

theorem splitLast_append (h : c ∉ after) :
    splitLast c (before ++ c :: after) = some (before, after) := by
  have hrev : (before ++ c :: after).reverse = after.reverse ++ c :: before.reverse := by simp
  rw [splitLast, hrev, splitFirst_append (by simpa using h)]
  simp

theorem exists_mem_splitOn {sep : Char} (hc : c ∈ s) (hsep : c ≠ sep) :
    ∃ part ∈ s.splitOn sep, c ∈ part := by
  obtain ⟨before, after, rfl⟩ := List.append_of_mem hc
  induction before with
  | nil =>
      rw [List.nil_append, List.splitOn_cons_eq_if_modifyHead, if_neg (by simpa using hsep)]
      obtain ⟨part, parts, hparts⟩ := List.exists_cons_of_ne_nil (List.splitOn_ne_nil sep after)
      exact ⟨c :: part, by simp [hparts], by simp⟩
  | cons d before ih =>
      obtain ⟨part, hpart, hmem⟩ := ih (by simp)
      rw [List.cons_append, List.splitOn_cons_eq_if_modifyHead]
      split
      · exact ⟨part, List.mem_cons_of_mem _ hpart, hmem⟩
      · obtain ⟨first, parts, hparts⟩ :=
          List.exists_cons_of_ne_nil (List.splitOn_ne_nil sep (before ++ c :: after))
        rw [hparts] at hpart ⊢
        rcases List.mem_cons.mp hpart with rfl | hpart
        · exact ⟨d :: part, by simp, List.mem_cons_of_mem _ hmem⟩
        · exact ⟨part, by simp [hpart], hmem⟩

/-- `parts.join(sep)`. -/
def join (sep : Char) (parts : List JsString) : JsString := [sep].intercalate parts

/-- The parts around the first doubled `c`. -/
def splitPair (c : Char) : JsString → Option (JsString × JsString)
  | d :: e :: s =>
      if d = c && e = c then some ([], s)
      else (splitPair c (e :: s)).map fun parts => (d :: parts.1, parts.2)
  | _ => none

/-- `s.replace(/^\[|\]$/g, '')`. -/
def stripBrackets (s : JsString) : JsString :=
  let opened := if s.head? = some '[' then s.tail else s
  if opened.getLast? = some ']' then opened.dropLast else opened

/-- `s.split(/\r?\n/)`. -/
def splitLines : JsString → List JsString
  | [] => [[]]
  | '\r' :: '\n' :: rest | '\n' :: rest => [] :: splitLines rest
  | c :: rest => (splitLines rest).modifyHead (c :: ·)

def hexValue (c : Char) : Option Nat :=
  if c.isDigit then some (c.toNat - '0'.toNat)
  else if 'a' ≤ c && c ≤ 'f' then some (c.toNat - 'a'.toNat + 10)
  else if 'A' ≤ c && c ≤ 'F' then some (c.toNat - 'A'.toNat + 10)
  else none

def hexNumber (s : JsString) : Option Nat :=
  (s.mapM hexValue).map fun digits => digits.foldl (fun value digit => 16 * value + digit) 0

/-- A text on one line. -/
def Printable (s : JsString) : Prop := ∀ c ∈ s, 0x20 ≤ c.toNat

instance (s : JsString) : Decidable (Printable s) := inferInstanceAs (Decidable (∀ c ∈ s, _))

theorem Printable.append {t : JsString} (hs : Printable s) (ht : Printable t) :
    Printable (s ++ t) := by
  intro c hc
  rcases List.mem_append.mp hc with hc | hc
  · exact hs c hc
  · exact ht c hc

theorem Printable.cons (hc : 0x20 ≤ c.toNat) (hs : Printable s) : Printable (c :: s) := by
  intro d hd
  rcases List.mem_cons.mp hd with rfl | hd
  · exact hc
  · exact hs d hd

theorem Printable.ne_lineBreak (hs : Printable s) (hc : c ∈ s) : c ≠ '\r' ∧ c ≠ '\n' := by
  have hprintable := hs c hc
  constructor
  · rintro rfl
    exact absurd hprintable (by decide)
  · rintro rfl
    exact absurd hprintable (by decide)

theorem splitLines_cons (hc : c ≠ '\r' ∧ c ≠ '\n') :
    splitLines (c :: s) = (splitLines s).modifyHead (c :: ·) := by
  rw [splitLines.eq_def]
  split
  · contradiction
  · rename_i heq
    exact absurd (List.cons.inj heq).1 hc.1
  · rename_i heq
    exact absurd (List.cons.inj heq).1 hc.2
  · rename_i heq
    obtain ⟨rfl, rfl⟩ := List.cons.inj heq
    rfl

theorem splitLines_line {line rest : JsString} (hline : Printable line) :
    splitLines (line ++ '\n' :: rest) = line :: splitLines rest := by
  induction line with
  | nil => rfl
  | cons c line ih =>
      have hrest := ih fun d hd => hline d (List.mem_cons_of_mem c hd)
      rw [List.cons_append, splitLines_cons (hline.ne_lineBreak (by simp)), hrest]
      rfl

def linesText (lines : List JsString) : JsString := lines.flatMap fun line => line ++ ['\n']

theorem filter_splitLines_linesText {lines : List JsString}
    (h : ∀ line ∈ lines, line ≠ [] ∧ Printable line) :
    ((splitLines (linesText lines)).filter fun line => line ≠ []) = lines := by
  induction lines with
  | nil => rfl
  | cons line lines ih =>
      obtain ⟨hne, hprintable⟩ := h line (by simp)
      have hrest := ih fun other hother => h other (List.mem_cons_of_mem line hother)
      have htext : linesText (line :: lines) = line ++ '\n' :: linesText lines := by
        simp [linesText]
      rw [htext, splitLines_line hprintable, List.filter_cons_of_pos (by simpa using hne), hrest]

def decimal (n : Nat) : JsString := Nat.toDigits 10 n

def decimalValue (s : JsString) : Nat := Nat.ofDigitChars 10 s 0

@[simp] theorem decimalValue_decimal (n : Nat) : decimalValue (decimal n) = n :=
  Nat.ofDigitChars_ten_toDigits

theorem decimal_injective : Function.Injective decimal :=
  Function.LeftInverse.injective decimalValue_decimal

theorem isDigit_of_mem_decimal {n : Nat} (hc : c ∈ decimal n) : c.isDigit = true :=
  Nat.isDigit_of_mem_toDigits (by decide) (by decide) hc

/-- `s.padStart(width, '0')`. -/
def padStart (width : Nat) (s : JsString) : JsString :=
  List.replicate (width - s.length) '0' ++ s

theorem decimalValue_padStart (width : Nat) (s : JsString) :
    decimalValue (padStart width s) = decimalValue s := by
  simp [decimalValue, padStart, Nat.ofDigitChars_append, Nat.ofDigitChars_replicate_zero]

/-- `/^[...]+$/`: a nonempty string of characters of one class. -/
def allOf (p : Char → Bool) (s : JsString) : Bool := !s.isEmpty && s.all p

/-- `/^[...]{1,max}$/`. -/
def upTo (max : Nat) (p : Char → Bool) (s : JsString) : Bool :=
  allOf p s && s.length ≤ max

theorem allOf_iff {p : Char → Bool} : allOf p s = true ↔ s ≠ [] ∧ ∀ c ∈ s, p c = true := by
  simp [allOf]

theorem upTo_iff {max : Nat} {p : Char → Bool} :
    upTo max p s = true ↔ s ≠ [] ∧ (∀ c ∈ s, p c = true) ∧ s.length ≤ max := by
  simp [upTo, allOf, and_assoc]

end NightWatch.Lib.JsText
