import Mathlib

/-!
Lists with an opening and a closing bracket among their elements: how deep they nest, where what
is open is closed, and which bracket is open around a place.
-/

namespace NightWatch.Lib.Nesting

universe u

variable {α : Type u} [DecidableEq α]

/-- `1` for an opening bracket, `-1` for a closing one. -/
def turn (opens closes a : α) : ℤ :=
  (if a = opens then 1 else 0) - (if a = closes then 1 else 0)

def level (opens closes : α) (l : List α) : ℤ := (l.map (turn opens closes)).sum

variable {opens closes : α}

@[simp] theorem level_nil : level opens closes [] = 0 := rfl

@[simp] theorem level_cons (a : α) (l : List α) :
    level opens closes (a :: l) = turn opens closes a + level opens closes l := by
  simp [level]

@[simp] theorem level_append (l l' : List α) :
    level opens closes (l ++ l') = level opens closes l + level opens closes l' := by
  simp [level]

theorem turn_opens (h : opens ≠ closes) : turn opens closes opens = 1 := by
  simp [turn, h]

theorem turn_closes (h : opens ≠ closes) : turn opens closes closes = -1 := by
  simp [turn, h.symm]

theorem turn_other {a : α} (hopens : a ≠ opens) (hcloses : a ≠ closes) :
    turn opens closes a = 0 := by
  simp [turn, hopens, hcloses]

theorem turn_cases (h : opens ≠ closes) (a : α) : a = opens ∧ turn opens closes a = 1 ∨
    a = closes ∧ turn opens closes a = -1 ∨ a ≠ opens ∧ a ≠ closes ∧ turn opens closes a = 0 := by
  by_cases hopens : a = opens
  · subst hopens
    exact .inl ⟨rfl, turn_opens h⟩
  · by_cases hcloses : a = closes
    · subst hcloses
      exact .inr (.inl ⟨rfl, turn_closes h⟩)
    · exact .inr (.inr ⟨hopens, hcloses, turn_other hopens hcloses⟩)

/-- Nothing is closed that is not open, and nothing stays open. -/
structure Balanced (opens closes : α) (l : List α) : Prop where
  prefixes : ∀ n, 0 ≤ level opens closes (l.take n)
  total : level opens closes l = 0

/-- The bracket at `n` closes so many that were open before the list. -/
def ZeroAt (opens closes : α) (l : List α) (depth : ℤ) (n : ℕ) : Prop :=
  l[n]? = some closes ∧ depth + level opens closes (l.take (n + 1)) = 0

/-- The first bracket that closes them. -/
def FirstZero (opens closes : α) (l : List α) (depth : ℤ) (n : ℕ) : Prop :=
  ZeroAt opens closes l depth n ∧ ∀ m < n, ¬ ZeroAt opens closes l depth m

/-- The bracket at `i` is closed at `j`. -/
def Matches (opens closes : α) (l : List α) (i j : ℕ) : Prop :=
  l[i]? = some opens ∧ ∃ n, j = i + n ∧ FirstZero opens closes (l.drop i) 0 n

instance (l : List α) (depth : ℤ) (n : ℕ) : Decidable (ZeroAt opens closes l depth n) :=
  inferInstanceAs (Decidable (_ ∧ _))

variable {l : List α} {depth : ℤ} {a : α} {m n i j k : ℕ}

theorem FirstZero.eq (h : FirstZero opens closes l depth m)
    (h' : FirstZero opens closes l depth n) : m = n := by
  rcases Nat.lt_trichotomy m n with hlt | rfl | hlt
  · exact absurd h.1 (h'.2 m hlt)
  · rfl
  · exact absurd h'.1 (h.2 n hlt)

theorem Matches.eq (h : Matches opens closes l i j) (h' : Matches opens closes l i k) : j = k := by
  obtain ⟨-, m, rfl, hm⟩ := h
  obtain ⟨-, n, rfl, hn⟩ := h'
  rw [hm.eq hn]

theorem zeroAt_succ : ZeroAt opens closes (a :: l) depth (n + 1) ↔
    ZeroAt opens closes l (depth + turn opens closes a) n := by
  simp [ZeroAt, Int.add_assoc]

theorem zeroAt_zero (h : opens ≠ closes) :
    ZeroAt opens closes (a :: l) depth 0 ↔ a = closes ∧ depth = 1 := by
  simp only [ZeroAt, List.getElem?_cons_zero, Option.some.injEq, List.take_succ_cons,
    List.take_zero, level_cons, level_nil, Int.add_zero]
  constructor
  · rintro ⟨rfl, hlevel⟩
    rw [turn_closes h] at hlevel
    exact ⟨rfl, by omega⟩
  · rintro ⟨rfl, rfl⟩
    exact ⟨rfl, by rw [turn_closes h]; rfl⟩

theorem firstZero_succ (hne : opens ≠ closes) (hfirst : ¬ (a = closes ∧ depth = 1)) :
    FirstZero opens closes (a :: l) depth (n + 1) ↔
      FirstZero opens closes l (depth + turn opens closes a) n := by
  simp only [FirstZero, zeroAt_succ]
  constructor
  · rintro ⟨hzero, hless⟩
    exact ⟨hzero, fun m hm => by rw [← zeroAt_succ]; exact hless (m + 1) (by omega)⟩
  · rintro ⟨hzero, hless⟩
    refine ⟨hzero, fun m hm => ?_⟩
    cases m with
    | zero => rwa [zeroAt_zero hne]
    | succ m => rw [zeroAt_succ]; exact hless m (by omega)

theorem firstZero_zero (hne : opens ≠ closes) :
    FirstZero opens closes (a :: l) depth 0 ↔ a = closes ∧ depth = 1 := by
  rw [FirstZero, zeroAt_zero hne]
  exact and_iff_left fun m hm => absurd hm (Nat.not_lt_zero m)

section Backward

def between (l : List α) (o i : ℕ) : List α := (l.drop (o + 1)).take (i - (o + 1))

/-- The bracket at `o` is the one around `i`. -/
structure Encloses (opens closes : α) (l : List α) (o i : ℕ) : Prop where
  before : o < i
  atOpen : l[o]? = some opens
  balanced : Balanced opens closes (between l o i)

/-- The search down from `i` to what stands above `low`, with `depth` closed blocks passed. -/
def openerBefore (opens closes : α) (l : List α) (low : ℕ) : (i depth : ℕ) → Option ℕ
  | 0, _ => none
  | i + 1, depth =>
      if i ≤ low then none
      else if l[i]? = some closes then openerBefore opens closes l low i (depth + 1)
      else if l[i]? = some opens then
        if depth = 0 then some i else openerBefore opens closes l low i (depth - 1)
      else openerBefore opens closes l low i depth

/-- Where the search ends: from there on as much is opened as was passed, and no later part opens
more. -/
structure Opener (opens closes : α) (l : List α) (low i depth o : ℕ) : Prop where
  low : low < o
  before : o < i
  atOpen : l[o]? = some opens
  total : level opens closes (between l o i) = depth
  suffixes : ∀ n, level opens closes ((between l o i).drop n) ≤ depth

omit [DecidableEq α] in
theorem between_succ {a : α} (hlt : o < i) (ha : l[i]? = some a) :
    between l o (i + 1) = between l o i ++ [a] := by
  have hget : (l.drop (o + 1))[i - (o + 1)]? = some a := by
    rw [List.getElem?_drop, show o + 1 + (i - (o + 1)) = i by omega, ha]
  rw [between, between, show i + 1 - (o + 1) = i - (o + 1) + 1 by omega, List.take_add_one, hget]
  rfl

theorem Opener.succ {low depth depth' : ℕ} {a : α} (h : Opener opens closes l low i depth' o)
    (ha : l[i]? = some a) (hturn : (depth' : ℤ) + turn opens closes a = depth) :
    Opener opens closes l low (i + 1) depth o := by
  have hsplit := between_succ h.before ha
  refine ⟨h.low, by have := h.before; omega, h.atOpen, ?_, fun n => ?_⟩
  · rw [hsplit, level_append, h.total, level_cons, level_nil, Int.add_zero, hturn]
  · rw [hsplit]
    rcases Nat.lt_or_ge (between l o i).length n with hlt | hle
    · rw [List.drop_eq_nil_of_le (by simp only [List.length_append, List.length_singleton]; omega),
        level_nil]
      exact Int.natCast_nonneg depth
    · rw [List.drop_append_of_le_length hle, level_append, level_cons, level_nil, Int.add_zero]
      have hsuffix := h.suffixes n
      omega

theorem openerBefore_spec (hne : opens ≠ closes) {low depth : ℕ} (hlength : i ≤ l.length)
    (h : openerBefore opens closes l low i depth = some o) :
    Opener opens closes l low i depth o := by
  induction i generalizing depth with
  | zero => contradiction
  | succ i ih =>
      have ha : l[i]? = some l[i] := List.getElem?_eq_getElem hlength
      rw [openerBefore] at h
      split at h
      · contradiction
      rename_i hlow
      split at h
      · -- One more closed block is passed.
        rename_i hcloses
        refine (ih (by omega) h).succ hcloses ?_
        rw [turn_closes hne]
        omega
      rename_i hcloses
      split at h
      · rename_i hopens
        split at h
        · rename_i hzero
          obtain rfl := Option.some.inj h
          have hnil : between l i (i + 1) = [] := by rw [between, Nat.sub_self, List.take_zero]
          refine ⟨by omega, Nat.lt_succ_self i, hopens, ?_, fun n => ?_⟩
          · rw [hnil, hzero]
            rfl
          · rw [hnil, List.drop_nil, hzero]
            rfl
        · refine (ih (by omega) h).succ hopens ?_
          rw [turn_opens hne]
          omega
      · rename_i hopens
        refine (ih (by omega) h).succ ha ?_
        rw [ha, Option.some.injEq] at hopens hcloses
        rw [turn_other hopens hcloses, Int.add_zero]

theorem encloses_of_openerBefore (hne : opens ≠ closes) {low : ℕ} (hlength : i ≤ l.length)
    (h : openerBefore opens closes l low i 0 = some o) : low < o ∧ Encloses opens closes l o i := by
  have hopener := openerBefore_spec hne hlength h
  refine ⟨hopener.low, hopener.before, hopener.atOpen, fun n => ?_, hopener.total⟩
  have htotal := hopener.total
  rw [← List.take_append_drop n (between l o i), level_append] at htotal
  have hsuffix := hopener.suffixes n
  omega

end Backward

end NightWatch.Lib.Nesting
