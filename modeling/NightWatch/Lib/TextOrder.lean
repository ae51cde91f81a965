import NightWatch.Lib.JsText

/-!
The order in which `sort()` arranges texts is a linear order of texts, so a set of texts
has one sorted list.
-/

namespace NightWatch.Lib.TextOrder

open Lib.JsText

def units (c : Char) : List Nat :=
  if c.toNat < 0x10000 then [c.toNat]
  else [0xD800 + (c.toNat - 0x10000) / 0x400, 0xDC00 + (c.toNat - 0x10000) % 0x400]

theorem utf16Units_cons (c : Char) (s : JsString) : utf16Units (c :: s) = units c ++ utf16Units s :=
  List.flatMap_cons

theorem units_ne_nil (c : Char) : units c ≠ [] := by
  rw [units]
  split <;> simp

theorem toNat_valid (c : Char) : c.toNat < 0xD800 ∨ 0xDFFF < c.toNat ∧ c.toNat < 0x110000 :=
  c.valid

theorem units_append_inj {c d : Char} {xs ys : List Nat} (h : units c ++ xs = units d ++ ys) :
    c = d ∧ xs = ys := by
  have hc := toNat_valid c
  have hd := toNat_valid d
  have hnat : c.toNat = d.toNat ∧ xs = ys := by
    rw [units, units] at h
    by_cases hsmall : c.toNat < 0x10000
    · by_cases hsmall' : d.toNat < 0x10000
      · rw [if_pos hsmall, if_pos hsmall'] at h
        simpa using h
      · rw [if_pos hsmall, if_neg hsmall'] at h
        simp only [List.cons_append, List.nil_append, List.cons.injEq] at h
        omega
    · by_cases hsmall' : d.toNat < 0x10000
      · rw [if_neg hsmall, if_pos hsmall'] at h
        simp only [List.cons_append, List.nil_append, List.cons.injEq] at h
        omega
      · rw [if_neg hsmall, if_neg hsmall'] at h
        simp only [List.cons_append, List.nil_append, List.cons.injEq] at h
        exact ⟨by omega, h.2.2⟩
  exact ⟨Char.toNat_inj.mp hnat.1, hnat.2⟩

theorem utf16Units_injective : Function.Injective utf16Units := by
  intro s
  induction s with
  | nil =>
      rintro (_ | ⟨d, t⟩) h
      · rfl
      · rw [utf16Units_cons] at h
        exact absurd (List.append_eq_nil_iff.mp h.symm).1 (units_ne_nil d)
  | cons c s ih =>
      rintro (_ | ⟨d, t⟩) h
      · rw [utf16Units_cons] at h
        exact absurd (List.append_eq_nil_iff.mp h).1 (units_ne_nil c)
      · rw [utf16Units_cons, utf16Units_cons] at h
        obtain ⟨rfl, hrest⟩ := units_append_inj h
        rw [ih hrest]

instance : Std.Total textLe := ⟨fun s t => le_total (utf16Units s) (utf16Units t)⟩

instance : IsTrans JsString textLe := ⟨fun _ _ _ hst htu => le_trans (α := List Nat) hst htu⟩

instance : Std.Antisymm textLe :=
  ⟨fun _ _ hst hts => utf16Units_injective (le_antisymm (α := List Nat) hst hts)⟩

/-- `[...new Set(texts)].sort()`. -/
def sortedSet (texts : List JsString) : List JsString := texts.dedup.insertionSort textLe

section SortedSet

variable {texts texts' : List JsString}

@[simp] theorem mem_sortedSet {s : JsString} : s ∈ sortedSet texts ↔ s ∈ texts := by
  rw [sortedSet, List.mem_insertionSort, List.mem_dedup]

theorem nodup_sortedSet : (sortedSet texts).Nodup :=
  (List.perm_insertionSort textLe texts.dedup).nodup_iff.mpr (List.nodup_dedup texts)

theorem sort_congr (h : texts.Perm texts') :
    texts.insertionSort textLe = texts'.insertionSort textLe :=
  ((List.perm_insertionSort textLe _).trans (h.trans
    (List.perm_insertionSort textLe _).symm)).eq_of_pairwise'
      (List.pairwise_insertionSort textLe _) (List.pairwise_insertionSort textLe _)

theorem sortedSet_congr (h : ∀ s, s ∈ texts ↔ s ∈ texts') : sortedSet texts = sortedSet texts' := by
  apply sort_congr
  rw [List.perm_ext_iff_of_nodup (List.nodup_dedup texts) (List.nodup_dedup texts')]
  intro s
  rw [List.mem_dedup, List.mem_dedup]
  exact h s

end SortedSet

end NightWatch.Lib.TextOrder
