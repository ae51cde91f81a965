import NightWatch.Lib.JsData

/-!
Grouping a list by a key, and sorting by a linear comparison: neither depends on the order
of the list.
-/

namespace NightWatch.Lib.Grouping

open Lib.JsData

section Groups

variable {α κ : Type} [DecidableEq κ] (key : α → κ)

/-- `groups.set(key(x), [...(groups.get(key(x)) ?? []), x])`. -/
def addTo (groups : List (κ × List α)) (x : α) : List (κ × List α) :=
  mapSet (key x) ((groups.lookup (key x)).getD [] ++ [x]) groups

def group (xs : List α) : List (κ × List α) := xs.foldl (addTo key) []

variable {key}

theorem group_concat (xs : List α) (x : α) :
    group key (xs ++ [x]) = addTo key (group key xs) x := by
  rw [group, List.foldl_append]
  rfl

theorem nodup_group (xs : List α) : ((group key xs).map Prod.fst).Nodup := by
  induction xs using List.reverseRecOn with
  | nil => exact List.nodup_nil
  | append_singleton xs x ih =>
      rw [group_concat]
      exact nodup_mapSet ih

theorem lookup_group (xs : List α) (k : κ) : (group key xs).lookup k =
      if xs.filter (fun x => key x = k) = [] then none
      else some (xs.filter fun x => key x = k) := by
  induction xs using List.reverseRecOn with
  | nil => rfl
  | append_singleton xs x ih =>
      rw [group_concat, addTo, lookup_mapSet, List.filter_append]
      by_cases hkey : k = key x
      · have hself := ih
        rw [hkey] at hself
        have hone : [x].filter (fun y => decide (key y = key x)) = [x] := by simp
        have hne : xs.filter (fun y => decide (key y = key x)) ++ [x] ≠ [] := by simp
        rw [if_pos hkey, hkey, hself, hone, if_neg hne]
        split
        · rename_i hempty
          rw [hempty]
          rfl
        · rfl
      · have hnone : [x].filter (fun y => decide (key y = k)) = [] := by
          simp [Ne.symm hkey]
        rw [if_neg hkey, ih, hnone, List.append_nil]

omit [DecidableEq κ] in
theorem mem_iff_lookup [BEq κ] [LawfulBEq κ] {β : Type} {entries : List (κ × β)}
    (h : (entries.map Prod.fst).Nodup)
    {k : κ} {b : β} : (k, b) ∈ entries ↔ entries.lookup k = some b := by
  rw [List.lookup_eq_some_iff]
  constructor
  · intro hmem
    obtain ⟨before, after, rfl⟩ := List.append_of_mem hmem
    rw [List.map_append, List.nodup_append] at h
    refine ⟨before, after, rfl, fun entry hentry => bne_iff_ne.mpr fun heq => ?_⟩
    exact h.2.2 _ (List.mem_map_of_mem hentry) k (by simp) heq.symm
  · rintro ⟨before, after, rfl, -⟩
    simp

theorem mem_group {xs : List α} {k : κ} {items : List α} :
    (k, items) ∈ group key xs ↔ items ≠ [] ∧ xs.filter (fun x => key x = k) = items := by
  rw [mem_iff_lookup (nodup_group xs), lookup_group]
  split
  · rename_i hempty
    rw [hempty]
    constructor
    · intro h
      contradiction
    · rintro ⟨hne, heq⟩
      exact absurd heq.symm hne
  · rename_i hne
    constructor
    · intro h
      exact ⟨Option.some.inj h ▸ hne, Option.some.inj h⟩
    · rintro ⟨-, heq⟩
      rw [heq]

theorem sum_mapSet {β : Type} (f : β → Nat) (k : κ) (b : β) (entries : List (κ × β)) :
    ((mapSet k b entries).map fun entry => f entry.2).sum + ((entries.lookup k).map f).getD 0 =
      (entries.map fun entry => f entry.2).sum + f b := by
  induction entries with
  | nil => simp [mapSet]
  | cons entry rest ih =>
      obtain ⟨k', b'⟩ := entry
      rw [mapSet, List.lookup_cons]
      by_cases hkey : k' = k
      · rw [if_pos hkey, hkey, beq_self_eq_true]
        simp only [List.map_cons, List.sum_cons, Option.map_some, Option.getD_some]
        omega
      · rw [if_neg hkey, beq_eq_false_iff_ne.mpr (Ne.symm hkey)]
        simp only [List.map_cons, List.sum_cons]
        omega

theorem sum_length_group (xs : List α) :
    ((group key xs).map fun entry => entry.2.length).sum = xs.length := by
  induction xs using List.reverseRecOn with
  | nil => rfl
  | append_singleton xs x ih =>
      have hsum := sum_mapSet List.length (key x)
        (((group key xs).lookup (key x)).getD [] ++ [x]) (group key xs)
      have hlength : (((group key xs).lookup (key x)).map List.length).getD 0 =
          (((group key xs).lookup (key x)).getD []).length := by
        cases (group key xs).lookup (key x) <;> rfl
      rw [hlength, ih, List.length_append] at hsum
      rw [group_concat, addTo, List.length_append]
      simp only [List.length_singleton] at hsum ⊢
      omega

end Groups

section Sorting

variable {α β : Type}

structure LinearLe (r : α → α → Prop) : Prop where
  total : ∀ a b, r a b ∨ r b a
  trans : ∀ a b c, r a b → r b c → r a c
  antisymm : ∀ a b, r a b → r b a → a = b

/-- The first comparison, and the second where it finds no difference. -/
def lexLe (r : α → α → Prop) (s : β → β → Prop) (a b : α × β) : Prop :=
  r a.1 b.1 ∧ (r b.1 a.1 → s a.2 b.2)

instance {r : α → α → Prop} {s : β → β → Prop} [DecidableRel r] [DecidableRel s] :
    DecidableRel (lexLe r s) := fun a b =>
  inferInstanceAs (Decidable (r a.1 b.1 ∧ (r b.1 a.1 → s a.2 b.2)))

variable {r : α → α → Prop}

theorem LinearLe.refl (h : LinearLe r) (a : α) : r a a :=
    (h.total a a).elim id id

variable {s : β → β → Prop}

theorem LinearLe.lexLe_iff (h : LinearLe r) {a b : α × β} :
    lexLe r s a b ↔ r a.1 b.1 ∧ (a.1 = b.1 → s a.2 b.2) := by
  constructor
  · rintro ⟨hab, hs⟩
    exact ⟨hab, fun heq => hs (heq ▸ h.refl a.1)⟩
  · rintro ⟨hab, hs⟩
    exact ⟨hab, fun hba => hs (h.antisymm _ _ hab hba)⟩

theorem LinearLe.lex (hr : LinearLe r) (hs : LinearLe s) : LinearLe (lexLe r s) where
  total a b := by
    rw [hr.lexLe_iff, hr.lexLe_iff]
    by_cases heq : a.1 = b.1
    · have hrefl := hr.refl a.1
      rcases hs.total a.2 b.2 with h | h
      · exact .inl ⟨heq ▸ hrefl, fun _ => h⟩
      · exact .inr ⟨heq ▸ hrefl, fun _ => h⟩
    · rcases hr.total a.1 b.1 with h | h
      · exact .inl ⟨h, fun h' => absurd h' heq⟩
      · exact .inr ⟨h, fun h' => absurd h'.symm heq⟩
  trans a b c := by
    rw [hr.lexLe_iff, hr.lexLe_iff, hr.lexLe_iff]
    rintro ⟨hab, h⟩ ⟨hbc, h'⟩
    refine ⟨hr.trans _ _ _ hab hbc, ?_⟩
    intro hac
    have heq : a.1 = b.1 := hr.antisymm _ _ hab (hac ▸ hbc)
    exact hs.trans _ _ _ (h heq) (h' (heq.symm.trans hac))
  antisymm a b := by
    rw [hr.lexLe_iff, hr.lexLe_iff]
    rintro ⟨hab, h⟩ ⟨hba, h'⟩
    have heq : a.1 = b.1 := hr.antisymm _ _ hab hba
    exact Prod.ext heq (hs.antisymm _ _ (h heq) (h' heq.symm))

variable {xs ys : List α}

theorem insertionSort_perm [DecidableRel r] (htotal : ∀ a b, r a b ∨ r b a)
    (htrans : ∀ a b c, r a b → r b c → r a c)
    (hanti : ∀ a b, a ∈ xs → b ∈ xs → r a b → r b a → a = b) (hperm : xs.Perm ys) :
    xs.insertionSort r = ys.insertionSort r := by
  have : Std.Total r := ⟨htotal⟩
  have : IsTrans α r := ⟨htrans⟩
  have hsorted : (xs.insertionSort r).Perm (ys.insertionSort r) :=
    (List.perm_insertionSort r xs).trans (hperm.trans (List.perm_insertionSort r ys).symm)
  have hmem : ∀ a b, a ∈ xs.insertionSort r → b ∈ ys.insertionSort r → r a b → r b a → a = b := by
    intro a b ha hb
    rw [List.mem_insertionSort] at ha hb
    exact hanti a b ha (hperm.mem_iff.mpr hb)
  exact List.Perm.eq_of_pairwise hmem (List.pairwise_insertionSort r xs)
    (List.pairwise_insertionSort r ys) hsorted

theorem LinearLe.sort_perm [DecidableRel r] (h : LinearLe r)
    (hperm : xs.Perm ys) : xs.insertionSort r = ys.insertionSort r :=
  insertionSort_perm h.total h.trans (fun a b _ _ => h.antisymm a b) hperm

theorem LinearLe.sort_map_perm {r : β → β → Prop} [DecidableRel r] (h : LinearLe r) (f : α → β)
    (hnodup : (xs.map f).Nodup) (hperm : xs.Perm ys) :
    xs.insertionSort (fun a b => r (f a) (f b)) = ys.insertionSort fun a b => r (f a) (f b) := by
  refine insertionSort_perm (fun a b => h.total (f a) (f b)) (fun a b c => h.trans (f a) (f b) (f c))
    ?_ hperm
  intro a b ha hb hab hba
  exact List.inj_on_of_nodup_map hnodup ha hb (h.antisymm _ _ hab hba)

theorem filter_insertionSort [DecidableRel r] {p : α → Bool}
    (h : ∀ a b, p a = true → p b = true → r a b) (xs : List α) :
    (xs.insertionSort r).filter p = xs.filter p := by
  have hordered : (xs.filter p).Pairwise r := by
    refine List.pairwise_of_forall_mem_list fun a ha b hb => ?_
    exact h a b (List.mem_filter.mp ha).2 (List.mem_filter.mp hb).2
  have hsub := (List.sublist_insertionSort hordered List.filter_sublist).filter p
  rw [List.filter_filter] at hsub
  simp only [Bool.and_self] at hsub
  exact (hsub.eq_of_length (((List.perm_insertionSort r xs).filter p).length_eq.symm)).symm

theorem find?_insertionSort [DecidableRel r] {p : α → Bool}
    (h : ∀ a b, p a = true → p b = true → r a b) (xs : List α) :
    (xs.insertionSort r).find? p = xs.find? p := by
  rw [← List.head?_filter, ← List.head?_filter, filter_insertionSort h]

end Sorting

end NightWatch.Lib.Grouping
