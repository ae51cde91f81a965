import Mathlib

/-!
Groups read in turn: the first item of every group, then the second of every group that
has one, and so on.
-/

namespace NightWatch.Lib.RoundRobin

variable {α κ : Type}

/-- What one round takes: `group[round]` of every group that has one. -/
def row (groups : List (List α)) (round : Nat) : List α := groups.filterMap (·[round]?)

/-- The first `rounds` rounds. -/
def weave (groups : List (List α)) (rounds : Nat) : List α :=
  (List.range rounds).flatMap (row groups)

variable {groups : List (List α)} {n m : Nat}

theorem weave_succ : weave groups (n + 1) = weave groups n ++ row groups n := by
  simp [weave, List.range_succ]

theorem row_eq_nil : row groups n = [] ↔ ∀ g ∈ groups, g.length ≤ n := by
  simp [row, List.filterMap_eq_nil_iff]

theorem weave_mono (h : n ≤ m) : weave groups n <+: weave groups m := by
  induction m, h using Nat.le_induction with
  | base => exact List.prefix_rfl
  | succ m _ ih =>
      rw [weave_succ]
      exact ih.trans (List.prefix_append _ _)

theorem weave_of_short (hshort : ∀ g ∈ groups, g.length ≤ n) (h : n ≤ m) :
    weave groups m = weave groups n := by
  induction m, h using Nat.le_induction with
  | base => rfl
  | succ m h ih => rw [weave_succ, ih, row_eq_nil.mpr fun g hg => (hshort g hg).trans h, List.append_nil]

theorem map_weave {β : Type} (f : α → β) :
    (weave groups n).map f = weave (groups.map (List.map f)) n := by
  have hrow : ∀ round, (row groups round).map f = row (groups.map (List.map f)) round := by
    intro round
    simp [row, List.map_filterMap, List.filterMap_map]
  simp [weave, List.map_flatMap, hrow]

/-- A beginning of the weave ends within a round. -/
theorem take_between (k : Nat) : ∃ r, weave groups r <+: (weave groups n).take k ∧
    (weave groups n).take k <+: weave groups (r + 1) := by
  induction n with
  | zero => exact ⟨0, by simp [weave], by simp [weave]⟩
  | succ n ih =>
      by_cases hk : k ≤ (weave groups n).length
      · rw [weave_succ, List.take_append_of_le_length hk]
        exact ih
      · refine ⟨n, ?_, List.take_prefix _ _⟩
        rw [weave_succ, List.take_append, List.take_of_length_le (by omega)]
        exact List.prefix_append _ _

section Keyed

variable {key : α → κ} {keyed : List (κ × List α)}

/-- Every group stands under the key of its items, no two under one key. -/
structure Keyed (key : α → κ) (keyed : List (κ × List α)) : Prop where
  nodup : (keyed.map Prod.fst).Nodup
  key_eq : ∀ g ∈ keyed, ∀ x ∈ g.2, key x = g.1

theorem Keyed.of_cons {g : κ × List α} (h : Keyed key (g :: keyed)) : Keyed key keyed where
  nodup := (List.nodup_cons.mp h.nodup).2
  key_eq g' hg' := h.key_eq g' (.tail _ hg')

variable [DecidableEq κ] [BEq κ] [LawfulBEq κ]

theorem filter_row (h : Keyed key keyed) (k : κ) :
    (row (keyed.map Prod.snd) n).filter (fun x => key x = k) =
      (((keyed.lookup k).getD [])[n]?).toList := by
  induction keyed with
  | nil => rfl
  | cons g rest ih =>
      obtain ⟨k', items⟩ := g
      have hrow : row (((k', items) :: rest).map Prod.snd) n =
          items[n]?.toList ++ row (rest.map Prod.snd) n := by
        rw [row, List.map_cons, List.filterMap_cons]
        cases items[n]? <;> rfl
      have hkeys : ∀ x ∈ items[n]?.toList, key x = k' := fun x hx =>
        h.key_eq _ List.mem_cons_self x (List.mem_of_getElem? (Option.mem_toList.mp hx))
      rw [hrow, List.filter_append, ih h.of_cons, List.lookup_cons]
      by_cases hk : k = k'
      · have hnot : rest.lookup k = none := by
          refine List.lookup_eq_none_iff.mpr fun g hg => ?_
          have hne : k ≠ g.1 := fun heq =>
            (List.nodup_cons.mp h.nodup).1 (List.mem_map.mpr ⟨g, hg, by rw [← heq, hk]⟩)
          simpa using hne
        rw [hnot, List.filter_eq_self.mpr fun x hx => by rw [hkeys x hx, hk]; exact decide_eq_true rfl]
        simp [hk]
      · rw [beq_eq_false_iff_ne.mpr hk, List.filter_eq_nil_iff.mpr]
        · rfl
        · intro x hx
          rw [hkeys x hx]
          simpa using Ne.symm hk

theorem filter_weave (h : Keyed key keyed) (k : κ) :
    (weave (keyed.map Prod.snd) n).filter (fun x => key x = k) =
      ((keyed.lookup k).getD []).take n := by
  induction n with
  | zero => rfl
  | succ n ih => rw [weave_succ, List.filter_append, ih, filter_row h, List.take_add_one]

omit [BEq κ] [LawfulBEq κ] in
/-- Lists that agree key by key agree up to order. -/
theorem perm_of_filter {xs ys : List α}
    (h : ∀ k, (xs.filter fun x => key x = k).Perm (ys.filter fun x => key x = k)) : xs.Perm ys := by
  have : DecidableEq α := Classical.decEq α
  refine List.perm_iff_count.mpr fun x => ?_
  have hcount : ∀ zs : List α, (zs.filter fun y => key y = key x).count x = zs.count x :=
    fun zs => List.count_filter (by simp)
  rw [← hcount xs, ← hcount ys]
  exact (h (key x)).count_eq x

/-- A beginning of the weave takes of two groups equally much, unless one of them is spent. -/
theorem balanced (h : Keyed key keyed) (k i j : Nat) {a b : κ}
    (hi : (((weave (keyed.map Prod.snd) n).take k).filter fun x => key x = a).length = i)
    (hj : (((weave (keyed.map Prod.snd) n).take k).filter fun x => key x = b).length = j) :
    i ≤ j + 1 ∨ j = ((keyed.lookup b).getD []).length := by
  obtain ⟨r, hlow, hhigh⟩ := @take_between _ (keyed.map Prod.snd) n k
  have hupper := (hhigh.filter fun x => key x = a).length_le
  have hlower := (hlow.filter fun x => key x = b).length_le
  have hwhole := (hhigh.filter fun x => key x = b).length_le
  rw [filter_weave h, List.length_take] at hupper hlower hwhole
  omega

omit [DecidableEq κ] [BEq κ] [LawfulBEq κ] in
/-- A group is read again only after every group has been read. -/
theorem fresh_first (h : Keyed key keyed) (hne : ∀ g ∈ keyed, g.2 ≠ [])
    {before between after : List α} {x y : α}
    (heq : weave (keyed.map Prod.snd) n = before ++ x :: between ++ y :: after)
    (hx : key x ∈ before.map key) : key y ∈ (before ++ x :: between).map key := by
  have hfirst : (row (keyed.map Prod.snd) 0).map key = keyed.map Prod.fst := by
    clear heq
    induction keyed with
    | nil => rfl
    | cons g rest ih =>
        obtain ⟨z, zs, hz⟩ := List.exists_cons_of_ne_nil (hne g List.mem_cons_self)
        have hkey := h.key_eq g List.mem_cons_self z (hz ▸ List.mem_cons_self)
        have hrest := ih h.of_cons fun g' hg' => hne g' (.tail _ hg')
        rw [row] at hrest ⊢
        simpa [hz, hkey] using hrest
  obtain ⟨m, rfl⟩ : ∃ m, n = m + 1 := by
    rcases n with _ | m
    · simp [weave] at heq
    · exact ⟨m, rfl⟩
  have hrow : row (keyed.map Prod.snd) 0 <+: before ++ x :: between ++ y :: after := by
    rw [← heq]
    have := @weave_mono _ (keyed.map Prod.snd) _ _ (Nat.succ_le_succ (Nat.zero_le m))
    rwa [weave_succ, weave, List.range_zero, List.flatMap_nil, List.nil_append] at this
  have hy : key y ∈ (row (keyed.map Prod.snd) 0).map key := by
    have hmem : y ∈ weave (keyed.map Prod.snd) (m + 1) := by rw [heq]; simp
    obtain ⟨round, -, hround⟩ := List.mem_flatMap.mp hmem
    obtain ⟨items, hitems, hget⟩ := List.mem_filterMap.mp hround
    obtain ⟨g, hg, rfl⟩ := List.mem_map.mp hitems
    rw [hfirst, h.key_eq g hg y (List.mem_of_getElem? hget)]
    exact List.mem_map_of_mem hg
  rcases List.prefix_or_prefix_of_prefix hrow (List.prefix_append _ _) with hle | hle
  · exact (hle.map key).subset hy
  · -- the round takes each key once, and the item would be the second of its key
    have hnodup := ((hle.map key).sublist).nodup (by rw [hfirst]; exact h.nodup)
    rw [List.map_append, List.map_cons] at hnodup
    exact absurd rfl ((List.nodup_append.mp hnodup).2.2 _ hx _ List.mem_cons_self)

end Keyed

end NightWatch.Lib.RoundRobin
