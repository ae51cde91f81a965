import NightWatch.Lib.JsText

/-!
Texts joined by a separator and split again, and lists read part by part.
-/

namespace NightWatch.Lib.Joined

open Lib.JsText

section Parts

variable {α β : Type} {f : α → Option β} {xs : List α} {ys : List β}

theorem forall₂_of_mapM (h : xs.mapM f = some ys) :
    List.Forall₂ (fun x y => f x = some y) xs ys := by
  induction xs generalizing ys with
  | nil =>
      obtain rfl := Option.some.inj h
      exact List.Forall₂.nil
  | cons x xs ih =>
      rw [List.mapM_cons] at h
      obtain ⟨y, hy, hrest⟩ := Option.bind_eq_some_iff.mp h
      obtain ⟨ys', hys, heq⟩ := Option.bind_eq_some_iff.mp hrest
      obtain rfl := Option.some.inj heq
      exact List.Forall₂.cons hy (ih hys)

theorem exists_of_mem_mapM (h : xs.mapM f = some ys) {y : β}
    (hy : y ∈ ys) : ∃ x ∈ xs, f x = some y := by
  have hall := forall₂_of_mapM h
  obtain ⟨i, hi, rfl⟩ := List.mem_iff_getElem.mp hy
  exact ⟨_, List.getElem_mem (hall.length_eq ▸ hi), hall.get (hall.length_eq ▸ hi) hi⟩

theorem length_of_mapM (h : xs.mapM f = some ys) :
    ys.length = xs.length := (forall₂_of_mapM h).length_eq.symm

theorem mapM_map {γ : Type} {g : γ → α} {k : γ → β} {xs : List γ}
    (h : ∀ x ∈ xs, f (g x) = some (k x)) : (xs.map g).mapM f = some (xs.map k) := by
  induction xs with
  | nil => rfl
  | cons x xs ih =>
      have hrest := ih fun y hy => h y (List.mem_cons_of_mem x hy)
      rw [List.map_cons, List.mapM_cons, h x (by simp), hrest]
      rfl

end Parts

section Separators

variable {c : Char}

@[simp] theorem join_nil : join c [] = [] := rfl

@[simp] theorem join_singleton (part : JsString) : join c [part] = part := by
  simp [join, List.intercalate]

theorem join_cons_cons (part next : JsString) (parts : List JsString) :
    join c (part :: next :: parts) = part ++ c :: join c (next :: parts) := by
  simp [join, List.intercalate, List.intersperse]

variable {parts : List JsString}

theorem mem_join {d : Char} (h : d ∈ join c parts) : d = c ∨ ∃ part ∈ parts, d ∈ part := by
  induction parts with
  | nil => contradiction
  | cons part rest ih =>
      cases rest with
      | nil => exact .inr ⟨part, by simp, by simpa using h⟩
      | cons next rest =>
          rw [join_cons_cons, List.mem_append, List.mem_cons] at h
          rcases h with h | h | h
          · exact .inr ⟨part, by simp, h⟩
          · exact .inl h
          · rcases ih h with h | ⟨other, hother, hd⟩
            · exact .inl h
            · exact .inr ⟨other, List.mem_cons_of_mem part hother, hd⟩

theorem length_join_le {width : Nat} (h : ∀ part ∈ parts, part.length ≤ width) :
    (join c parts).length ≤ (width + 1) * parts.length := by
  induction parts with
  | nil => simp
  | cons part rest ih =>
      have hpart : part.length ≤ width := h part (by simp)
      have hrest := ih fun other hother => h other (List.mem_cons_of_mem part hother)
      cases rest with
      | nil =>
          simp only [join_singleton, List.length_singleton]
          omega
      | cons next rest =>
          rw [join_cons_cons, List.length_append, List.length_cons, List.length_cons, Nat.mul_succ]
          omega

theorem join_ne_nil {part : JsString} (h : part ≠ []) : join c (part :: parts) ≠ [] := by
  cases parts with
  | nil => simpa using h
  | cons next parts => simp [join_cons_cons]

theorem splitOn_join (h : ∀ part ∈ parts, c ∉ part) (hne : parts ≠ []) :
    (join c parts).splitOn c = parts := List.splitOn_intercalate c h hne

variable {parts : List JsString}

theorem getLast?_join (h : ∀ part ∈ parts, part ≠ [] ∧ c ∉ part) :
    (join c parts).getLast? ≠ some c := by
  induction parts with
  | nil => simp
  | cons part rest ih =>
      have hrest := ih fun other hother => h other (List.mem_cons_of_mem part hother)
      obtain ⟨-, hfree⟩ := h part (by simp)
      cases rest with
      | nil =>
          intro hlast
          rw [join_singleton] at hlast
          exact hfree (List.mem_of_getLast? hlast)
      | cons next rest =>
          obtain ⟨hnext, -⟩ := h next (by simp)
          rw [join_cons_cons, List.getLast?_append_of_ne_nil _ (by simp),
            List.getLast?_cons_of_ne_nil (join_ne_nil hnext)]
          exact hrest

theorem splitPair_free {s t : JsString} (h : c ∉ s) (ht : splitPair c t = none) :
    splitPair c (s ++ t) = none := by
  induction s with
  | nil => exact ht
  | cons d s ih =>
      have hd : d ≠ c := fun heq => h (by simp [heq])
      have hrest := ih fun hmem => h (List.mem_cons_of_mem d hmem)
      cases hst : s ++ t with
      | nil =>
          rw [List.cons_append, hst]
          rfl
      | cons e u =>
          rw [hst] at hrest
          simp [hst, splitPair, hd, hrest]

theorem splitPair_nil : splitPair c [] = none := rfl

theorem splitPair_join (h : ∀ part ∈ parts, part ≠ [] ∧ c ∉ part) :
    splitPair c (join c parts) = none := by
  induction parts with
  | nil => rfl
  | cons part rest ih =>
      have hrest := ih fun other hother => h other (List.mem_cons_of_mem part hother)
      obtain ⟨-, hfree⟩ := h part (by simp)
      cases rest with
      | nil =>
          have hsplit := splitPair_free hfree (splitPair_nil (c := c))
          rwa [List.append_nil, ← join_singleton (c := c) part] at hsplit
      | cons next rest =>
          rw [join_cons_cons]
          refine splitPair_free hfree ?_
          obtain ⟨hne, hnext⟩ := h next (by simp)
          obtain ⟨e, next', rfl⟩ := List.exists_cons_of_ne_nil hne
          have he : e ≠ c := fun heq => hnext (by simp [heq])
          obtain ⟨u, hu⟩ : ∃ u, join c ((e :: next') :: rest) = e :: u := by
            cases rest with
            | nil => exact ⟨next', by simp⟩
            | cons other rest => exact ⟨_, join_cons_cons (e :: next') other rest⟩
          rw [hu] at hrest ⊢
          simp [splitPair, he, hrest]

theorem splitPair_append {s t : JsString} (hs : splitPair c s = none)
    (hlast : s.getLast? ≠ some c) : splitPair c (s ++ c :: c :: t) = some (s, t) := by
  induction s with
  | nil => simp [splitPair]
  | cons d s ih =>
      cases s with
      | nil =>
          have hd : d ≠ c := by simpa using hlast
          simp [splitPair, hd]
      | cons e s =>
          have hpair : ¬ (d = c ∧ e = c) := by
            rintro ⟨rfl, rfl⟩
            simp [splitPair] at hs
          have hrest : splitPair c (e :: s) = none := by
            rw [splitPair, if_neg (by simpa using hpair)] at hs
            exact Option.map_eq_none_iff.mp hs
          have hfound := ih hrest (by simpa using hlast)
          rw [List.cons_append] at hfound
          rw [List.cons_append, List.cons_append, splitPair, if_neg (by simpa using hpair), hfound]
          rfl

end Separators

end NightWatch.Lib.Joined
