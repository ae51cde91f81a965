import NightWatch.Triage.ReplayPlan

namespace NightWatch.Triage.ReplayScreens

open Lib.JsText ReplayPlan

/-- Every alternative of the screen holds one of these characters. -/
def Marked (c : Char) : Prop := c.toLower ∈ ['n', 'j', 'k', '-'] ∨ isSpace c = true

instance (c : Char) : Decidable (Marked c) := inferInstanceAs (Decidable (_ ∨ _))

variable {s : JsString}

theorem marked_of_startsWithWord {word : String} {d : Char}
    (h : startsWithWord s word = true) (hd : d ∈ word.toList.map Char.toLower)
    (hmark : d ∈ ['n', 'j', 'k', '-']) : ∃ c ∈ s, Marked c := by
  have hstart : word.toList.map Char.toLower <+: s.map Char.toLower := by
    simpa [startsWithWord] using h
  obtain ⟨c, hc, hlower⟩ := List.mem_map.mp (hstart.subset hd)
  exact ⟨c, hc, .inl (hlower ▸ hmark)⟩

theorem exists_n_of_sentinelWords : ∀ word ∈ sentinelWords, 'n' ∈ word.toList.map Char.toLower := by
  decide

theorem marked_of_sentinelAt (h : sentinelAt s = true) : ∃ c ∈ s, Marked c := by
  simp only [sentinelAt, Bool.or_eq_true, Bool.and_eq_true, List.any_eq_true] at h
  rcases h with (((⟨word, hword, h⟩ | ⟨-, h⟩) | ⟨⟨h, -⟩, -⟩) | ⟨h, -⟩) | ⟨⟨h, -⟩, -⟩
  · exact marked_of_startsWithWord h (exists_n_of_sentinelWords word hword) (by decide)
  · cases hhead : (s.drop 6).head? with
    | none => simp [hhead] at h
    | some c =>
        exact ⟨c, List.mem_of_mem_drop (List.mem_of_head? hhead), .inr (by simpa [hhead] using h)⟩
  · exact marked_of_startsWithWord (d := 'j') h (by decide) (by decide)
  · exact marked_of_startsWithWord (d := 'k') h (by decide) (by decide)
  · exact marked_of_startsWithWord (d := '-') h (by decide) (by decide)

theorem marked_of_hasSentinel (h : hasSentinel s = true) : ∃ c ∈ s, Marked c := by
  obtain ⟨t, ht, hat⟩ := List.any_eq_true.mp h
  obtain ⟨c, hc, hmark⟩ := marked_of_sentinelAt hat
  exact ⟨c, (List.mem_tails t s).mp ht |>.subset hc, hmark⟩

theorem not_hasSentinel (h : ∀ c ∈ s, ¬ Marked c) : hasSentinel s = false := by
  cases hs : hasSentinel s with
  | false => rfl
  | true =>
      obtain ⟨c, hc, hmark⟩ := marked_of_hasSentinel hs
      exact absurd hmark (h c hc)

def hexDigits : List Char := "0123456789abcdef".toList

variable {c : Char} {tag : String} {digits : Nat}

theorem mem_hexDigits (h : isLowerHexDigit c = true) : c ∈ hexDigits := by
  have hrange : (48 ≤ c.toNat ∧ c.toNat ≤ 57) ∨ (97 ≤ c.toNat ∧ c.toNat ≤ 102) := by
    simp only [isLowerHexDigit, Char.isDigit, Bool.or_eq_true, Bool.and_eq_true,
      decide_eq_true_eq, Char.le_def, UInt32.le_iff_toNat_le, ge_iff_le] at h
    exact h
  have hchar : c = Char.ofNat c.toNat := (Char.ofNat_toNat c).symm
  rw [hchar]
  generalize c.toNat = n at hrange
  rcases hrange with ⟨hlow, hhigh⟩ | ⟨hlow, hhigh⟩ <;> interval_cases n <;> decide

theorem mem_of_isTagged
    (h : isTagged tag digits s = true) (hc : c ∈ s) : c ∈ tag.toList ∨ c ∈ hexDigits := by
  simp only [isTagged, Bool.and_eq_true, startsWith_iff, List.all_eq_true] at h
  obtain ⟨⟨hstart, -⟩, hhex⟩ := h
  obtain ⟨rest, rfl⟩ := hstart
  rcases List.mem_append.mp hc with hc | hc
  · exact .inl hc
  · exact .inr (mem_hexDigits (hhex c (by simpa using hc)))

theorem not_hasSentinel_of_isTagged
    (htag : ∀ c ∈ tag.toList, ¬ Marked c) (h : isTagged tag digits s = true) :
    hasSentinel s = false := by
  have hhex : ∀ c ∈ hexDigits, ¬ Marked c := by decide
  refine not_hasSentinel fun c hc => ?_
  rcases mem_of_isTagged h hc with hc | hc
  · exact htag c hc
  · exact hhex c hc

section Crossing

variable {u rest : JsString} {c x : Char} {word : String} {p : Char → Bool}

theorem prefix_of_prefix_append {w : JsString} (h : w <+: u ++ x :: rest)
    (hx : x ∉ w) : w <+: u := by
  rcases Nat.lt_or_ge u.length w.length with hlt | hle
  · have hmore : u ++ [x] <+: w := List.prefix_of_prefix_length_le (by simp) h (by simpa using hlt)
    exact absurd (hmore.subset (by simp)) hx
  · exact List.prefix_of_prefix_length_le h (List.prefix_append _ _) hle

theorem startsWithWord_of_append (h : startsWithWord (u ++ '#' :: rest) word = true)
    (hword : '#' ∉ word.toList.map Char.toLower) : startsWithWord u word = true := by
  simp only [startsWithWord, startsWith_iff, List.map_append, List.map_cons] at h ⊢
  exact prefix_of_prefix_append h hword

theorem length_le_of_startsWithWord (h : startsWithWord u word = true) :
    word.toList.length ≤ u.length := by
  simp only [startsWithWord, startsWith_iff] at h
  simpa using h.length_le

theorem takeWhile_append_cons (hx : p x = false) (v : JsString) :
    (v ++ x :: rest).takeWhile p = v.takeWhile p := by
  induction v with
  | nil => simp [hx]
  | cons c v ih => simp only [List.cons_append, List.takeWhile_cons, ih]

theorem dropWhile_append_cons (hx : p x = false) (v : JsString) :
    (v ++ x :: rest).dropWhile p = v.dropWhile p ++ x :: rest := by
  induction v with
  | nil => simp [hx]
  | cons c v ih =>
      simp only [List.cons_append, List.dropWhile_cons, ih]
      split <;> rfl

theorem head?_of_append_cons {v : JsString} (h : (v ++ x :: rest).head? = some c)
    (hx : c ≠ x) : v.head? = some c := by
  cases v with
  | nil =>
      obtain rfl : x = c := by simpa using h
      exact absurd rfl hx
  | cons d v => simpa using h

theorem sentinelAt_of_append (h : sentinelAt (u ++ '#' :: rest) = true) : sentinelAt u = true := by
  have hwords : ∀ word ∈ sentinelWords, '#' ∉ word.toList.map Char.toLower := by decide
  simp only [sentinelAt, Bool.or_eq_true, Bool.and_eq_true, List.any_eq_true,
    decide_eq_true_eq] at h ⊢
  rcases h with (((⟨word, hword, h⟩ | ⟨h, hspace⟩) | ⟨⟨h, htoken⟩, hdot⟩) | ⟨h, hkey⟩) |
    ⟨⟨h, hlabel⟩, hdashes⟩
  · exact .inl (.inl (.inl (.inl ⟨word, hword, startsWithWord_of_append h (hwords word hword)⟩)))
  · have hu := startsWithWord_of_append h (by decide)
    have hlength : 6 ≤ u.length := length_le_of_startsWithWord hu
    rw [List.drop_append_of_le_length hlength] at hspace
    refine .inl (.inl (.inl (.inr ⟨hu, ?_⟩)))
    cases hhead : (u.drop 6 ++ '#' :: rest).head? with
    | none => simp [hhead] at hspace
    | some c =>
        have hc : isSpace c = true := by simpa [hhead] using hspace
        have hne : c ≠ '#' := by
          rintro rfl
          revert hc
          decide
        rw [head?_of_append_cons hhead hne]
        simpa using hc
  · have hu := startsWithWord_of_append h (by decide)
    have hlength : 3 ≤ u.length := length_le_of_startsWithWord hu
    rw [List.drop_append_of_le_length hlength] at htoken hdot
    rw [takeWhile_append_cons (by decide)] at htoken
    rw [dropWhile_append_cons (by decide)] at hdot
    exact .inl (.inl (.inr ⟨⟨hu, htoken⟩, head?_of_append_cons hdot (by decide)⟩))
  · have hu := startsWithWord_of_append h (by decide)
    have hlength : 4 ≤ u.length := length_le_of_startsWithWord hu
    rw [List.drop_append_of_le_length hlength, takeWhile_append_cons (by decide)] at hkey
    exact .inl (.inr ⟨hu, hkey⟩)
  · have hu := startsWithWord_of_append h (by decide)
    have hlength : 11 ≤ u.length := length_le_of_startsWithWord hu
    rw [List.drop_append_of_le_length hlength] at hlabel hdashes
    rw [takeWhile_append_cons (by decide)] at hlabel
    rw [dropWhile_append_cons (by decide), startsWith_iff] at hdashes
    refine .inr ⟨⟨hu, hlabel⟩, ?_⟩
    rw [startsWith_iff]
    exact prefix_of_prefix_append hdashes (by decide)

theorem not_marked_of_isDigit (h : c.isDigit = true) : ¬ Marked c := by
  have hhex : ∀ c ∈ hexDigits, ¬ Marked c := by decide
  exact hhex c (mem_hexDigits (by simp [isLowerHexDigit, h]))

theorem hasSentinel_of_tokenText {id : JsString} {ordinal : ℤ}
    (h : hasSentinel (tokenText id ordinal) = true) : hasSentinel id = true := by
  obtain ⟨t, ht, hat⟩ := List.any_eq_true.mp h
  obtain ⟨before, hbefore⟩ := (List.mem_tails t _).mp ht
  have hsplit : before ++ t = id ++ '#' :: ("occ:".toList ++ decimal ordinal.toNat) := by
    rw [hbefore]
    simp [tokenText]
  have hplain : ∀ c ∈ '#' :: ("occ:".toList ++ decimal ordinal.toNat), ¬ Marked c := by
    have hwords : ∀ c ∈ '#' :: "occ:".toList, ¬ Marked c := by decide
    intro c hc
    rcases List.mem_append.mp (by simpa using hc : c ∈ ('#' :: "occ:".toList) ++
      decimal ordinal.toNat) with hc | hc
    · exact hwords c hc
    · exact not_marked_of_isDigit (isDigit_of_mem_decimal hc)
  rcases List.append_eq_append_iff.mp hsplit with ⟨u, rfl, rfl⟩ | ⟨u, rfl, hrest⟩
  · refine List.any_eq_true.mpr ⟨u, (List.mem_tails u _).mpr (List.suffix_append _ _), ?_⟩
    exact sentinelAt_of_append hat
  · obtain ⟨c, hc, hmark⟩ := marked_of_sentinelAt hat
    exact absurd hmark (hplain c (by rw [hrest]; exact List.mem_append_right _ hc))

end Crossing

end NightWatch.Triage.ReplayScreens
