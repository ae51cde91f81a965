import NightWatch.AgentRuntime.Resumption

namespace NightWatch.AgentRuntime.ResumeCursors

open Lib.JsText Lib.JsData Lib.NumberText AgentRuntime.Checkpoint AgentRuntime.Resumption

/-- The text behind the last marker of a cursor that is the campaign's own and short enough to be
read. -/
def CounterOf (cursor campaignId text : JsString) : Prop :=
  campaignId ≠ [] ∧ utf16Length cursor ≤ 512 ∧ splitMarker cursor = some (campaignId, text)

/-- Another text than its decimal numeral that spells a number of turns. -/
def OtherSpelling (text : JsString) : Prop :=
  ∃ turns ≤ 1000000, numberOf text = .ofNat turns ∧ text ≠ decimal turns

variable {cursor campaignId text : JsString} {turns : Nat}

theorem splitMarker_eq_some {before after : JsString}
    (h : splitMarker cursor = some (before, after)) : cursor = before ++ turnMarker ++ after := by
  induction cursor generalizing before with
  | nil => contradiction
  | cons c rest ih =>
      rw [splitMarker] at h
      split at h
      · rename_i before' after' hrest
        obtain ⟨rfl, rfl⟩ := Prod.mk.inj (Option.some.inj h)
        rw [ih hrest]
        rfl
      · split at h
        · rename_i hstart
          obtain ⟨rfl, rfl⟩ := Prod.mk.inj (Option.some.inj h)
          obtain ⟨tail, htail⟩ := startsWith_iff.mp hstart
          rw [← htail, List.drop_left]
          rfl
        · contradiction

theorem turnCount_eq_some : turnCount text = some turns ↔ numberOf text = .ofNat turns := by
  constructor
  · intro h
    unfold turnCount at h
    split at h
    · rename_i q hq
      split at h
      · rename_i hwhole
        obtain ⟨hden, hnonneg⟩ := hwhole
        have hnum : ((q.num.toNat : ℕ) : ℚ) = q := by
          have hcast : ((q.num.toNat : ℕ) : ℤ) = q.num :=
            Int.toNat_of_nonneg (Rat.num_nonneg.mpr hnonneg)
          rw [← Int.cast_natCast, hcast]
          exact Rat.den_eq_one_iff q |>.mp hden
        rw [hq, ← Option.some.inj h, JsNumber.ofNat, hnum]
      · contradiction
    · contradiction
  · exact turnCount_ofNat

theorem parseResumeCursor_eq_ok_iff : parseResumeCursor (.str cursor) campaignId = .ok turns ↔
      ∃ text, CounterOf cursor campaignId text ∧ numberOf text = .ofNat turns ∧
        turns ≤ 1000000 := by
  unfold parseResumeCursor CounterOf
  dsimp only
  constructor
  · intro h
    split at h
    · contradiction
    · rename_i hlength
      simp only [Bool.or_eq_true, decide_eq_true_eq, not_or, not_lt] at hlength
      split at h
      · contradiction
      · rename_i owner text hsplit
        split at h
        · contradiction
        · rename_i hne
          split at h
          · contradiction
          · rename_i howner
            obtain rfl := not_not.mp howner
            split at h
            · rename_i count hcount
              split at h
              · rename_i hfew
                obtain rfl := Except.ok.inj h
                have hid : owner ≠ [] := by simpa using hne
                exact ⟨text, ⟨hid, hlength.2, hsplit⟩, turnCount_eq_some.mp hcount, hfew⟩
              · contradiction
            · contradiction
  · rintro ⟨text, ⟨hid, hlength, hsplit⟩, hnumber, hfew⟩
    have hcursor : cursor.isEmpty = false := by
      cases cursor with
      | nil => contradiction
      | cons c rest => rfl
    have hids : campaignId.isEmpty = false := by simpa using hid
    rw [hsplit, hcursor]
    dsimp only
    rw [if_neg (by simpa using hlength), hids, if_neg Bool.false_ne_true,
      if_neg (not_not.mpr rfl), turnCount_eq_some.mpr hnumber]
    exact if_pos hfew

theorem eq_resumeCursorFor_iff : (∀ turns, parseResumeCursor (.str cursor) campaignId = .ok turns →
      cursor = resumeCursorFor campaignId turns) ↔
    ¬ ∃ text, CounterOf cursor campaignId text ∧ OtherSpelling text := by
  constructor
  · rintro h ⟨text, hcounter, turns, hfew, hnumber, hother⟩
    have hcursor := h turns (parseResumeCursor_eq_ok_iff.mpr ⟨text, hcounter, hnumber, hfew⟩)
    obtain ⟨-, -, hsplit⟩ := hcounter
    rw [hcursor, resumeCursorFor,
      splitMarker_cursor fun c hc => isDigit_of_mem_decimal hc] at hsplit
    exact hother (Prod.mk.inj (Option.some.inj hsplit)).2.symm
  · intro h turns hok
    obtain ⟨text, hcounter, hnumber, hfew⟩ := parseResumeCursor_eq_ok_iff.mp hok
    have htext : text = decimal turns := by
      by_contra hother
      exact h ⟨text, hcounter, turns, hfew, hnumber, hother⟩
    rw [splitMarker_eq_some hcounter.2.2, htext]
    rfl

/-- For a campaign, a number of turns with a short enough cursor, and a cursor: the written
cursor is read back and the cursor is the one written for what it is read as, if and only if
the cursor's counter is no other spelling of a number of turns. -/
theorem cursors_are_exact_iff (campaignId cursor : JsString) (turns : Nat)
    (hid : campaignId ≠ []) (hfew : turns ≤ 1000000)
    (hlength : utf16Length (resumeCursorFor campaignId turns) ≤ 512) :
    (parseResumeCursor (.str (resumeCursorFor campaignId turns)) campaignId = .ok turns ∧
      ∀ read, parseResumeCursor (.str cursor) campaignId = .ok read →
        cursor = resumeCursorFor campaignId read) ↔
    ¬ ∃ text, CounterOf cursor campaignId text ∧ OtherSpelling text := by
  have hround := (parseResumeCursor_eq_ok hid hfew).mpr ⟨hlength, rfl⟩
  rw [← eq_resumeCursorFor_iff]
  constructor
  · rintro ⟨-, h⟩
    exact h
  · intro h
    exact ⟨hround, h⟩

theorem cursors_are_exact_iff_inner_marker :
    (parseResumeCursor (.str (resumeCursorFor "c:turn:8".toList 12)) "c:turn:8".toList = .ok 12 ∧
      ∀ read, parseResumeCursor (.str "c:turn:8:turn:x".toList) "c:turn:8".toList = .ok read →
        "c:turn:8:turn:x".toList = resumeCursorFor "c:turn:8".toList read) ↔
    ¬ ∃ text, CounterOf "c:turn:8:turn:x".toList "c:turn:8".toList text ∧ OtherSpelling text :=
  cursors_are_exact_iff _ _ _ (by decide) (by decide) (by decide)

/-- A cursor without any counter resumes its campaign at the first turn. -/
theorem missing_counter_resumes :
    parseResumeCursor (.str "camp:turn:".toList) "camp".toList = .ok 0 ∧
      "camp:turn:".toList ≠ resumeCursorFor "camp".toList 0 := by
  decide +kernel

end NightWatch.AgentRuntime.ResumeCursors
