import NightWatch.AgentRuntime.SpendAdmission

namespace NightWatch.AgentRuntime.ResumedCeilings

open Lib.JsText AgentRuntime.SpendAdmission

/-- What a resume or a checkpoint declares: nothing, a value that is no ceiling, or a record
with the fields of one. -/
inductive Declaration where
  | absent
  | malformed
  | ceiling (ceiling : SpendCeiling)

inductive ResumeRefusal where
  | persistedAbsent
  | suppliedAbsent
  | suppliedMalformed
  | identityMismatch
  | widened
  deriving DecidableEq

def ResumeRefusal.code : ResumeRefusal → JsString
  | persistedAbsent => "SPEND_CEILING_RESUME_ABSENT".toList
  | suppliedAbsent => "SPEND_CEILING_RESUME_ABSENT".toList
  | suppliedMalformed => "SPEND_CEILING_UNAUTHORISED".toList
  | identityMismatch => "SPEND_CEILING_RESUME_MISMATCH".toList
  | widened => "SPEND_CEILING_RESUME_WIDENED".toList

def ResumeRefusal.detail : ResumeRefusal → JsString
  | persistedAbsent => "the checkpoint carries no valid monetary ceiling; a metered resume is refused rather than assumed unlimited".toList
  | suppliedAbsent => "a metered resume must re-supply the declared monetary ceiling".toList
  | suppliedMalformed => "the resume declaration is malformed".toList
  | identityMismatch => "the resume declaration names a different provider/model than the persisted ceiling".toList
  | widened => "the resume declaration widens the persisted ceiling; a pause never resets or loosens the authorized limits".toList

def widens (before after : SpendCeiling) : Bool :=
  before.maxSpendUsd < after.maxSpendUsd ||
    after.rateCard.inputUsdPerMillionTokens < before.rateCard.inputUsdPerMillionTokens ||
    after.rateCard.outputUsdPerMillionTokens < before.rateCard.outputUsdPerMillionTokens ||
    before.maxOutputTokensPerCall < after.maxOutputTokensPerCall ||
    after.worstCaseTokensPerByte < before.worstCaseTokensPerByte ||
    before.maxBytesPerToken < after.maxBytesPerToken

def admitResumedSpendCeiling (persisted supplied : Declaration) : Except ResumeRefusal Unit :=
  match persisted with
  | .ceiling before =>
      if !validateSpendCeiling before then .error .persistedAbsent
      else
        match supplied with
        | .absent => .error .suppliedAbsent
        | .malformed => .error .suppliedMalformed
        | .ceiling after =>
            if !validateSpendCeiling after then .error .suppliedMalformed
            else if after.provider ≠ before.provider || after.model ≠ before.model then
              .error .identityMismatch
            else if widens before after then .error .widened
            else .ok ()
  | _ => .error .persistedAbsent

/-- `admitProviderCall(...).ok` for whatever finite byte counts the code is given. -/
def admitsCall (ceiling : SpendCeiling)
    (requestBytes committedInputBytes committedOutputBytes : ℚ) : Bool :=
  validateSpendCeiling ceiling &&
    (0 ≤ requestBytes && 0 ≤ committedInputBytes && 0 ≤ committedOutputBytes) &&
    tokenCostUsd (max 0 committedInputBytes * ceiling.worstCaseTokensPerByte)
        ceiling.rateCard.inputUsdPerMillionTokens +
      tokenCostUsd (max 0 committedOutputBytes * ceiling.worstCaseTokensPerByte)
        ceiling.rateCard.outputUsdPerMillionTokens +
      (tokenCostUsd (max 0 requestBytes * ceiling.worstCaseTokensPerByte)
          ceiling.rateCard.inputUsdPerMillionTokens +
        tokenCostUsd ceiling.maxOutputTokensPerCall ceiling.rateCard.outputUsdPerMillionTokens) ≤
      ceiling.maxSpendUsd

section Rooms

variable (ceiling : SpendCeiling)

def room : ℚ :=
  ceiling.maxSpendUsd -
    tokenCostUsd ceiling.maxOutputTokensPerCall ceiling.rateCard.outputUsdPerMillionTokens

def inputByteUsd : ℚ :=
  tokenCostUsd ceiling.worstCaseTokensPerByte ceiling.rateCard.inputUsdPerMillionTokens

def outputByteUsd : ℚ :=
  tokenCostUsd ceiling.worstCaseTokensPerByte ceiling.rateCard.outputUsdPerMillionTokens

variable {ceiling}

variable {requestBytes outputBytes inputBytes : ℚ}

theorem admitsCall_iff : admitsCall ceiling requestBytes inputBytes outputBytes = true ↔
      validateSpendCeiling ceiling = true ∧ (0 ≤ requestBytes ∧ 0 ≤ inputBytes ∧ 0 ≤ outputBytes) ∧
      (requestBytes + inputBytes) * inputByteUsd ceiling + outputBytes * outputByteUsd ceiling ≤
        room ceiling := by
  simp only [admitsCall, Bool.and_eq_true, decide_eq_true_eq, and_assoc]
  refine and_congr_right fun hvalid => and_congr_right fun hr => and_congr_right fun hi =>
    and_congr_right fun ho => ?_
  rw [max_eq_right hr, max_eq_right hi, max_eq_right ho, room, inputByteUsd, outputByteUsd]
  simp only [tokenCostUsd]
  constructor
  · intro h
    linarith
  · intro h
    linarith

/-- The persisted ceiling leaves at least as many bytes of input and output as the supplied one,
where that one leaves any. -/
def LeavesNoMore (before after : SpendCeiling) : Prop :=
  room after < 0 ∨
    0 ≤ room before ∧ room after * inputByteUsd before ≤ room before * inputByteUsd after ∧
      room after * outputByteUsd before ≤ room before * outputByteUsd after

instance (before after : SpendCeiling) : Decidable (LeavesNoMore before after) :=
  inferInstanceAs (Decidable (_ ∨ _))

theorem byteUsd_nonneg (h : validateSpendCeiling ceiling = true) :
    0 ≤ inputByteUsd ceiling ∧ 0 ≤ outputByteUsd ceiling := by
  simp only [validateSpendCeiling, Bool.and_eq_true, decide_eq_true_eq] at h
  obtain ⟨⟨⟨⟨⟨⟨⟨-, hinput⟩, houtput⟩, -⟩, -⟩, htokens⟩, -⟩, -⟩ := h
  constructor
  · exact mul_nonneg (div_nonneg htokens.le (by norm_num)) hinput
  · exact mul_nonneg (div_nonneg htokens.le (by norm_num)) houtput

variable {before after : SpendCeiling}

theorem accepted_of_admitResumed
    (h : admitResumedSpendCeiling (.ceiling before) (.ceiling after) = .ok ()) :
    validateSpendCeiling before = true ∧ validateSpendCeiling after = true ∧
      widens before after = false := by
  unfold admitResumedSpendCeiling at h
  dsimp only at h
  split at h
  · contradiction
  · rename_i hbefore
    split at h
    · contradiction
    · rename_i hafter
      split at h
      · contradiction
      · split at h
        · contradiction
        · rename_i hwidened
          exact ⟨by simpa using hbefore, by simpa using hafter, by simpa using hwidened⟩

theorem byteUsd_mono (h : admitResumedSpendCeiling (.ceiling before) (.ceiling after) = .ok ()) :
    inputByteUsd before ≤ inputByteUsd after ∧ outputByteUsd before ≤ outputByteUsd after := by
  obtain ⟨hbefore, -, hwidens⟩ := accepted_of_admitResumed h
  simp only [validateSpendCeiling, Bool.and_eq_true, decide_eq_true_eq] at hbefore
  obtain ⟨⟨⟨⟨⟨⟨⟨-, hinput⟩, houtput⟩, -⟩, -⟩, htokens⟩, -⟩, -⟩ := hbefore
  simp only [widens, Bool.or_eq_false_iff, decide_eq_false_iff_not, not_lt] at hwidens
  obtain ⟨⟨⟨⟨⟨-, hin⟩, hout⟩, -⟩, htok⟩, -⟩ := hwidens
  have hscaled : before.worstCaseTokensPerByte / 1000000 ≤ after.worstCaseTokensPerByte / 1000000 :=
    div_le_div_of_nonneg_right htok (by norm_num)
  have hpos : 0 ≤ after.worstCaseTokensPerByte / 1000000 :=
    div_nonneg (htokens.le.trans htok) (by norm_num)
  constructor
  · exact mul_le_mul hscaled hin hinput hpos
  · exact mul_le_mul hscaled hout houtput hpos

theorem admits_of_leavesNoMore
    (hresumed : admitResumedSpendCeiling (.ceiling before) (.ceiling after) = .ok ())
    (h : LeavesNoMore before after)
    (hcall : admitsCall after requestBytes inputBytes outputBytes = true) :
    admitsCall before requestBytes inputBytes outputBytes = true := by
  obtain ⟨hbefore, hafter, -⟩ := accepted_of_admitResumed hresumed
  obtain ⟨hin, hout⟩ := byteUsd_mono hresumed
  obtain ⟨hinpos, houtpos⟩ := byteUsd_nonneg hafter
  rw [admitsCall_iff] at hcall ⊢
  obtain ⟨-, hbytes, hcost⟩ := hcall
  refine ⟨hbefore, hbytes, ?_⟩
  obtain ⟨hr, hi, ho⟩ := hbytes
  have hsum : 0 ≤ requestBytes + inputBytes := add_nonneg hr hi
  have hcostpos : 0 ≤ (requestBytes + inputBytes) * inputByteUsd after +
      outputBytes * outputByteUsd after :=
    add_nonneg (mul_nonneg hsum hinpos) (mul_nonneg ho houtpos)
  have hcheaper : (requestBytes + inputBytes) * inputByteUsd before +
      outputBytes * outputByteUsd before ≤ (requestBytes + inputBytes) * inputByteUsd after +
        outputBytes * outputByteUsd after :=
    add_le_add (mul_le_mul_of_nonneg_left hin hsum) (mul_le_mul_of_nonneg_left hout ho)
  rcases h with hnone | ⟨hroom, hinput, houtput⟩
  · linarith
  · rcases (hcostpos.trans hcost).eq_or_lt with hzero | hpos
    · linarith
    · refine le_of_mul_le_mul_left ?_ hpos
      calc room after * ((requestBytes + inputBytes) * inputByteUsd before +
            outputBytes * outputByteUsd before)
          = (requestBytes + inputBytes) * (room after * inputByteUsd before) +
            outputBytes * (room after * outputByteUsd before) := by ring
        _ ≤ (requestBytes + inputBytes) * (room before * inputByteUsd after) +
            outputBytes * (room before * outputByteUsd after) :=
          add_le_add (mul_le_mul_of_nonneg_left hinput hsum) (mul_le_mul_of_nonneg_left houtput ho)
        _ = room before * ((requestBytes + inputBytes) * inputByteUsd after +
            outputBytes * outputByteUsd after) := by ring
        _ ≤ room before * room after := mul_le_mul_of_nonneg_left hcost hroom
        _ = room after * room before := mul_comm _ _

theorem scaled_le {roomBefore roomAfter priceBefore priceAfter : ℚ} (hroom : 0 ≤ roomAfter)
    (hbefore : 0 ≤ priceBefore) (hmono : priceBefore ≤ priceAfter)
    (h : ∀ bytes, 0 ≤ bytes → bytes * priceAfter ≤ roomAfter → bytes * priceBefore ≤ roomBefore) :
    roomAfter * priceBefore ≤ roomBefore * priceAfter := by
  rcases (hbefore.trans hmono).eq_or_lt with hzero | hpos
  · have hfree : priceBefore = 0 := le_antisymm (hzero ▸ hmono) hbefore
    rw [hfree, ← hzero]
    simp
  · have hfits := h (roomAfter / priceAfter) (div_nonneg hroom hpos.le)
      (div_mul_cancel₀ roomAfter hpos.ne').le
    have hscaled := mul_le_mul_of_nonneg_right hfits hpos.le
    rwa [mul_right_comm, div_mul_cancel₀ roomAfter hpos.ne'] at hscaled

/-- After an accepted resume, every call that the supplied ceiling admits is admitted by the
persisted one if and only if the supplied one leaves no more bytes. -/
theorem resume_tightens_iff (before after : SpendCeiling)
    (hresumed : admitResumedSpendCeiling (.ceiling before) (.ceiling after) = .ok ()) :
    (∀ requestBytes inputBytes outputBytes,
      admitsCall after requestBytes inputBytes outputBytes = true →
        admitsCall before requestBytes inputBytes outputBytes = true) ↔
    LeavesNoMore before after := by
  constructor
  · intro h
    by_cases hroom : room after < 0
    · exact .inl hroom
    · have hroom := not_lt.mp hroom
      obtain ⟨hbefore, hafter, -⟩ := accepted_of_admitResumed hresumed
      obtain ⟨hin, hout⟩ := byteUsd_mono hresumed
      obtain ⟨hinpos, houtpos⟩ := byteUsd_nonneg hbefore
      have hfits : ∀ requestBytes inputBytes outputBytes : ℚ,
          0 ≤ requestBytes → 0 ≤ inputBytes → 0 ≤ outputBytes →
          (requestBytes + inputBytes) * inputByteUsd after + outputBytes * outputByteUsd after ≤
            room after →
          (requestBytes + inputBytes) * inputByteUsd before + outputBytes * outputByteUsd before ≤
            room before := by
        intro requestBytes inputBytes outputBytes hr hi ho hcost
        have hcall := h _ _ _ (admitsCall_iff.mpr ⟨hafter, ⟨hr, hi, ho⟩, hcost⟩)
        exact (admitsCall_iff.mp hcall).2.2
      refine .inr ⟨?_, ?_, ?_⟩
      · simpa using hfits 0 0 0 le_rfl le_rfl le_rfl (by simpa using hroom)
      · refine scaled_le hroom hinpos hin ?_
        intro bytes hbytes hcost
        simpa using hfits bytes 0 0 hbytes le_rfl le_rfl (by simpa using hcost)
      · refine scaled_le hroom houtpos hout ?_
        intro bytes hbytes hcost
        simpa using hfits 0 0 bytes le_rfl le_rfl hbytes (by simpa using hcost)
  · intro h requestBytes inputBytes outputBytes hcall
    exact admits_of_leavesNoMore hresumed h hcall

def sampleCeiling : SpendCeiling where
  maxSpendUsd := 1
  rateCard := ⟨3, 15⟩
  maxOutputTokensPerCall := 8000
  maxBytesPerToken := 8
  worstCaseTokensPerByte := 1
  provider := "anthropic".toList
  model := "claude".toList

def halvedCeiling : SpendCeiling := { sampleCeiling with maxOutputTokensPerCall := 4000 }

theorem resume_tightens_iff_lowered :
    (∀ requestBytes inputBytes outputBytes,
      admitsCall { sampleCeiling with maxSpendUsd := 1 / 2 } requestBytes inputBytes outputBytes =
          true → admitsCall sampleCeiling requestBytes inputBytes outputBytes = true) ↔
    LeavesNoMore sampleCeiling { sampleCeiling with maxSpendUsd := 1 / 2 } :=
  resume_tightens_iff _ _ (by decide +kernel)

/-- A smaller output bound lowers the reserve of each call, and a call that was refused
before the pause is admitted after it. -/
theorem halved_output_bound_admits_more :
    admitResumedSpendCeiling (.ceiling sampleCeiling) (.ceiling halvedCeiling) = .ok () ∧
      admitProviderCall halvedCeiling 10000 300000 0 = true ∧
      admitProviderCall sampleCeiling 10000 300000 0 = false := by
  decide +kernel

end Rooms

end NightWatch.AgentRuntime.ResumedCeilings
