import NightWatch.AgentProtocol.Budget

namespace NightWatch.AgentRuntime.SpendAdmission

open Lib.JsText

structure SpendRateCard where
  inputUsdPerMillionTokens : ℚ
  outputUsdPerMillionTokens : ℚ
  deriving DecidableEq

structure SpendCeiling where
  maxSpendUsd : ℚ
  rateCard : SpendRateCard
  maxOutputTokensPerCall : ℚ
  maxBytesPerToken : ℚ
  worstCaseTokensPerByte : ℚ
  provider : JsString
  model : JsString
  deriving DecidableEq

def validateSpendCeiling (ceiling : SpendCeiling) : Bool :=
  0 < ceiling.maxSpendUsd && 0 ≤ ceiling.rateCard.inputUsdPerMillionTokens &&
    0 ≤ ceiling.rateCard.outputUsdPerMillionTokens && 0 < ceiling.maxOutputTokensPerCall &&
    0 < ceiling.maxBytesPerToken && 0 < ceiling.worstCaseTokensPerByte &&
    !(trim ceiling.provider).isEmpty && !(trim ceiling.model).isEmpty

def worstCaseTokensForBytes (ceiling : SpendCeiling) (bytes : Nat) : ℚ :=
  bytes * ceiling.worstCaseTokensPerByte

def tokenCostUsd (tokens usdPerMillionTokens : ℚ) : ℚ := tokens / 1000000 * usdPerMillionTokens

def committedSpendUsd (ceiling : SpendCeiling) (committedInputBytes committedOutputBytes : Nat) : ℚ :=
  tokenCostUsd (worstCaseTokensForBytes ceiling committedInputBytes)
      ceiling.rateCard.inputUsdPerMillionTokens +
    tokenCostUsd (worstCaseTokensForBytes ceiling committedOutputBytes)
      ceiling.rateCard.outputUsdPerMillionTokens

def worstCaseCallCostUsd (ceiling : SpendCeiling) (requestBytes : Nat) : ℚ :=
  tokenCostUsd (worstCaseTokensForBytes ceiling requestBytes)
      ceiling.rateCard.inputUsdPerMillionTokens +
    tokenCostUsd ceiling.maxOutputTokensPerCall ceiling.rateCard.outputUsdPerMillionTokens

/-- `admitProviderCall(...).ok`; byte counts are finite and not negative. -/
def admitProviderCall (ceiling : SpendCeiling)
    (requestBytes committedInputBytes committedOutputBytes : Nat) : Bool :=
  validateSpendCeiling ceiling &&
    committedSpendUsd ceiling committedInputBytes committedOutputBytes +
      worstCaseCallCostUsd ceiling requestBytes ≤ ceiling.maxSpendUsd

section Costs

variable {ceiling : SpendCeiling}

theorem tokenCostUsd_add (a b rate : ℚ) :
    tokenCostUsd (a + b) rate = tokenCostUsd a rate + tokenCostUsd b rate := by
  rw [tokenCostUsd, tokenCostUsd, tokenCostUsd, add_div, add_mul]

theorem tokenCostUsd_mono {a b rate : ℚ} (h : a ≤ b) (hrate : 0 ≤ rate) :
    tokenCostUsd a rate ≤ tokenCostUsd b rate := by
  rw [tokenCostUsd, tokenCostUsd]
  gcongr

theorem worstCaseTokensForBytes_add (a b : Nat) : worstCaseTokensForBytes ceiling (a + b) =
    worstCaseTokensForBytes ceiling a + worstCaseTokensForBytes ceiling b := by
  rw [worstCaseTokensForBytes, worstCaseTokensForBytes, worstCaseTokensForBytes, Nat.cast_add,
    add_mul]

end Costs

end NightWatch.AgentRuntime.SpendAdmission
