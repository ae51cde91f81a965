import NightWatch.AgentProtocol.Vocabulary

namespace NightWatch.AgentProtocol.Budget

open Lib.JsText

structure AgentBudgetPolicy where
  ceilingName : JsString
  wallTimeMs : Nat
  reasonerCalls : Nat
  inputBytes : Nat
  outputBytes : Nat
  toolPayloadBytes : Nat
  toolActions : Nat
  perActionTimeoutMs : Nat
  candidateCap : Nat
  failures : Nat
  consecutiveFailures : Nat
  providerFailures : Nat
  deriving DecidableEq

structure AgentBudgetUsage where
  wallTimeMs : ℤ
  reasonerCalls : Nat
  inputBytes : Nat
  outputBytes : Nat
  toolPayloadBytes : Nat
  toolActions : Nat
  candidateCount : Nat
  failures : Nat
  consecutiveFailures : Nat
  providerFailures : Nat

def zeroAgentBudgetUsage : AgentBudgetUsage where
  wallTimeMs := 0
  reasonerCalls := 0
  inputBytes := 0
  outputBytes := 0
  toolPayloadBytes := 0
  toolActions := 0
  candidateCount := 0
  failures := 0
  consecutiveFailures := 0
  providerFailures := 0

def fourHourBudgetPolicy : AgentBudgetPolicy where
  ceilingName := "HOUR_4".toList
  wallTimeMs := 14400000
  reasonerCalls := 800
  inputBytes := 20000000
  outputBytes := 640000
  toolPayloadBytes := 256000000
  toolActions := 1600
  perActionTimeoutMs := 120000
  candidateCap := 20
  failures := 16
  consecutiveFailures := 8
  providerFailures := 16

/-- `classifyBudgetExhaustion(policy, usage) === 'SAFE_TERMINATION_CHECKPOINT'`. -/
def budgetExhausted (policy : AgentBudgetPolicy) (usage : AgentBudgetUsage) : Bool :=
  usage.wallTimeMs ≥ policy.wallTimeMs || usage.reasonerCalls ≥ policy.reasonerCalls ||
    usage.inputBytes ≥ policy.inputBytes || usage.outputBytes ≥ policy.outputBytes ||
    usage.toolPayloadBytes ≥ policy.toolPayloadBytes || usage.toolActions ≥ policy.toolActions ||
    usage.candidateCount ≥ policy.candidateCap || usage.failures ≥ policy.failures ||
    usage.consecutiveFailures ≥ policy.consecutiveFailures ||
    usage.providerFailures ≥ policy.providerFailures

/-- No ceiling is reached. -/
structure Below (policy : AgentBudgetPolicy) (usage : AgentBudgetUsage) : Prop where
  wallTimeMs : usage.wallTimeMs < policy.wallTimeMs
  reasonerCalls : usage.reasonerCalls < policy.reasonerCalls
  inputBytes : usage.inputBytes < policy.inputBytes
  outputBytes : usage.outputBytes < policy.outputBytes
  toolPayloadBytes : usage.toolPayloadBytes < policy.toolPayloadBytes
  toolActions : usage.toolActions < policy.toolActions
  candidateCount : usage.candidateCount < policy.candidateCap
  failures : usage.failures < policy.failures
  consecutiveFailures : usage.consecutiveFailures < policy.consecutiveFailures
  providerFailures : usage.providerFailures < policy.providerFailures

theorem budgetExhausted_eq_false_iff {policy : AgentBudgetPolicy} {usage : AgentBudgetUsage} :
    budgetExhausted policy usage = false ↔ Below policy usage := by
  constructor
  · intro h
    simp only [budgetExhausted, ge_iff_le, Bool.or_eq_false_iff, decide_eq_false_iff_not,
      not_le] at h
    obtain ⟨⟨⟨⟨⟨⟨⟨⟨⟨h1, h2⟩, h3⟩, h4⟩, h5⟩, h6⟩, h7⟩, h8⟩, h9⟩, h10⟩ := h
    exact ⟨h1, h2, h3, h4, h5, h6, h7, h8, h9, h10⟩
  · rintro ⟨h1, h2, h3, h4, h5, h6, h7, h8, h9, h10⟩
    simp only [budgetExhausted, ge_iff_le, Bool.or_eq_false_iff, decide_eq_false_iff_not, not_le]
    exact ⟨⟨⟨⟨⟨⟨⟨⟨⟨h1, h2⟩, h3⟩, h4⟩, h5⟩, h6⟩, h7⟩, h8⟩, h9⟩, h10⟩

def agentByteLedgerVersion : JsString := "nightwatch.agent-byte-ledger.v1".toList

structure AgentByteLedger where
  legacyInputBytes : Nat
  legacyOutputBytes : Nat
  legacyToolPayloadBytes : Nat
  renderedInputBytes : Nat
  requestMemoryBytes : Nat
  requestUntrustedBytes : Nat
  providerResponseBytes : Nat
  providerStderrBytes : Nat
  reasonerOutputBytes : Nat
  toolResultBytes : Nat
  toolEnvelopeBytes : Nat
  checkpointBytes : Nat

def zeroAgentByteLedger : AgentByteLedger where
  legacyInputBytes := 0
  legacyOutputBytes := 0
  legacyToolPayloadBytes := 0
  renderedInputBytes := 0
  requestMemoryBytes := 0
  requestUntrustedBytes := 0
  providerResponseBytes := 0
  providerStderrBytes := 0
  reasonerOutputBytes := 0
  toolResultBytes := 0
  toolEnvelopeBytes := 0
  checkpointBytes := 0

def chargedInputBytes (ledger : AgentByteLedger) : Nat :=
  ledger.legacyInputBytes + ledger.renderedInputBytes

def chargedOutputBytes (ledger : AgentByteLedger) : Nat :=
  ledger.legacyOutputBytes + ledger.providerResponseBytes + ledger.providerStderrBytes

def chargedToolPayloadBytes (ledger : AgentByteLedger) : Nat :=
  ledger.legacyToolPayloadBytes + ledger.toolResultBytes

def legacyAgentByteLedger (inputBytes outputBytes toolPayloadBytes : Nat) : AgentByteLedger :=
  { zeroAgentByteLedger with
    legacyInputBytes := inputBytes
    legacyOutputBytes := outputBytes
    legacyToolPayloadBytes := toolPayloadBytes }

def maxSafeInteger : Nat := 2 ^ 53 - 1

def AgentByteLedger.counts (ledger : AgentByteLedger) : List Nat :=
  [ledger.legacyInputBytes, ledger.legacyOutputBytes, ledger.legacyToolPayloadBytes,
    ledger.renderedInputBytes, ledger.requestMemoryBytes, ledger.requestUntrustedBytes,
    ledger.providerResponseBytes, ledger.providerStderrBytes, ledger.reasonerOutputBytes,
    ledger.toolResultBytes, ledger.toolEnvelopeBytes, ledger.checkpointBytes]

/-- `isAgentByteLedger` on a ledger of counts: each of them is a safe integer. -/
def AgentByteLedger.isSafe (ledger : AgentByteLedger) : Bool :=
  ledger.counts.all fun count => count ≤ maxSafeInteger

end NightWatch.AgentProtocol.Budget
