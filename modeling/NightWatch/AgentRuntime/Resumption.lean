import NightWatch.AgentRuntime.Checkpoint

namespace NightWatch.AgentRuntime.Resumption

open Lib.JsText Lib.JsData Lib.JsDocuments Lib.NumberText Lib.Guard AgentProtocol.Budget
  AgentRuntime.State AgentRuntime.Checkpoint

theorem isSafeCount_writeCount (n : Nat) :
    isSafeCount (writeCount n) = decide (n ≤ maxSafeInteger) := by
  have hwhole : ((n : ℚ).den = 1 ∧ 0 ≤ (n : ℚ).num ∧ (n : ℚ).num ≤ (maxSafeInteger : ℤ)) ↔
      n ≤ maxSafeInteger := by
    rw [Rat.den_natCast, Rat.num_natCast]
    omega
  exact decide_eq_decide.mpr hwhole

theorem isAgentByteLedger_document (ledger : AgentByteLedger) :
    isAgentByteLedger (ledgerDocument ledger) = ledger.isSafe := by
  have hkeys : (ledgerKeys.map fun key => JsValue.field (ledgerFields ledger) key.toList) =
    ledger.counts.map writeCount := rfl
  have hall : (ledgerKeys.all fun key =>
      isSafeCount (JsValue.field (ledgerFields ledger) key.toList)) = ledger.isSafe := by
    calc
      _ = (ledgerKeys.map fun key => JsValue.field (ledgerFields ledger) key.toList).all
          isSafeCount := by rw [List.all_map]; rfl
      _ = (ledger.counts.map writeCount).all isSafeCount := by rw [hkeys]
      _ = ledger.isSafe := by
          rw [List.all_map, AgentByteLedger.isSafe]
          congr 1
          funext n
          exact isSafeCount_writeCount n
  change (true && _) = _
  rw [Bool.true_and]
  exact hall

variable {n : Nat} {usage : AgentBudgetUsage} {c : Char} {rest : JsString}

theorem reconciles_of_field {charged : Nat} {usage : Fields} {key : String}
    (h : JsValue.field usage key.toList = writeCount n) :
    reconciles charged usage key = decide (n = charged) := by
  rw [reconciles, h]
  exact decide_eq_decide.mpr Nat.cast_inj

theorem isFiniteNumber_writeCount (n : Nat) : isFiniteNumber (writeCount n) = true :=
  decide_eq_true (Nat.cast_nonneg n)

theorem isFiniteNumber_writeInteger (z : ℤ) : isFiniteNumber (writeInteger z) = decide (0 ≤ z) :=
  decide_eq_decide.mpr Int.cast_nonneg_iff

variable {place : String} {s : JsString}

theorem checkNumbers_eq_ok {part : String} {value : String → JsValue} {keys : List String}
    {values : List JsValue} (hvalues : keys.map value = values) :
    checkNumbers place part value keys = .ok () ↔ ∀ v ∈ values, isFiniteNumber v = true := by
  rw [checkNumbers, forEach_eq_ok, ← hvalues]
  constructor
  · intro h v hv
    obtain ⟨key, hkey, rfl⟩ := List.mem_map.mp hv
    exact require_eq_ok.mp (h key hkey)
  · intro h key hkey
    exact require_eq_ok.mpr (h _ (List.mem_map_of_mem hkey))

def policyCounts (policy : AgentBudgetPolicy) : List Nat :=
  [policy.wallTimeMs, policy.reasonerCalls, policy.inputBytes, policy.outputBytes,
    policy.toolPayloadBytes, policy.toolActions, policy.perActionTimeoutMs, policy.candidateCap,
    policy.failures, policy.consecutiveFailures, policy.providerFailures]

def usageCounts (usage : AgentBudgetUsage) : List Nat :=
  [usage.reasonerCalls, usage.inputBytes, usage.outputBytes, usage.toolPayloadBytes,
    usage.toolActions, usage.candidateCount, usage.failures, usage.consecutiveFailures,
    usage.providerFailures]

theorem checkPolicy_fields (place : String) (policy : AgentBudgetPolicy) :
    checkNumbers place "policy" (fun key => JsValue.field (policyFields policy) key.toList)
      policyKeys = .ok () := by
  have hvalues : policyKeys.map (fun key => JsValue.field (policyFields policy) key.toList) =
    (policyCounts policy).map writeCount := rfl
  rw [checkNumbers_eq_ok hvalues]
  intro v hv
  obtain ⟨n, -, rfl⟩ := List.mem_map.mp hv
  exact isFiniteNumber_writeCount n

theorem checkUsage_fields :
    checkNumbers place "usage" (fun key => JsValue.field (usageFields usage) key.toList)
      usageKeys = .ok () ↔ 0 ≤ usage.wallTimeMs := by
  have hvalues : usageKeys.map (fun key => JsValue.field (usageFields usage) key.toList) =
    writeInteger usage.wallTimeMs :: (usageCounts usage).map writeCount := rfl
  rw [checkNumbers_eq_ok hvalues]
  constructor
  · intro h
    have hwall := h _ List.mem_cons_self
    rw [isFiniteNumber_writeInteger] at hwall
    exact of_decide_eq_true hwall
  · intro h v hv
    rcases List.mem_cons.mp hv with rfl | hv
    · rw [isFiniteNumber_writeInteger]
      exact decide_eq_true h
    · obtain ⟨n, -, rfl⟩ := List.mem_map.mp hv
      exact isFiniteNumber_writeCount n

theorem isBudgetV1_policyFields (policy : AgentBudgetPolicy) :
    isBudgetV1 (.obj (policyFields policy)) = false := by
  change (agentBudgetVersion == agentBudgetVersionV1) = false
  decide

theorem requireVersion_same (place version : JsString) :
    requireVersion place (.str version) version = .ok () := by
  rw [requireVersion, isText, if_pos (beq_self_eq_true version)]

theorem parseBudgetSnapshot_eq_ok {policy : AgentBudgetPolicy} {result : Fields × Fields} :
    parseBudgetSnapshot place (budgetDocument policy usage) = .ok result ↔
      0 ≤ usage.wallTimeMs ∧ result = (policyFields policy, usageFields usage) := by
  have hpolicy : subfield (budgetDocument policy usage) "policy".toList =
    .obj (policyFields policy) := rfl
  have husage : subfield (budgetDocument policy usage) "usage".toList =
    .obj (usageFields usage) := rfl
  have hversion : JsValue.field (policyFields policy) "schemaVersion".toList =
    .str agentBudgetVersion := rfl
  have hname : isString (JsValue.field (policyFields policy) "ceilingName".toList) = true := rfl
  have hpolicyKept : normalizeBudgetFailureField (policyFields policy) = policyFields policy := rfl
  have husageKept : normalizeBudgetFailureField (usageFields usage) = usageFields usage := rfl
  rw [parseBudgetSnapshot, hpolicy, husage]
  simp only [isBudgetV1_policyFields, Bool.false_eq_true, if_false]
  rw [hversion, requireVersion_same, currentBudget, hpolicyKept, husageKept]
  simp only [bind_eq_ok, checkPolicy_fields, hname, require_eq_ok, Except.ok.injEq, true_and,
    exists_const]
  constructor
  · rintro ⟨_, hread, hresult⟩
    exact ⟨checkUsage_fields.mp hread, hresult.symm⟩
  · rintro ⟨hwall, rfl⟩
    exact ⟨(), checkUsage_fields.mpr hwall, rfl⟩

theorem startsWith_marker_of_ne (hc : c ≠ ':') : startsWith (c :: rest) turnMarker = false := by
  rw [Bool.eq_false_iff]
  intro h
  obtain ⟨tail, htail⟩ := startsWith_iff.mp h
  exact hc (List.cons.inj htail).1.symm

theorem splitMarker_cons_of_ne (hc : c ≠ ':')
    (hrest : splitMarker rest = none) : splitMarker (c :: rest) = none := by
  simp [splitMarker, hrest, startsWith_marker_of_ne hc]

theorem splitMarker_digits (hs : ∀ c ∈ s, c.isDigit = true) : splitMarker s = none := by
  induction s with
  | nil => rfl
  | cons c s ih =>
      refine splitMarker_cons_of_ne ?_ (ih fun d hd => hs d (List.mem_cons_of_mem _ hd))
      rintro rfl
      exact absurd (hs _ List.mem_cons_self) (by decide)

theorem splitMarker_marker (hs : ∀ c ∈ s, c.isDigit = true) :
    splitMarker (turnMarker ++ s) = some ([], s) := by
  have hcolon : splitMarker (':' :: s) = none := by
    have hstart : startsWith (':' :: s) turnMarker = false := by
      rw [Bool.eq_false_iff]
      intro h
      obtain ⟨tail, htail⟩ := startsWith_iff.mp h
      have ht : 't' ∈ s := by
        rw [← (List.cons.inj htail).2]
        exact List.mem_append_left _ (by decide)
      exact absurd (hs _ ht) (by decide)
    simp [splitMarker, splitMarker_digits hs, hstart]
  have hrest : splitMarker ('t' :: 'u' :: 'r' :: 'n' :: ':' :: s) = none := by
    refine splitMarker_cons_of_ne (by decide) ?_
    refine splitMarker_cons_of_ne (by decide) ?_
    refine splitMarker_cons_of_ne (by decide) ?_
    exact splitMarker_cons_of_ne (by decide) hcolon
  have hstart : startsWith (':' :: 't' :: 'u' :: 'r' :: 'n' :: ':' :: s) turnMarker = true :=
    startsWith_iff.mpr ⟨s, rfl⟩
  change splitMarker (':' :: 't' :: 'u' :: 'r' :: 'n' :: ':' :: s) = _
  rw [splitMarker, hrest]
  simp only [hstart, if_true]
  rfl

theorem splitMarker_cursor {owner : JsString} (hs : ∀ c ∈ s, c.isDigit = true) :
    splitMarker (owner ++ turnMarker ++ s) = some (owner, s) := by
  induction owner with
  | nil => exact splitMarker_marker hs
  | cons c owner ih =>
      change splitMarker (c :: (owner ++ turnMarker ++ s)) = _
      rw [splitMarker, ih]

theorem turnCount_ofNat (h : numberOf s = .ofNat n) : turnCount s = some n := by
  rw [turnCount, h]
  simp [JsNumber.ofNat]

theorem parseResumeCursor_eq_ok {campaignId : JsString} {completedTurns turns : Nat}
    (hcampaign : campaignId ≠ []) (hfew : completedTurns ≤ 1000000) :
    parseResumeCursor (.str (resumeCursorFor campaignId completedTurns)) campaignId = .ok turns ↔
      utf16Length (resumeCursorFor campaignId completedTurns) ≤ 512 ∧ turns = completedTurns := by
  have hsplit : splitMarker (resumeCursorFor campaignId completedTurns) =
      some (campaignId, decimal completedTurns) :=
    splitMarker_cursor fun c hc => isDigit_of_mem_decimal hc
  have hcount : turnCount (decimal completedTurns) = some completedTurns :=
    turnCount_ofNat (numberOf_decimal (by omega))
  have hempty : (resumeCursorFor campaignId completedTurns).isEmpty = false := by
    cases campaignId with
    | nil => contradiction
    | cons c rest => rfl
  have howner : campaignId.isEmpty = false := by
    cases campaignId with
    | nil => contradiction
    | cons c rest => rfl
  rw [parseResumeCursor]
  simp only [hempty, Bool.false_or, decide_eq_true_eq, hsplit, howner, Bool.false_eq_true,
    if_false, ne_eq, not_true_eq_false, hcount, hfew, if_true]
  split
  · rename_i hlong
    constructor
    · intro h
      contradiction
    · rintro ⟨hshort, -⟩
      omega
  · rename_i hshort
    constructor
    · intro h
      exact ⟨by omega, (Except.ok.inj h).symm⟩
    · rintro ⟨-, rfl⟩
      rfl

end NightWatch.AgentRuntime.Resumption
