import NightWatch.AgentRuntime.Resumption

/-!
What the parser returns, parsed once more: a budget of the current version is read as it is, and
a migrated one whenever its totals fit the ledger that they are moved to.
-/

namespace NightWatch.AgentRuntime.Reparsing

open Lib.JsText Lib.JsData Lib.JsDocuments Lib.JsRuntime Lib.Guard AgentProtocol.Budget
  AgentRuntime.State AgentRuntime.Checkpoint AgentRuntime.Resumption

section Fields

variable {fields : Fields} {key name : JsString} {v : JsValue}

theorem field_mapSet : JsValue.field (mapSet key v fields) key = v := by
  rw [JsValue.field, lookup_mapSet, if_pos rfl, Option.getD_some]

theorem field_mapSet_of_ne (h : name ≠ key) :
    JsValue.field (mapSet key v fields) name = JsValue.field fields name := by
  rw [JsValue.field, lookup_mapSet, if_neg h, JsValue.field]

theorem lookup_filter_of_ne (h : name ≠ key) :
    (fields.filter fun field => field.1 ≠ key).lookup name = fields.lookup name := by
  induction fields with
  | nil => rfl
  | cons field rest ih =>
      by_cases hkey : field.1 = key
      · have hne : (name == field.1) = false := by
          rw [hkey]
          simpa using h
        rw [List.filter_cons_of_neg (by simpa using hkey), List.lookup_cons, hne, ih]
      · rw [List.filter_cons_of_pos (by simpa using hkey), List.lookup_cons, List.lookup_cons, ih]

theorem lookup_filter_self : (fields.filter fun field => field.1 ≠ key).lookup key = none := by
  apply List.lookup_eq_none_iff.mpr
  intro field hfield
  have hne : field.1 ≠ key := by simpa using (List.mem_filter.mp hfield).2
  simpa using hne.symm

end Fields

section Failures

variable {record : Fields}

theorem normalizeBudgetFailureField_of_none (h : record.lookup "retries".toList = none) :
    normalizeBudgetFailureField record = record := by
  rw [normalizeBudgetFailureField, h]

theorem normalizeBudgetFailureField_cases (record : Fields) :
    (JsValue.field record "retries".toList = .undefined ∧
      normalizeBudgetFailureField record = record ∧ record.lookup "retries".toList = none) ∨
    ((isFiniteNumber (JsValue.field record "failures".toList) = true ∨
        isFiniteNumber (JsValue.field record "retries".toList) = false) ∧
      normalizeBudgetFailureField record =
        record.filter fun field => field.1 ≠ "retries".toList) ∨
    (isFiniteNumber (JsValue.field record "retries".toList) = true ∧
      normalizeBudgetFailureField record = mapSet "failures".toList
        (JsValue.field record "retries".toList)
        (record.filter fun field => field.1 ≠ "retries".toList)) := by
  have hrest : JsValue.field (record.filter fun field => field.1 ≠ "retries".toList)
      "failures".toList = JsValue.field record "failures".toList := by
    rw [JsValue.field, lookup_filter_of_ne (by decide), JsValue.field]
  rcases hlookup : record.lookup "retries".toList with _ | legacy
  · have hfield : JsValue.field record "retries".toList = .undefined := by
      rw [JsValue.field, hlookup, Option.getD_none]
    exact .inl ⟨hfield, normalizeBudgetFailureField_of_none hlookup, rfl⟩
  · have hfield : JsValue.field record "retries".toList = legacy := by
      rw [JsValue.field, hlookup, Option.getD_some]
    have hequation : normalizeBudgetFailureField record =
        if isFiniteNumber (JsValue.field record "failures".toList) then
          record.filter fun field => field.1 ≠ "retries".toList
        else if isFiniteNumber legacy then mapSet "failures".toList legacy
          (record.filter fun field => field.1 ≠ "retries".toList)
        else record.filter fun field => field.1 ≠ "retries".toList := by
      rw [normalizeBudgetFailureField, hlookup, ← hrest]
    rw [hequation, hfield]
    by_cases hfailures : isFiniteNumber (JsValue.field record "failures".toList) = true
    · rw [if_pos hfailures]
      exact .inr (.inl ⟨.inl hfailures, rfl⟩)
    · rw [if_neg hfailures]
      by_cases hlegacy : isFiniteNumber legacy = true
      · rw [if_pos hlegacy]
        exact .inr (.inr ⟨hlegacy, rfl⟩)
      · rw [if_neg hlegacy]
        exact .inr (.inl ⟨.inr (Bool.not_eq_true _ ▸ hlegacy), rfl⟩)

theorem lookup_retries_normalized :
    (normalizeBudgetFailureField record).lookup "retries".toList = none := by
  rcases normalizeBudgetFailureField_cases record with ⟨-, hsame, hnone⟩ | ⟨-, hsame⟩ | ⟨-, hsame⟩
  · rw [hsame, hnone]
  · rw [hsame, lookup_filter_self]
  · rw [hsame, lookup_mapSet, if_neg (by decide), lookup_filter_self]

theorem field_normalized_of_ne {key : JsString} (hretries : key ≠ "retries".toList)
    (hfailures : key ≠ "failures".toList) :
    JsValue.field (normalizeBudgetFailureField record) key = JsValue.field record key := by
  have hrest : JsValue.field (record.filter fun field => field.1 ≠ "retries".toList) key =
      JsValue.field record key := by
    rw [JsValue.field, lookup_filter_of_ne hretries, JsValue.field]
  rcases normalizeBudgetFailureField_cases record with ⟨-, hsame, -⟩ | ⟨-, hsame⟩ | ⟨-, hsame⟩
  · rw [hsame]
  · rw [hsame, hrest]
  · rw [hsame, field_mapSet_of_ne hfailures, hrest]

theorem isFiniteNumber_failures (h : isFiniteNumber (v1Value record "retries") = true) :
    isFiniteNumber (JsValue.field (normalizeBudgetFailureField record) "failures".toList) =
      true := by
  have hrest : JsValue.field (record.filter fun field => field.1 ≠ "retries".toList)
      "failures".toList = JsValue.field record "failures".toList := by
    rw [JsValue.field, lookup_filter_of_ne (by decide), JsValue.field]
  rw [v1Value, if_pos rfl, orElse] at h
  rcases normalizeBudgetFailureField_cases record with
    ⟨hnone, hsame, -⟩ | ⟨hor, hsame⟩ | ⟨hlegacy, hsame⟩
  · rw [hnone] at h
    rw [hsame]
    exact h
  · rw [hsame, hrest]
    rcases hor with hfailures | hlegacy
    · exact hfailures
    · split at h
      · exact h
      · rw [hlegacy] at h
        contradiction
  · rw [hsame, field_mapSet]
    exact hlegacy

end Failures

variable {place : String} {policy : Fields} {keys : List String}

theorem checkNumbers_iff {part : String} {value : String → JsValue} :
    checkNumbers place part value keys = .ok () ↔
      ∀ key ∈ keys, isFiniteNumber (value key) = true := by
  rw [checkNumbers, forEach_eq_ok]
  simp only [require_eq_ok]

def pairDocument (pair : Fields × Fields) : JsValue :=
  .obj [("policy".toList, .obj pair.1), ("usage".toList, .obj pair.2)]

/-- A budget that the current rules read as it is. -/
structure IsCurrent (pair : Fields × Fields) : Prop where
  version : isText (JsValue.field pair.1 "schemaVersion".toList) agentBudgetVersion = true
  policyRenamed : pair.1.lookup "retries".toList = none
  usageRenamed : pair.2.lookup "retries".toList = none
  policyNumbers : ∀ key ∈ policyKeys, isFiniteNumber (JsValue.field pair.1 key.toList) = true
  ceilingName : isString (JsValue.field pair.1 "ceilingName".toList) = true
  usageNumbers : ∀ key ∈ usageKeys, isFiniteNumber (JsValue.field pair.2 key.toList) = true

theorem isText_iff {v : JsValue} {text : JsString} : isText v text = true ↔ v = .str text := by
  cases v with
  | str s => simp [isText]
  | _ => simp [isText]

theorem isText_of_requireVersion {place version : JsString} {v : JsValue}
    (h : requireVersion place v version = .ok ()) : isText v version = true := by
  by_contra hnot
  rw [requireVersion, if_neg hnot] at h
  cases v with
  | str found =>
      rw [unsupportedVersion] at h
      split at h
      · contradiction
      · contradiction
  | _ => contradiction

theorem isBudgetV1_of_version
    (h : isText (JsValue.field policy "schemaVersion".toList) agentBudgetVersion = true) :
    isBudgetV1 (.obj policy) = false := by
  rw [isBudgetV1, subfield, isText_iff.mp h]
  decide

variable {pair : Fields × Fields}

theorem parseBudgetSnapshot_current
    (h : IsCurrent pair) : parseBudgetSnapshot place (pairDocument pair) = .ok pair := by
  have hpolicy : subfield (pairDocument pair) "policy".toList = .obj pair.1 := rfl
  have husage : subfield (pairDocument pair) "usage".toList = .obj pair.2 := rfl
  rw [parseBudgetSnapshot, hpolicy, husage]
  simp only [isBudgetV1_of_version h.version, Bool.false_eq_true, if_false]
  rw [requireVersion, if_pos h.version, currentBudget,
    normalizeBudgetFailureField_of_none h.policyRenamed,
    normalizeBudgetFailureField_of_none h.usageRenamed]
  simp only [bind_eq_ok, require_eq_ok]
  exact ⟨(), trivial, (), checkNumbers_iff.mpr h.policyNumbers, (), h.ceilingName, (),
    checkNumbers_iff.mpr h.usageNumbers, trivial⟩

variable {usage : Fields}

theorem isCurrent_of_currentBudget
    (hversion : isText (JsValue.field policy "schemaVersion".toList) agentBudgetVersion = true)
    (h : currentBudget place policy usage = .ok pair) : IsCurrent pair ∧
      pair = (normalizeBudgetFailureField policy, normalizeBudgetFailureField usage) := by
  rw [currentBudget] at h
  simp only [bind_eq_ok, require_eq_ok, Except.ok.injEq] at h
  obtain ⟨_, hpolicy, _, hname, _, husage, rfl⟩ := h
  refine ⟨⟨?_, lookup_retries_normalized, lookup_retries_normalized,
    checkNumbers_iff.mp hpolicy, hname, checkNumbers_iff.mp husage⟩, rfl⟩
  rw [field_normalized_of_ne (by decide) (by decide)]
  exact hversion

/-- A name that neither the renaming nor the migration touches. -/
def Untouched (key : String) : Prop :=
  key.toList ≠ "retries".toList ∧ key.toList ≠ "failures".toList ∧
    key.toList ≠ "schemaVersion".toList ∧ key.toList ≠ "outputBytes".toList ∧
    key.toList ≠ "toolPayloadBytes".toList

instance (key : String) : Decidable (Untouched key) :=
  inferInstanceAs (Decidable (_ ∧ _))

theorem policyKeys_cases : ∀ key ∈ policyKeys, key = "outputBytes" ∨ key = "toolPayloadBytes" ∨
    key = "failures" ∨ key ∈ v1PolicyKeys ∧ key ≠ "retries" ∧ Untouched key := by
  decide

theorem usageKeys_cases : ∀ key ∈ usageKeys, key = "outputBytes" ∨ key = "toolPayloadBytes" ∨
    key = "failures" ∨ key ∈ v1UsageKeys ∧ key ≠ "retries" ∧ Untouched key := by
  decide

theorem isFiniteNumber_of_v1 {record : Fields} {key : String}
    (h : ∀ key ∈ keys, isFiniteNumber (v1Value record key) = true) (hkey : key ∈ keys)
    (hne : key ≠ "retries") : isFiniteNumber (JsValue.field record key.toList) = true := by
  have hvalue := h key hkey
  rw [v1Value, if_neg hne] at hvalue
  exact hvalue

/-- What a migration leaves of a v1 budget. -/
structure IsMigrated (usage : Fields) (pair : Fields × Fields) : Prop where
  current : IsCurrent pair
  inputBytes : JsValue.field pair.2 "inputBytes".toList = JsValue.field usage "inputBytes".toList
  outputBytes : JsValue.field pair.2 "outputBytes".toList = writeCount 0
  toolPayloadBytes :
    JsValue.field pair.2 "toolPayloadBytes".toList = JsValue.field usage "outputBytes".toList

theorem policyNumbers_migrated {outputBytes toolPayloadBytes : Nat}
    (h : ∀ key ∈ v1PolicyKeys, isFiniteNumber (v1Value policy key) = true) :
    ∀ key ∈ policyKeys, isFiniteNumber (JsValue.field (mapSet "toolPayloadBytes".toList
      (writeCount toolPayloadBytes) (mapSet "outputBytes".toList (writeCount outputBytes)
        (mapSet "schemaVersion".toList (.str agentBudgetVersion)
          (normalizeBudgetFailureField policy)))) key.toList) = true := by
  intro key hkey
  rcases policyKeys_cases key hkey with rfl | rfl | rfl | ⟨hold, hne, huntouched⟩
  · rw [field_mapSet_of_ne (by decide), field_mapSet]
    exact isFiniteNumber_writeCount _
  · rw [field_mapSet]
    exact isFiniteNumber_writeCount _
  · rw [field_mapSet_of_ne (by decide), field_mapSet_of_ne (by decide),
      field_mapSet_of_ne (by decide)]
    exact isFiniteNumber_failures (h _ (by decide))
  · obtain ⟨hretries, hfailures, hversion, houtput, hpayload⟩ := huntouched
    rw [field_mapSet_of_ne hpayload, field_mapSet_of_ne houtput, field_mapSet_of_ne hversion,
      field_normalized_of_ne hretries hfailures]
    exact isFiniteNumber_of_v1 h hold hne

theorem usageNumbers_migrated (h : ∀ key ∈ v1UsageKeys, isFiniteNumber (v1Value usage key) = true) :
    ∀ key ∈ usageKeys, isFiniteNumber (JsValue.field (mapSet "toolPayloadBytes".toList
      (JsValue.field (normalizeBudgetFailureField usage) "outputBytes".toList)
      (mapSet "outputBytes".toList (writeCount 0) (normalizeBudgetFailureField usage)))
        key.toList) = true := by
  intro key hkey
  rcases usageKeys_cases key hkey with rfl | rfl | rfl | ⟨hold, hne, huntouched⟩
  · rw [field_mapSet_of_ne (by decide), field_mapSet]
    exact isFiniteNumber_writeCount _
  · rw [field_mapSet, field_normalized_of_ne (by decide) (by decide)]
    have hkey : "outputBytes" ≠ "retries" := by decide
    exact isFiniteNumber_of_v1 h (by decide) hkey
  · rw [field_mapSet_of_ne (by decide), field_mapSet_of_ne (by decide)]
    exact isFiniteNumber_failures (h _ (by decide))
  · obtain ⟨hretries, hfailures, -, houtput, hpayload⟩ := huntouched
    rw [field_mapSet_of_ne hpayload, field_mapSet_of_ne houtput,
      field_normalized_of_ne hretries hfailures]
    exact isFiniteNumber_of_v1 h hold hne

theorem isMigrated_of_migrateBudget (h : migrateBudget place policy usage = .ok pair) :
    IsMigrated usage pair := by
  rw [migrateBudget] at h
  simp only [bind_eq_ok, require_eq_ok] at h
  obtain ⟨_, hpolicy, _, hname, h⟩ := h
  split at h
  · contradiction
  · rename_i outputBytes toolPayloadBytes htier
    simp only [bind_eq_ok, Except.ok.injEq] at h
    obtain ⟨_, husage, rfl⟩ := h
    rw [checkNumbers_iff] at hpolicy husage
    refine ⟨⟨?_, ?_, ?_, policyNumbers_migrated hpolicy, ?_, usageNumbers_migrated husage⟩,
      ?_, ?_, ?_⟩
    · rw [field_mapSet_of_ne (by decide), field_mapSet_of_ne (by decide), field_mapSet]
      decide
    · rw [lookup_mapSet, if_neg (by decide), lookup_mapSet, if_neg (by decide), lookup_mapSet,
        if_neg (by decide)]
      exact lookup_retries_normalized
    · rw [lookup_mapSet, if_neg (by decide), lookup_mapSet, if_neg (by decide)]
      exact lookup_retries_normalized
    · rw [field_mapSet_of_ne (by decide), field_mapSet_of_ne (by decide),
        field_mapSet_of_ne (by decide), field_normalized_of_ne (by decide) (by decide)]
      exact hname
    · rw [field_mapSet_of_ne (by decide), field_mapSet_of_ne (by decide),
        field_normalized_of_ne (by decide) (by decide)]
    · rw [field_mapSet_of_ne (by decide), field_mapSet]
    · rw [field_mapSet, field_normalized_of_ne (by decide) (by decide)]

/-- What the parser makes of a budget: a migrated pair, or the normalized one. -/
inductive Reads (value : JsValue) (pair : Fields × Fields) : Prop where
  | migrated {policy usage : Fields} (hpolicy : subfield value "policy".toList = .obj policy)
      (husage : subfield value "usage".toList = .obj usage)
      (hv1 : isBudgetV1 (.obj policy) = true) (hpair : IsMigrated usage pair)
  | current {policy usage : Fields} (hpolicy : subfield value "policy".toList = .obj policy)
      (husage : subfield value "usage".toList = .obj usage)
      (hv1 : isBudgetV1 (.obj policy) = false) (hcurrent : IsCurrent pair)
      (hpair : pair = (normalizeBudgetFailureField policy, normalizeBudgetFailureField usage))

theorem reads_of_parseBudgetSnapshot {value : JsValue}
    (h : parseBudgetSnapshot place value = .ok pair) : Reads value pair := by
  rw [parseBudgetSnapshot] at h
  split at h
  · rename_i policy usage hpolicy husage
    split at h
    · exact .migrated hpolicy husage ‹_› (isMigrated_of_migrateBudget h)
    · rename_i hv1
      simp only [bind_eq_ok] at h
      obtain ⟨_, hversion, h⟩ := h
      obtain ⟨hcurrent, hpair⟩ := isCurrent_of_currentBudget (isText_of_requireVersion hversion) h
      exact .current hpolicy husage (Bool.not_eq_true _ ▸ hv1) hcurrent hpair
  · contradiction

section Ledgers

variable {usage : Fields} {pair : Fields × Fields}

theorem exists_count_of_isSafeCount {v : JsValue} (h : isSafeCount v = true) :
    ∃ n : Nat, v = writeCount n := by
  unfold isSafeCount at h
  split at h
  · rename_i q
    obtain ⟨hden, hnum, -⟩ := of_decide_eq_true h
    refine ⟨q.num.toNat, ?_⟩
    have hq : q = ((q.num.toNat : ℕ) : ℚ) := by
      calc
        q = (q.num : ℚ) := (Rat.coe_int_num_of_den_eq_one hden).symm
        _ = (((q.num.toNat : ℕ) : ℤ) : ℚ) := by rw [Int.toNat_of_nonneg hnum]
        _ = ((q.num.toNat : ℕ) : ℚ) := Int.cast_natCast _
    rw [writeCount, ← hq]
  · contradiction

theorem isAgentByteLedger_legacy : isAgentByteLedger (legacyLedgerDocument usage) = true ↔
    isSafeCount (JsValue.field usage "inputBytes".toList) = true ∧
      isSafeCount (JsValue.field usage "outputBytes".toList) = true ∧
      isSafeCount (JsValue.field usage "toolPayloadBytes".toList) = true := by
  have hzero : isSafeCount (writeCount 0) = true := by
    rw [isSafeCount_writeCount]
    decide
  have hkeys : isAgentByteLedger (legacyLedgerDocument usage) =
      (isText (.str agentByteLedgerVersion) agentByteLedgerVersion &&
        [JsValue.field usage "inputBytes".toList, JsValue.field usage "outputBytes".toList,
          JsValue.field usage "toolPayloadBytes".toList, writeCount 0, writeCount 0,
          writeCount 0, writeCount 0, writeCount 0, writeCount 0, writeCount 0, writeCount 0,
          writeCount 0].all isSafeCount) := rfl
  rw [hkeys, isText_iff.mpr rfl]
  simp [hzero]

theorem countIn_of_field {fields : Fields} {key : String} {n : Nat}
    (h : JsValue.field fields key.toList = writeCount n) : countIn (.obj fields) key = n := by
  rw [countIn, subfield, h, recovers_count]
  rfl

theorem checkLedger_legacy (h : IsMigrated usage pair) :
    checkLedger (pairDocument pair) (legacyLedgerDocument pair.2) = .ok () ↔
      isSafeCount (JsValue.field usage "inputBytes".toList) = true ∧
        isSafeCount (JsValue.field usage "outputBytes".toList) = true := by
  have hpolicy : subfield (pairDocument pair) "policy".toList = .obj pair.1 := rfl
  have hpresent : (legacyLedgerDocument pair.2).isNullish = false := rfl
  have hzero : isSafeCount (writeCount 0) = true := by
    rw [isSafeCount_writeCount]
    decide
  rw [checkLedger, hpresent, hpolicy, isBudgetV1_of_version h.current.version]
  simp only [Bool.false_eq_true, if_false, bind_eq_ok, require_eq_ok, isAgentByteLedger_legacy,
    parseBudgetSnapshot_current h.current, Except.ok.injEq, exists_const, exists_eq_left']
  rw [h.inputBytes, h.outputBytes, h.toolPayloadBytes]
  constructor
  · rintro ⟨⟨hinput, -, houtput⟩, -⟩
    exact ⟨hinput, houtput⟩
  · rintro ⟨hinput, houtput⟩
    obtain ⟨input, hinputCount⟩ := exists_count_of_isSafeCount hinput
    obtain ⟨output, houtputCount⟩ := exists_count_of_isSafeCount houtput
    have hcarryInput : chargedInputIn (legacyLedgerDocument pair.2) = input := by
      have hcarry : countIn (legacyLedgerDocument pair.2) "legacyInputBytes" = input :=
        countIn_of_field (h.inputBytes.trans hinputCount)
      rw [chargedInputIn, hcarry, legacyLedgerDocument, countIn_of_field (n := 0) rfl, Nat.add_zero]
    have hcarryOutput : chargedOutputIn (legacyLedgerDocument pair.2) = 0 := by
      have hcarry : countIn (legacyLedgerDocument pair.2) "legacyOutputBytes" = 0 :=
        countIn_of_field h.outputBytes
      rw [chargedOutputIn, hcarry, legacyLedgerDocument, countIn_of_field (n := 0) rfl,
        countIn_of_field (n := 0) rfl]
    have hcarryPayload : chargedToolPayloadIn (legacyLedgerDocument pair.2) = output := by
      have hcarry : countIn (legacyLedgerDocument pair.2) "legacyToolPayloadBytes" = output :=
        countIn_of_field (h.toolPayloadBytes.trans houtputCount)
      rw [chargedToolPayloadIn, hcarry, legacyLedgerDocument, countIn_of_field (n := 0) rfl,
        Nat.add_zero]
    refine ⟨⟨hinput, hzero, houtput⟩, ?_, ?_, ?_⟩
    · rw [hcarryInput, reconciles_of_field (h.inputBytes.trans hinputCount)]
      exact decide_eq_true rfl
    · rw [hcarryOutput, reconciles_of_field h.outputBytes]
      exact decide_eq_true rfl
    · rw [hcarryPayload, reconciles_of_field (h.toolPayloadBytes.trans houtputCount)]
      exact decide_eq_true rfl

theorem checkLedger_congr {budget other ledger : JsValue}
    (hversion : isBudgetV1 (subfield budget "policy".toList) =
      isBudgetV1 (subfield other "policy".toList))
    (hparse : parseBudgetSnapshot "state" budget = parseBudgetSnapshot "state" other) :
    checkLedger budget ledger = checkLedger other ledger := by
  rw [checkLedger, checkLedger, hversion, hparse]

end Ledgers

section States

variable {value state : Fields} {pair : Fields × Fields}

def budgetOf (value : Fields) : JsValue := JsValue.field value "budget".toList

/-- The state that the parser returns: the pair for the budget, and for a migrated one the carry for
the ledger. -/
def parsedState (value : Fields) (pair : Fields × Fields) : Fields :=
  if isBudgetV1 (subfield (budgetOf value) "policy".toList) then
    mapSet "byteLedger".toList (legacyLedgerDocument pair.2)
      (mapSet "budget".toList (pairDocument pair) value)
  else mapSet "budget".toList (pairDocument pair) value

theorem parseRuntimeState_iff : parseRuntimeState (.obj value) = .ok state ↔
    checkState value = .ok () ∧
      checkLedger (budgetOf value) (JsValue.field value "byteLedger".toList) = .ok () ∧
      checkLists value = .ok () ∧
      ∃ pair, parseBudgetSnapshot "state" (budgetOf value) = .ok pair ∧
        state = parsedState value pair := by
  rw [parseRuntimeState]
  simp only [bind_eq_ok, Except.ok.injEq]
  constructor
  · rintro ⟨_, hstate, _, hledger, _, hlists, pair, hpair, hresult⟩
    exact ⟨hstate, hledger, hlists, pair, hpair, hresult.symm⟩
  · rintro ⟨hstate, hledger, hlists, pair, hpair, hresult⟩
    exact ⟨(), hstate, (), hledger, (), hlists, pair, hpair, hresult.symm⟩

theorem checkState_mapSet {key : JsString} {v : JsValue}
    (hkey : key = "budget".toList ∨ key = "byteLedger".toList) :
    checkState (mapSet key v value) = checkState value := by
  rcases hkey with rfl | rfl
  · simp (disch := decide) only [checkState, field_mapSet_of_ne]
  · simp (disch := decide) only [checkState, field_mapSet_of_ne]

theorem checkLists_mapSet {key : JsString} {v : JsValue}
    (hkey : key = "budget".toList ∨ key = "byteLedger".toList) :
    checkLists (mapSet key v value) = checkLists value := by
  rcases hkey with rfl | rfl
  · simp (disch := decide) only [checkLists, field_mapSet_of_ne]
  · simp (disch := decide) only [checkLists, field_mapSet_of_ne]

theorem isBudgetV1_pairDocument (h : IsCurrent pair) :
    isBudgetV1 (subfield (pairDocument pair) "policy".toList) = false :=
  isBudgetV1_of_version h.version

theorem parseRuntimeState_of_current (hbudget : budgetOf state = pairDocument pair)
    (hcurrent : IsCurrent pair) : parseRuntimeState (.obj state) = .ok state ↔
      checkState state = .ok () ∧
        checkLedger (pairDocument pair) (JsValue.field state "byteLedger".toList) = .ok () ∧
        checkLists state = .ok () := by
  have hlookup : state.lookup "budget".toList = some (pairDocument pair) := by
    rw [budgetOf, JsValue.field] at hbudget
    rcases hstate : state.lookup "budget".toList with _ | budget
    · rw [hstate] at hbudget
      contradiction
    · rw [hstate, Option.getD_some] at hbudget
      rw [hbudget]
  have hkept : parsedState state pair = state := by
    rw [parsedState, hbudget, isBudgetV1_pairDocument hcurrent, if_neg (by decide),
      mapSet_of_lookup hlookup]
  rw [parseRuntimeState_iff, hbudget, parseBudgetSnapshot_current hcurrent]
  simp only [Except.ok.injEq, exists_eq_left', hkept, and_true]

theorem reparse_current {policy : Fields}
    (hpolicy : subfield (budgetOf value) "policy".toList = .obj policy)
    (hv1 : isBudgetV1 (.obj policy) = false) (hcurrent : IsCurrent pair)
    (hpair : parseBudgetSnapshot "state" (budgetOf value) = .ok pair)
    (hstate : checkState value = .ok ())
    (hledger : checkLedger (budgetOf value) (JsValue.field value "byteLedger".toList) = .ok ())
    (hlists : checkLists value = .ok ()) :
    parseRuntimeState (.obj (parsedState value pair)) = .ok (parsedState value pair) := by
  have hparsed : parsedState value pair = mapSet "budget".toList (pairDocument pair) value := by
    rw [parsedState, hpolicy, hv1, if_neg (by decide)]
  rw [hparsed, parseRuntimeState_of_current field_mapSet hcurrent,
    checkState_mapSet (.inl rfl), checkLists_mapSet (.inl rfl), field_mapSet_of_ne (by decide)]
  refine ⟨hstate, ?_, hlists⟩
  have hsame : checkLedger (pairDocument pair) (JsValue.field value "byteLedger".toList) =
      checkLedger (budgetOf value) (JsValue.field value "byteLedger".toList) := by
    apply checkLedger_congr
    · rw [isBudgetV1_pairDocument hcurrent, hpolicy, hv1]
    · rw [parseBudgetSnapshot_current hcurrent, hpair]
  rw [hsame, hledger]

theorem reparse_migrated {policy usage : Fields}
    (hpolicy : subfield (budgetOf value) "policy".toList = .obj policy)
    (hv1 : isBudgetV1 (.obj policy) = true) (hmigrated : IsMigrated usage pair)
    (hstate : checkState value = .ok ()) (hlists : checkLists value = .ok ()) :
    parseRuntimeState (.obj (parsedState value pair)) = .ok (parsedState value pair) ↔
      isSafeCount (JsValue.field usage "inputBytes".toList) = true ∧
        isSafeCount (JsValue.field usage "outputBytes".toList) = true := by
  have hparsed : parsedState value pair = mapSet "byteLedger".toList
      (legacyLedgerDocument pair.2) (mapSet "budget".toList (pairDocument pair) value) := by
    rw [parsedState, hpolicy, hv1, if_pos rfl]
  have hbudget : budgetOf (mapSet "byteLedger".toList (legacyLedgerDocument pair.2)
      (mapSet "budget".toList (pairDocument pair) value)) = pairDocument pair := by
    rw [budgetOf, field_mapSet_of_ne (by decide), field_mapSet]
  rw [hparsed, parseRuntimeState_of_current hbudget hmigrated.current,
    checkState_mapSet (.inr rfl), checkState_mapSet (.inl rfl), checkLists_mapSet (.inr rfl),
    checkLists_mapSet (.inl rfl), field_mapSet, checkLedger_legacy hmigrated, hstate, hlists]
  simp only [true_and, and_true]

end States

section Documents

variable {rt : Runtime} {parsed : ParsedCheckpoint}

theorem parseCheckpoint_eq_ok {doc : Fields} (h : parseCheckpoint rt (.obj doc) = .ok parsed) :
    parsed.campaignId ≠ [] ∧ parsed.resumeCursor ≠ [] ∧
      (∃ value, JsValue.field doc "state".toList = .obj value ∧
        parseRuntimeState (.obj value) = .ok parsed.state) ∧
      textOf (JsValue.field parsed.state "campaignId".toList) = parsed.campaignId ∧
      includes parsed.resumeCursor turnMarker = true ∧
      assertCheckpointHasNoSecrets (rt.jsonStringify parsed.document) = .ok () := by
  have hnonempty : ∀ {v : JsValue}, isNonEmptyString v = true → textOf v ≠ [] := by
    intro v hv
    cases v with
    | str s =>
        intro hs
        have hempty : s = [] := hs
        rw [hempty] at hv
        contradiction
    | _ => contradiction
  rw [parseCheckpoint] at h
  simp only [bind_eq_ok, require_eq_ok] at h
  obtain ⟨_, -, _, hcampaign, _, hcursor, state, hstate, h⟩ := h
  split at h
  · contradiction
  · rename_i hsame
    simp only [bind_eq_ok, require_eq_ok, Except.ok.injEq] at h
    obtain ⟨_, hmarker, _, hsecrets, rfl⟩ := h
    refine ⟨hnonempty hcampaign, hnonempty hcursor, ?_, not_not.mp hsame, hmarker, hsecrets⟩
    cases hvalue : JsValue.field doc "state".toList with
    | obj value =>
        rw [hvalue] at hstate
        exact ⟨value, rfl, hstate⟩
    | _ =>
        rw [hvalue] at hstate
        contradiction

theorem parseCheckpoint_document {doc : Fields} (h : parseCheckpoint rt (.obj doc) = .ok parsed) :
    parseCheckpoint rt parsed.document = .ok parsed ↔
      parseRuntimeState (.obj parsed.state) = .ok parsed.state := by
  obtain ⟨hcampaign, hcursor, -, hsame, hmarker, hsecrets⟩ := parseCheckpoint_eq_ok h
  constructor
  · intro hagain
    obtain ⟨-, -, ⟨value, hvalue, hstate⟩, -⟩ := parseCheckpoint_eq_ok hagain
    have heq : value = parsed.state := (JsValue.obj.inj hvalue).symm
    rw [heq] at hstate
    exact hstate
  · intro hstate
    have hnonempty : ∀ {s : JsString}, s ≠ [] → isNonEmptyString (.str s) = true := by
      intro s hs
      cases s with
      | nil => contradiction
      | cons c rest => rfl
    have hagain : parseCheckpoint rt parsed.document = (do
        requireVersion "checkpoint".toList (.str agentCheckpointVersion) agentCheckpointVersion
        require (isNonEmptyString (.str parsed.campaignId)) "checkpoint campaignId is invalid"
        require (isNonEmptyString (.str parsed.resumeCursor)) "checkpoint resumeCursor is invalid"
        let state ← parseRuntimeState (.obj parsed.state)
        let again : ParsedCheckpoint := ⟨parsed.campaignId, state, parsed.resumeCursor⟩
        if textOf (JsValue.field state "campaignId".toList) ≠ again.campaignId then
          .error ⟨.campaignMismatch, "checkpoint state belongs to another campaign".toList⟩
        else do
          require (includes again.resumeCursor turnMarker) "checkpoint resumeCursor is malformed"
          assertCheckpointHasNoSecrets (rt.jsonStringify again.document)
          .ok again) := rfl
    rw [hagain, requireVersion_same, hnonempty hcampaign, hnonempty hcursor, hstate]
    simp only [bind_eq_ok, require_eq_ok, Except.ok.injEq]
    refine ⟨(), trivial, (), trivial, (), trivial, parsed.state, rfl, ?_⟩
    rw [if_neg (not_not.mpr hsame)]
    simp only [bind_eq_ok, require_eq_ok]
    exact ⟨(), hmarker, (), hsecrets, trivial⟩

end Documents

section Charges

def policyOf (state : JsValue) : JsValue :=
  subfield (subfield state "budget".toList) "policy".toList

def usageOf (state : JsValue) (key : String) : JsValue :=
  subfield (subfield (subfield state "budget".toList) "usage".toList) key.toList

def ledgerOf (state : JsValue) (key : String) : JsValue :=
  subfield (subfield state "byteLedger".toList) key.toList

/-- The totals of a v1 budget reappear once each: in the usage and, as the only charged bytes
there, in the carry of the ledger. -/
structure MovesCharges (before after : JsValue) : Prop where
  inputBytes : usageOf after "inputBytes" = usageOf before "inputBytes"
  outputBytes : usageOf after "outputBytes" = writeCount 0
  toolPayloadBytes : usageOf after "toolPayloadBytes" = usageOf before "outputBytes"
  inputCarry : ledgerOf after "legacyInputBytes" = usageOf before "inputBytes"
  outputCarry : ledgerOf after "legacyOutputBytes" = writeCount 0
  toolPayloadCarry : ledgerOf after "legacyToolPayloadBytes" = usageOf before "outputBytes"
  others : ∀ key ∈ ["renderedInputBytes", "providerResponseBytes", "providerStderrBytes",
    "toolResultBytes"], ledgerOf after key = writeCount 0

/-- A current budget keeps its totals, and the ledger stays as it was. -/
structure KeepsCharges (before after : JsValue) : Prop where
  usage : ∀ key ∈ ["inputBytes", "outputBytes", "toolPayloadBytes"],
    usageOf after key = usageOf before key
  ledger : subfield after "byteLedger".toList = subfield before "byteLedger".toList

def Conserves (before after : JsValue) : Prop :=
  if isBudgetV1 (policyOf before) then MovesCharges before after else KeepsCharges before after

variable {value usage : Fields} {pair : Fields × Fields}

theorem conserves_migrated {policy : Fields}
    (hpolicy : subfield (budgetOf value) "policy".toList = .obj policy)
    (husage : subfield (budgetOf value) "usage".toList = .obj usage)
    (hv1 : isBudgetV1 (.obj policy) = true) (h : IsMigrated usage pair) :
    Conserves (.obj value) (.obj (parsedState value pair)) := by
  have hbefore : isBudgetV1 (policyOf (.obj value)) = true := by
    rw [← hv1, ← hpolicy]
    rfl
  have hparsed : parsedState value pair = mapSet "byteLedger".toList
      (legacyLedgerDocument pair.2) (mapSet "budget".toList (pairDocument pair) value) := by
    rw [parsedState, hpolicy, hv1, if_pos rfl]
  have hused : ∀ key, usageOf (.obj value) key = JsValue.field usage key.toList := by
    intro key
    change subfield (subfield (budgetOf value) "usage".toList) key.toList = _
    rw [husage]
    rfl
  have hafter : ∀ key, usageOf (.obj (parsedState value pair)) key =
      JsValue.field pair.2 key.toList := by
    intro key
    rw [usageOf, hparsed, subfield, field_mapSet_of_ne (by decide), field_mapSet]
    rfl
  have hledger : ∀ key, ledgerOf (.obj (parsedState value pair)) key =
      subfield (legacyLedgerDocument pair.2) key.toList := by
    intro key
    rw [ledgerOf, hparsed, subfield, field_mapSet]
  rw [Conserves, if_pos hbefore]
  refine ⟨?_, ?_, ?_, ?_, ?_, ?_, ?_⟩
  · rw [hafter, hused, h.inputBytes]
  · rw [hafter, h.outputBytes]
  · rw [hafter, hused, h.toolPayloadBytes]
  · rw [hledger, hused]
    exact h.inputBytes
  · rw [hledger]
    exact h.outputBytes
  · rw [hledger, hused]
    exact h.toolPayloadBytes
  · intro key hkey
    rw [hledger]
    simp only [List.mem_cons, List.not_mem_nil, or_false] at hkey
    rcases hkey with rfl | rfl | rfl | rfl
    · rfl
    · rfl
    · rfl
    · rfl

theorem conserves_current {policy : Fields}
    (hpolicy : subfield (budgetOf value) "policy".toList = .obj policy)
    (husage : subfield (budgetOf value) "usage".toList = .obj usage)
    (hv1 : isBudgetV1 (.obj policy) = false) : Conserves (.obj value) (.obj (parsedState value
      (normalizeBudgetFailureField policy, normalizeBudgetFailureField usage))) := by
  have hbefore : isBudgetV1 (policyOf (.obj value)) = false := by
    rw [← hv1, ← hpolicy]
    rfl
  rw [Conserves, hbefore, if_neg (by decide), parsedState, hpolicy, hv1, if_neg (by decide)]
  constructor
  · intro key hkey
    have hne : key.toList ≠ "retries".toList ∧ key.toList ≠ "failures".toList := by
      simp only [List.mem_cons, List.not_mem_nil, or_false] at hkey
      rcases hkey with rfl | rfl | rfl
      · decide
      · decide
      · decide
    have hused : usageOf (.obj value) key = JsValue.field usage key.toList := by
      change subfield (subfield (budgetOf value) "usage".toList) key.toList = _
      rw [husage]
      rfl
    rw [usageOf, subfield, field_mapSet, hused, ← field_normalized_of_ne hne.1 hne.2]
    rfl
  · rw [subfield, field_mapSet_of_ne (by decide)]
    rfl

end Charges

section Main

variable (rt : Runtime)

/-- What the parser accepts is parsed to itself, with its charges conserved, if and only if a v1
budget, where there is one, has totals that a ledger can carry. -/
theorem parsed_checkpoint_reparses_iff (doc : JsValue) (parsed : ParsedCheckpoint)
    (h : parseCheckpoint rt doc = .ok parsed) :
    (parseCheckpoint rt parsed.document = .ok parsed ∧
        Conserves (subfield doc "state".toList) (.obj parsed.state)) ↔
      (isBudgetV1 (policyOf (subfield doc "state".toList)) = true →
        isSafeCount (usageOf (subfield doc "state".toList) "inputBytes") = true ∧
          isSafeCount (usageOf (subfield doc "state".toList) "outputBytes") = true) := by
  cases doc with
  | obj fields =>
      obtain ⟨-, -, ⟨value, hvalue, hparse⟩, -⟩ := parseCheckpoint_eq_ok h
      have hstateOf : subfield (.obj fields) "state".toList = .obj value := hvalue
      obtain ⟨hstate, hledger, hlists, pair, hpair, hresult⟩ := parseRuntimeState_iff.mp hparse
      rw [parseCheckpoint_document h, hstateOf, hresult]
      rcases reads_of_parseBudgetSnapshot hpair with
        ⟨hpolicy, husage, hv1, hmigrated⟩ | ⟨hpolicy, husage, hv1, hcurrent, rfl⟩
      · have hbefore : isBudgetV1 (policyOf (.obj value)) = true := by
          rw [← hv1, ← hpolicy]
          rfl
        have hused : ∀ key, usageOf (.obj value) key = subfield (subfield (budgetOf value)
            "usage".toList) key.toList := fun _ => rfl
        rw [reparse_migrated hpolicy hv1 hmigrated hstate hlists, hbefore, hused, hused, husage]
        constructor
        · rintro ⟨hsafe, -⟩ -
          exact hsafe
        · intro hsafe
          exact ⟨hsafe rfl, conserves_migrated hpolicy husage hv1 hmigrated⟩
      · have hbefore : isBudgetV1 (policyOf (.obj value)) = false := by
          rw [← hv1, ← hpolicy]
          rfl
        constructor
        · intro _ hcontra
          rw [hbefore] at hcontra
          contradiction
        · intro _
          exact ⟨reparse_current hpolicy hv1 hcurrent hpair hstate hledger hlists,
            conserves_current hpolicy husage hv1⟩
  | _ => contradiction

def sampleDocument (inputBytes outputBytes : ℚ) : JsValue :=
  .obj [("schemaVersion".toList, .str agentCheckpointVersion),
    ("campaignId".toList, .str "camp".toList),
    ("state".toList, .obj [("schemaVersion".toList, .str agentRuntimeStateVersion),
      ("campaignId".toList, .str "camp".toList), ("status".toList, .str "PAUSED".toList),
      ("phase".toList, .str "PLAN".toList), ("hypotheses".toList, .arr []),
      ("actionLog".toList, .arr []),
      ("budget".toList, .obj [
        ("policy".toList, .obj (("schemaVersion".toList, .str agentBudgetVersionV1) ::
          ("ceilingName".toList, .str "HOUR_1".toList) ::
            v1PolicyKeys.map fun key => (key.toList, writeCount 9))),
        ("usage".toList, .obj (("inputBytes".toList, .num (.finite inputBytes)) ::
          ("outputBytes".toList, .num (.finite outputBytes)) ::
            (v1UsageKeys.filter fun key => key ≠ "inputBytes" ∧ key ≠ "outputBytes").map
              fun key => (key.toList, writeCount 0)))]),
      ("evidenceRefs".toList, .arr []), ("candidateIds".toList, .arr []),
      ("terminationReason".toList, .null)]),
    ("resumeCursor".toList, .str "camp:turn:1".toList)]

def refusalOf (result : Parsed ParsedCheckpoint) : Option AgentCheckpointError :=
  match result with
  | .ok _ => none
  | .error e => some e

theorem halfByte_refused : ∃ parsed,
    parseCheckpoint plainRuntime (sampleDocument (1 / 2) 7) = .ok parsed ∧
      parseCheckpoint plainRuntime parsed.document =
        .error ⟨.corrupt, "state.byteLedger is invalid".toList⟩ := by
  have hrefusal : (parseCheckpoint plainRuntime (sampleDocument (1 / 2) 7)).toOption.bind
      (fun parsed => refusalOf (parseCheckpoint plainRuntime parsed.document)) =
        some ⟨.corrupt, "state.byteLedger is invalid".toList⟩ := by
    decide +kernel
  cases hparsed : parseCheckpoint plainRuntime (sampleDocument (1 / 2) 7) with
  | error e =>
      rw [hparsed] at hrefusal
      contradiction
  | ok parsed =>
      rw [hparsed] at hrefusal
      change refusalOf (parseCheckpoint plainRuntime parsed.document) = _ at hrefusal
      refine ⟨parsed, rfl, ?_⟩
      cases hresult : parseCheckpoint plainRuntime parsed.document with
      | ok found =>
          rw [hresult] at hrefusal
          contradiction
      | error e =>
          rw [hresult] at hrefusal
          rw [Option.some.inj hrefusal]

theorem parsed_checkpoint_reparses_iff_halfByte :
    ∃ parsed, parseCheckpoint plainRuntime (sampleDocument (1 / 2) 7) = .ok parsed ∧
      ((parseCheckpoint plainRuntime parsed.document = .ok parsed ∧
          Conserves (subfield (sampleDocument (1 / 2) 7) "state".toList) (.obj parsed.state)) ↔
        (isBudgetV1 (policyOf (subfield (sampleDocument (1 / 2) 7) "state".toList)) = true →
          isSafeCount (usageOf (subfield (sampleDocument (1 / 2) 7) "state".toList)
              "inputBytes") = true ∧
            isSafeCount (usageOf (subfield (sampleDocument (1 / 2) 7) "state".toList)
              "outputBytes") = true)) := by
  obtain ⟨parsed, hparsed, -⟩ := halfByte_refused
  exact ⟨parsed, hparsed, parsed_checkpoint_reparses_iff plainRuntime _ parsed hparsed⟩

theorem accepted_checkpoint_is_refused_again :
    ∃ parsed, parseCheckpoint plainRuntime (sampleDocument (1 / 2) 7) = .ok parsed ∧
      ¬ parseCheckpoint plainRuntime parsed.document = .ok parsed := by
  obtain ⟨parsed, hparsed, hrefused⟩ := halfByte_refused
  refine ⟨parsed, hparsed, ?_⟩
  rw [hrefused]
  intro h
  contradiction

end Main

end NightWatch.AgentRuntime.Reparsing
