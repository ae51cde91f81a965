import NightWatch.Lib.Guard
import NightWatch.Lib.JsData
import NightWatch.Lib.Machine

/-!
The bounded budget of a campaign: what one manager has spent of each dimension, and the
reservations that either spend or throw.
-/

namespace NightWatch.Campaign.Budget

open Lib.JsText Lib.JsData Lib.Guard Lib.Machine

inductive BudgetDimension where
  | browserContexts
  | journeyContexts
  | explorationContexts
  | apiExecutions
  | replays
  | minimizationCandidates
  | totalActions
  | privateEvidenceBytes
  deriving DecidableEq

def budgetDimensions : List BudgetDimension :=
  [.browserContexts, .journeyContexts, .explorationContexts, .apiExecutions, .replays,
    .minimizationCandidates, .totalActions, .privateEvidenceBytes]

theorem mem_budgetDimensions (d : BudgetDimension) : d ∈ budgetDimensions := by
  cases d <;> decide

structure CampaignBudgetPolicy where
  policyVersion : JsString
  maxTotalBrowserContexts : JsNumber
  maxJourneyContexts : JsNumber
  maxExplorationContexts : JsNumber
  maxApiExecutions : JsNumber
  maxReplays : JsNumber
  maxMinimizationCandidates : JsNumber
  maxTotalActions : JsNumber
  maxRuntimeMs : JsNumber
  maxPerTestTimeoutMs : JsNumber
  maxPromotedClusters : JsNumber
  maxPrivateEvidenceBytes : JsNumber

def campaignBudgetPolicyVersion : JsString := "nightwatch.campaign-budget.private.v1".toList

def limitFor (policy : CampaignBudgetPolicy) : BudgetDimension → JsNumber
  | .browserContexts => policy.maxTotalBrowserContexts
  | .journeyContexts => policy.maxJourneyContexts
  | .explorationContexts => policy.maxExplorationContexts
  | .apiExecutions => policy.maxApiExecutions
  | .replays => policy.maxReplays
  | .minimizationCandidates => policy.maxMinimizationCandidates
  | .totalActions => policy.maxTotalActions
  | .privateEvidenceBytes => policy.maxPrivateEvidenceBytes

def CampaignBudgetPolicy.numbers (policy : CampaignBudgetPolicy) : List JsNumber :=
  [policy.maxTotalBrowserContexts, policy.maxJourneyContexts, policy.maxExplorationContexts,
    policy.maxApiExecutions, policy.maxReplays, policy.maxMinimizationCandidates,
    policy.maxTotalActions, policy.maxRuntimeMs, policy.maxPerTestTimeoutMs,
    policy.maxPromotedClusters, policy.maxPrivateEvidenceBytes]

inductive BudgetError where
  | policyVersionInvalid
  | valueInvalid
  | browserContextBudgetInvalid
  | timeBudgetInvalid
  | clusterPolicyExceeded
  | replayReserveInvalid
  | usageInvalid (dimension : BudgetDimension)
  | alreadyExceeded (dimension : BudgetDimension)
  | amountInvalid
  | exhausted (dimension : BudgetDimension)

/-- `a + b` for counters; sums are exact. -/
def plus : JsNumber → JsNumber → JsNumber
  | .finite a, .finite b => .finite (a + b)
  | a, b => JsNumber.add a b

def isCount (n : JsNumber) : Bool := n.isInteger && !n.lt (.ofNat 0)

/-- `if (condition) throw`. -/
def throwIf (condition : Bool) (e : BudgetError) : Except BudgetError Unit :=
  if condition then .error e else .ok ()

theorem throwIf_eq_ok {condition : Bool} {e : BudgetError} :
    throwIf condition e = .ok () ↔ condition = false := by
  cases condition <;> simp [throwIf]

def validateBudgetPolicy (policy : CampaignBudgetPolicy) : Except BudgetError Unit := do
  throwIf (policy.policyVersion ≠ campaignBudgetPolicyVersion) .policyVersionInvalid
  throwIf (policy.numbers.any fun n => !isCount n) .valueInvalid
  throwIf (policy.maxTotalBrowserContexts.lt
    (plus policy.maxJourneyContexts policy.maxExplorationContexts)) .browserContextBudgetInvalid
  throwIf (policy.maxRuntimeMs.lt policy.maxPerTestTimeoutMs) .timeBudgetInvalid
  throwIf ((JsNumber.ofNat 3).lt policy.maxPromotedClusters) .clusterPolicyExceeded

abbrev CampaignBudgetUsage : Type := BudgetDimension → JsNumber

structure CampaignBudgetManager where
  policy : CampaignBudgetPolicy
  protectedReplayBrowserContexts : JsNumber
  usage : CampaignBudgetUsage

/-- `a - b` for counters. -/
def minus : JsNumber → JsNumber → JsNumber
  | .finite a, .finite b => .finite (a - b)
  | a, b => JsNumber.sub a b

def CampaignBudgetManager.collectionBrowserContextLimit (m : CampaignBudgetManager) : JsNumber :=
  minus m.policy.maxTotalBrowserContexts m.protectedReplayBrowserContexts

def assertWithinLimits (policy : CampaignBudgetPolicy) (usage : CampaignBudgetUsage) :
    Except BudgetError Unit :=
  forEach (fun d => do
    throwIf (!isCount (usage d)) (.usageInvalid d)
    throwIf ((limitFor policy d).lt (usage d)) (.alreadyExceeded d)) budgetDimensions

/-- `new CampaignBudgetManager(policy, initial, { protectedReplayBrowserContexts })`. -/
def construct (policy : CampaignBudgetPolicy) (initial : CampaignBudgetUsage)
    (protectedReplayBrowserContexts : JsNumber) : Except BudgetError CampaignBudgetManager := do
  validateBudgetPolicy policy
  throwIf (!isCount protectedReplayBrowserContexts ||
    policy.maxTotalBrowserContexts.lt protectedReplayBrowserContexts) .replayReserveInvalid
  assertWithinLimits policy initial
  .ok ⟨policy, protectedReplayBrowserContexts, initial⟩

/-- `a <= b`. -/
def atMost (a b : JsNumber) : Bool := b.ge a

def CampaignBudgetManager.canConsume (m : CampaignBudgetManager) (d : BudgetDimension)
    (amount : JsNumber) : Bool := atMost (plus (m.usage d) amount) (limitFor m.policy d)

structure Requirements where
  entries : List (BudgetDimension × JsNumber)
  nodup : (entries.map Prod.fst).Nodup

def Requirements.amountOf (r : Requirements) (d : BudgetDimension) : JsNumber :=
  (r.entries.lookup d).getD (.ofNat 0)

/-- The loop of `consumeBundle`, with the usage it has built so far. -/
def CampaignBudgetManager.accumulate (m : CampaignBudgetManager) :
    CampaignBudgetUsage → List (BudgetDimension × JsNumber) → Except BudgetError CampaignBudgetUsage
  | next, [] => .ok next
  | next, (d, amount) :: rest =>
      if !isCount amount then .error .amountInvalid
      else if m.canConsume d amount then
        m.accumulate (Function.update next d (plus (next d) amount)) rest
      else .error (.exhausted d)

abbrev Outcome : Type := Except BudgetError Unit × CampaignBudgetManager

def CampaignBudgetManager.consumeBundle (m : CampaignBudgetManager) (r : Requirements) : Outcome :=
  match m.accumulate m.usage r.entries with
  | .ok next => (.ok (), { m with usage := next })
  | .error e => (.error e, m)

def only (d : BudgetDimension) (amount : JsNumber) : Requirements :=
  ⟨[(d, amount)], List.nodup_singleton d⟩

def CampaignBudgetManager.consume (m : CampaignBudgetManager) (d : BudgetDimension)
    (amount : JsNumber) : Outcome := m.consumeBundle (only d amount)

def CampaignBudgetManager.consumeCollectionBundle (m : CampaignBudgetManager) (r : Requirements) :
    Outcome :=
  let browserContexts := r.amountOf .browserContexts
  if !isCount browserContexts then (.error .amountInvalid, m)
  else if m.collectionBrowserContextLimit.lt (plus (m.usage .browserContexts) browserContexts) then
    (.error (.exhausted .browserContexts), m)
  else m.consumeBundle r

inductive CampaignWorkKind where
  | journey
  | api
  | exploration
  | reproduction
  | minimization
  deriving DecidableEq

def one : JsNumber := .ofNat 1

def workEntries : CampaignWorkKind → List (BudgetDimension × JsNumber)
  | .journey => [(.browserContexts, one), (.journeyContexts, one)]
  | .exploration => [(.browserContexts, one), (.explorationContexts, one)]
  | .api => [(.apiExecutions, one)]
  | .reproduction => [(.replays, one)]
  | .minimization => [(.minimizationCandidates, one)]

/-- `requirements.replays = (requirements.replays ?? 0) + 1`, but for minimization. -/
def replayEntries (kind : CampaignWorkKind) (replay : Bool) : List (BudgetDimension × JsNumber) :=
  if replay && kind ≠ .minimization then
    mapSet .replays (plus (((workEntries kind).lookup .replays).getD (.ofNat 0)) one)
      (workEntries kind)
  else workEntries kind

theorem nodup_replayEntries (kind : CampaignWorkKind) (replay : Bool) :
    ((replayEntries kind replay).map Prod.fst).Nodup := by
  cases kind <;> cases replay <;> decide

def workRequirements (kind : CampaignWorkKind) (replay : Bool) : Requirements :=
  ⟨replayEntries kind replay, nodup_replayEntries kind replay⟩

def collects (kind : CampaignWorkKind) : Bool := kind = .journey || kind = .exploration

def CampaignBudgetManager.reserveWork (m : CampaignBudgetManager) (kind : CampaignWorkKind)
    (replay : Bool) : Outcome :=
  if collects kind then m.consumeCollectionBundle (workRequirements kind replay)
  else m.consumeBundle (workRequirements kind replay)

theorem nodup_firstPlusApi : ([(BudgetDimension.apiExecutions, JsNumber.ofNat 2),
    (.replays, one)].map Prod.fst).Nodup := by decide

def CampaignBudgetManager.reserveFirstPlusApi (m : CampaignBudgetManager) : Outcome :=
  m.consumeBundle ⟨[(.apiExecutions, .ofNat 2), (.replays, one)], nodup_firstPlusApi⟩

def CampaignBudgetManager.addActions (m : CampaignBudgetManager) (amount : JsNumber) : Outcome :=
  m.consume .totalActions amount

def CampaignBudgetManager.addEvidenceBytes (m : CampaignBudgetManager) (amount : JsNumber) :
    Outcome := m.consume .privateEvidenceBytes amount

inductive Call where
  | reserveWork (kind : CampaignWorkKind) (replay : Bool)
  | reserveFirstPlusApi
  | consume (d : BudgetDimension) (amount : JsNumber)
  | consumeBundle (r : Requirements)
  | addActions (amount : JsNumber)
  | addEvidenceBytes (amount : JsNumber)

def perform (m : CampaignBudgetManager) : Call → Outcome
  | .reserveWork kind replay => m.reserveWork kind replay
  | .reserveFirstPlusApi => m.reserveFirstPlusApi
  | .consume d amount => m.consume d amount
  | .consumeBundle r => m.consumeBundle r
  | .addActions amount => m.addActions amount
  | .addEvidenceBytes amount => m.addEvidenceBytes amount

def managerSystem (start : CampaignBudgetManager) :
    System CampaignBudgetManager (Call × Except BudgetError Unit) where
  start := start
  step m e m' := perform m e.1 = (e.2, m')

def Call.collects : Call → Bool
  | .reserveWork kind _ => Budget.collects kind
  | _ => false

theorem isCount_iff {n : JsNumber} : isCount n = true ↔ ∃ k : Nat, n = .ofNat k := by
  constructor
  · intro h
    rw [isCount, Bool.and_eq_true] at h
    obtain ⟨hwhole, hpositive⟩ := h
    cases n with
    | finite q =>
        have hden : q.den = 1 := by simpa [JsNumber.isInteger] using hwhole
        have hnonneg : 0 ≤ q := by
          simpa [JsNumber.lt, JsNumber.ofNat] using hpositive
        refine ⟨q.num.toNat, ?_⟩
        have hnum : (q.num.toNat : ℤ) = q.num := Int.toNat_of_nonneg (Rat.num_nonneg.mpr hnonneg)
        have hq : q = ((q.num.toNat : ℤ) : ℚ) := by
          rw [hnum]
          exact (Rat.den_eq_one_iff q).mp hden |>.symm
        exact congrArg JsNumber.finite hq
    | nan => contradiction
    | negInfinity => contradiction
    | posInfinity => contradiction
  · rintro ⟨k, rfl⟩
    simp [isCount, JsNumber.isInteger, JsNumber.lt, JsNumber.ofNat]

@[simp] theorem plus_ofNat (a b : Nat) : plus (.ofNat a) (.ofNat b) = .ofNat (a + b) :=
  congrArg JsNumber.finite (Nat.cast_add a b).symm

@[simp] theorem lt_ofNat (a b : Nat) : (JsNumber.ofNat a).lt (.ofNat b) = decide (a < b) :=
  decide_eq_decide.mpr Nat.cast_lt

@[simp] theorem atMost_ofNat (a b : Nat) : atMost (.ofNat a) (.ofNat b) = decide (a ≤ b) := by
  have hge : (JsNumber.ofNat b).ge (.ofNat a) = !(JsNumber.ofNat b).lt (.ofNat a) := rfl
  rw [atMost, hge, lt_ofNat, ← decide_not]
  exact decide_eq_decide.mpr Nat.not_lt

@[simp] theorem isCount_ofNat (n : Nat) : isCount (.ofNat n) = true := isCount_iff.mpr ⟨n, rfl⟩

theorem minus_ofNat {a b : Nat} (h : b ≤ a) : minus (.ofNat a) (.ofNat b) = .ofNat (a - b) :=
  congrArg JsNumber.finite (Nat.cast_sub h).symm

theorem limitFor_mem (policy : CampaignBudgetPolicy) (d : BudgetDimension) :
    limitFor policy d ∈ policy.numbers := by
  cases d <;> simp [limitFor, CampaignBudgetPolicy.numbers]

theorem isCount_of_validate {policy : CampaignBudgetPolicy}
    (h : validateBudgetPolicy policy = .ok ()) {n : JsNumber} (hn : n ∈ policy.numbers) :
    isCount n = true := by
  rw [validateBudgetPolicy, bind_eq_ok] at h
  obtain ⟨_, -, h⟩ := h
  rw [bind_eq_ok] at h
  obtain ⟨_, hvalues, -⟩ := h
  have hnone := throwIf_eq_ok.mp hvalues
  rw [List.any_eq_false] at hnone
  simpa using hnone n hn

/-- The usage as whole numbers, each within its limit. -/
structure Accounts (m : CampaignBudgetManager) (limit used : BudgetDimension → Nat) : Prop where
  limits : ∀ d, limitFor m.policy d = .ofNat (limit d)
  usage : ∀ d, m.usage d = .ofNat (used d)
  within : ∀ d, used d ≤ limit d

variable {m : CampaignBudgetManager} {entries : List (BudgetDimension × JsNumber)} {out : Outcome}

theorem accounts_of_construct {policy : CampaignBudgetPolicy} {initial : CampaignBudgetUsage}
    {reserve : JsNumber} (h : construct policy initial reserve = .ok m) :
    m = ⟨policy, reserve, initial⟩ ∧ (∃ limit used, Accounts m limit used) ∧
      ∃ kept total : Nat, reserve = .ofNat kept ∧
        policy.maxTotalBrowserContexts = .ofNat total ∧ kept ≤ total := by
  rw [construct, bind_eq_ok] at h
  obtain ⟨_, hpolicy, h⟩ := h
  rw [bind_eq_ok] at h
  obtain ⟨_, hreserve, h⟩ := h
  rw [bind_eq_ok] at h
  obtain ⟨_, husage, h⟩ := h
  have hm : m = ⟨policy, reserve, initial⟩ := (Except.ok.inj h).symm
  have hcount (n) (hn : n ∈ policy.numbers) : ∃ k : Nat, n = .ofNat k :=
    isCount_iff.mp (isCount_of_validate hpolicy hn)
  have hlimits (d) : ∃ k : Nat, limitFor policy d = .ofNat k := hcount _ (limitFor_mem policy d)
  choose limit hlimit using hlimits
  have hinitial (d) : ∃ k : Nat, initial d = .ofNat k ∧ k ≤ limit d := by
    have hd := forEach_eq_ok.mp husage d (mem_budgetDimensions d)
    rw [bind_eq_ok] at hd
    obtain ⟨_, hwhole, hwithin⟩ := hd
    obtain ⟨k, hk⟩ := isCount_iff.mp (by simpa using throwIf_eq_ok.mp hwhole)
    have hle := throwIf_eq_ok.mp hwithin
    rw [hlimit, hk, lt_ofNat, decide_eq_false_iff_not] at hle
    exact ⟨k, hk, Nat.not_lt.mp hle⟩
  choose used hused hwithin using hinitial
  have hkept := throwIf_eq_ok.mp hreserve
  rw [Bool.or_eq_false_iff, Bool.not_eq_false'] at hkept
  obtain ⟨kept, rfl⟩ := isCount_iff.mp hkept.1
  have htotal : policy.maxTotalBrowserContexts = .ofNat (limit .browserContexts) :=
    hlimit .browserContexts
  have hle := hkept.2
  rw [htotal, lt_ofNat, decide_eq_false_iff_not] at hle
  subst hm
  exact ⟨rfl, ⟨limit, used, hlimit, hused, hwithin⟩, kept, _, rfl, htotal, Nat.not_lt.mp hle⟩

def spend : CampaignBudgetUsage → List (BudgetDimension × JsNumber) → CampaignBudgetUsage
  | next, [] => next
  | next, (d, amount) :: rest => spend (Function.update next d (plus (next d) amount)) rest

theorem spend_of_not_mem {d : BudgetDimension}
    (hd : d ∉ entries.map Prod.fst) (next : CampaignBudgetUsage) :
    spend next entries d = next d := by
  induction entries generalizing next with
  | nil => rfl
  | cons entry rest ih =>
      rw [List.map_cons, List.mem_cons, not_or] at hd
      rw [spend, ih hd.2, Function.update_of_ne hd.1]

theorem spend_of_mem {d : BudgetDimension} {amount : JsNumber}
    (hnodup : (entries.map Prod.fst).Nodup)
    (hd : (d, amount) ∈ entries) (next : CampaignBudgetUsage) :
    spend next entries d = plus (next d) amount := by
  induction entries generalizing next with
  | nil => contradiction
  | cons entry rest ih =>
      rw [List.map_cons, List.nodup_cons] at hnodup
      rw [spend]
      rcases List.mem_cons.mp hd with rfl | hrest
      · rw [spend_of_not_mem hnodup.1, Function.update_self]
      · have hne : d ≠ entry.1 :=
          fun heq => hnodup.1 (heq ▸ List.mem_map_of_mem (f := Prod.fst) hrest)
        rw [ih hnodup.2 hrest, Function.update_of_ne hne]

theorem accumulate_eq_ok {next final : CampaignBudgetUsage} :
    m.accumulate next entries = .ok final ↔
      (∀ entry ∈ entries, isCount entry.2 = true ∧ m.canConsume entry.1 entry.2 = true) ∧
        final = spend next entries := by
  induction entries generalizing next with
  | nil =>
      constructor
      · intro h
        exact ⟨by simp, (Except.ok.inj h).symm⟩
      · rintro ⟨-, rfl⟩
        rfl
  | cons entry rest ih =>
      rw [CampaignBudgetManager.accumulate, List.forall_mem_cons]
      by_cases hcount : isCount entry.2 = true
      · by_cases hfits : m.canConsume entry.1 entry.2 = true
        · rw [if_neg (by simp [hcount]), if_pos hfits, ih, spend]
          simp [hcount, hfits]
        · rw [if_neg (by simp [hcount]), if_neg hfits]
          simp [hfits]
      · rw [if_pos (by simpa using hcount)]
        simp [hcount]

theorem consumeBundle_cases (m : CampaignBudgetManager) (r : Requirements) :
    (∃ e, m.consumeBundle r = (.error e, m)) ∨
      m.consumeBundle r = (.ok (), { m with usage := spend m.usage r.entries }) ∧
        ∀ entry ∈ r.entries, isCount entry.2 = true ∧ m.canConsume entry.1 entry.2 = true := by
  rw [CampaignBudgetManager.consumeBundle]
  cases h : m.accumulate m.usage r.entries with
  | error e => exact .inl ⟨e, rfl⟩
  | ok next =>
      obtain ⟨hfits, rfl⟩ := accumulate_eq_ok.mp h
      exact .inr ⟨rfl, hfits⟩

theorem Accounts.spend {m : CampaignBudgetManager} {limit used : BudgetDimension → Nat}
    (hm : Accounts m limit used) (r : Requirements)
    (hfits : ∀ entry ∈ r.entries, isCount entry.2 = true ∧ m.canConsume entry.1 entry.2 = true) :
    ∃ used', Accounts { m with usage := spend m.usage r.entries } limit used' ∧
      ∀ d, used d ≤ used' d := by
  have hnext (d) : ∃ k, Budget.spend m.usage r.entries d = .ofNat k ∧ used d ≤ k ∧ k ≤ limit d := by
    by_cases hd : d ∈ r.entries.map Prod.fst
    · obtain ⟨⟨_, amount⟩, hentry, rfl⟩ := List.mem_map.mp hd
      obtain ⟨hcount, hconsume⟩ := hfits _ hentry
      obtain ⟨k, rfl⟩ := isCount_iff.mp hcount
      rw [CampaignBudgetManager.canConsume, hm.usage, hm.limits, plus_ofNat, atMost_ofNat,
        decide_eq_true_eq] at hconsume
      rw [spend_of_mem r.nodup hentry, hm.usage, plus_ofNat]
      exact ⟨_, rfl, Nat.le_add_right _ _, hconsume⟩
    · rw [spend_of_not_mem hd, hm.usage]
      exact ⟨_, rfl, Nat.le_refl _, hm.within d⟩
  choose used' hused hgrows hwithin using hnext
  exact ⟨used', ⟨hm.limits, hused, hwithin⟩, hgrows⟩

/-- What a call may do: throw and leave the manager, or add a bundle whose amounts all
fit their dimensions. -/
inductive Spent (m : CampaignBudgetManager) : Outcome → Prop
  | thrown (e : BudgetError) : Spent m (.error e, m)
  | bundle (r : Requirements)
      (hfits : ∀ entry ∈ r.entries, isCount entry.2 = true ∧ m.canConsume entry.1 entry.2 = true) :
      Spent m (.ok (), { m with usage := spend m.usage r.entries })

theorem consumeBundle_spent (m : CampaignBudgetManager) (r : Requirements) :
    Spent m (m.consumeBundle r) := by
  obtain ⟨e, h⟩ | ⟨h, hfits⟩ := consumeBundle_cases m r
  · rw [h]
    exact .thrown e
  · rw [h]
    exact .bundle r hfits

theorem consumeCollectionBundle_spent (m : CampaignBudgetManager) (r : Requirements) :
    Spent m (m.consumeCollectionBundle r) := by
  rw [CampaignBudgetManager.consumeCollectionBundle]
  split
  · exact .thrown _
  · split
    · exact .thrown _
    · exact consumeBundle_spent m r

theorem perform_spent (m : CampaignBudgetManager) (call : Call) : Spent m (perform m call) := by
  cases call with
  | reserveWork kind replay =>
      rw [perform, CampaignBudgetManager.reserveWork]
      split
      · exact consumeCollectionBundle_spent m _
      · exact consumeBundle_spent m _
  | reserveFirstPlusApi => exact consumeBundle_spent m _
  | consume d amount => exact consumeBundle_spent m _
  | consumeBundle r => exact consumeBundle_spent m r
  | addActions amount => exact consumeBundle_spent m _
  | addEvidenceBytes amount => exact consumeBundle_spent m _

theorem Spent.error (h : Spent m out) {e : BudgetError} (he : out.1 = .error e) : out.2 = m := by
  cases h with
  | thrown e' => rfl
  | bundle r hfits => contradiction

theorem Spent.accounts (h : Spent m out)
    {limit used : BudgetDimension → Nat} (hm : Accounts m limit used) :
    ∃ used', Accounts out.2 limit used' ∧ ∀ d, used d ≤ used' d := by
  cases h with
  | thrown e => exact ⟨used, hm, fun d => Nat.le_refl _⟩
  | bundle r hfits => exact hm.spend r hfits

theorem Spent.policy (h : Spent m out) : out.2.policy = m.policy ∧
      out.2.protectedReplayBrowserContexts = m.protectedReplayBrowserContexts := by
  cases h with
  | thrown e => exact ⟨rfl, rfl⟩
  | bundle r hfits => exact ⟨rfl, rfl⟩

theorem browserContexts_of_collects {kind : CampaignWorkKind} (h : collects kind = true)
    (replay : Bool) :
    (BudgetDimension.browserContexts, one) ∈ (workRequirements kind replay).entries ∧
      (workRequirements kind replay).amountOf .browserContexts = one := by
  cases kind with
  | journey => cases replay <;> exact ⟨by decide, by decide⟩
  | exploration => cases replay <;> exact ⟨by decide, by decide⟩
  | api => contradiction
  | reproduction => contradiction
  | minimization => contradiction

theorem reserveWork_keeps_reserve {kind : CampaignWorkKind}
    (hkind : collects kind = true) (replay : Bool)
    (h : m.collectionBrowserContextLimit.lt (m.usage .browserContexts) = false) :
    m.collectionBrowserContextLimit.lt ((m.reserveWork kind replay).2.usage .browserContexts) =
      false := by
  obtain ⟨hentry, hamount⟩ := browserContexts_of_collects hkind replay
  rw [CampaignBudgetManager.reserveWork, if_pos hkind, CampaignBudgetManager.consumeCollectionBundle,
    hamount]
  split
  · exact h
  · split
    · exact h
    · rename_i hceiling
      obtain ⟨e, hthrown⟩ | ⟨hspent, -⟩ := consumeBundle_cases m (workRequirements kind replay)
      · rw [hthrown]
        exact h
      · rw [hspent]
        have hspend := spend_of_mem (workRequirements kind replay).nodup hentry m.usage
        simpa [hspend] using hceiling

def nothingUsed : CampaignBudgetUsage := fun _ => .ofNat 0

def smallPolicy : CampaignBudgetPolicy :=
  ⟨campaignBudgetPolicyVersion, .ofNat 2, .ofNat 1, .ofNat 1, .ofNat 2, .ofNat 2, .ofNat 1,
    .ofNat 4, .ofNat 1000, .ofNat 100, .ofNat 1, .ofNat 4096⟩

def smallManager : CampaignBudgetManager := ⟨smallPolicy, .ofNat 1, nothingUsed⟩

theorem smallManager_constructed :
    construct smallPolicy nothingUsed (.ofNat 1) = .ok smallManager := by
  simp [construct, validateBudgetPolicy, throwIf, smallPolicy, CampaignBudgetPolicy.numbers,
    assertWithinLimits, forEach, limitFor, nothingUsed, budgetDimensions, smallManager]
  rfl

def afterJourney : CampaignBudgetManager := (perform smallManager (.reserveWork .journey true)).2

theorem afterJourney_run : Run (managerSystem smallManager)
    [(.reserveWork .journey true, (perform smallManager (.reserveWork .journey true)).1)]
    afterJourney := Run.start.step rfl

end NightWatch.Campaign.Budget
