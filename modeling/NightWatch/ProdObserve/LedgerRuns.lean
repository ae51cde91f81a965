import NightWatch.ProdObserve.GrantRuns

namespace NightWatch.ProdObserve.LedgerRuns

open Lib.JsText Lib.JsData Lib.JsRuntime Lib.Machine ProdObserve.Types ProdObserve.Budget
  ProdObserve.Budget.ProductionBudgetLedger ProdObserve.Authorization ProdObserve.RunGate
  ProdObserve.AdmissionChain ProdObserve.GrantRuns

inductive LedgerEvent where
  | reserve (request : ReservationRequest) (result : Except JsString ReservationResult)
  | settle (token : BudgetReservation) (outcome : SettlementOutcome)
  | release (token : BudgetReservation)
  | evaluate (input : ProductionAdmissionInput) (registry : GrantRegistry)
      (result : EvaluationResult)

def LedgerEvent.returned : LedgerEvent → Option BudgetReservation
  | .reserve _ (.ok (.ok reservation)) => some reservation
  | .evaluate _ _ (.ok outcome) => outcome.reservation
  | _ => none

def LedgerEvent.token : LedgerEvent → Option BudgetReservation
  | .settle token _ => some token
  | .release token => some token
  | _ => none

section Evaluation

variable {rt : Runtime} {digest : JsString → JsString} {input : ProductionAdmissionInput}
  {world : AdmissionWorld}

theorem room_of_budget {after : Progress}
    (h : gateCheck rt input .budgetReservation ⟨entryWorld input world, none⟩ =
      .ok (none, after)) : world.ledger.exhaustedScope (reservationRequest input) = none := by
  rw [gateCheck] at h
  split at h
  · contradiction
  · simp at h
  · rename_i hreserve
    rcases reserve_eq_ok hreserve with ⟨_, _, hexhausted, _⟩ | ⟨hroom, _, _⟩
    · contradiction
    · exact hroom

/-- The ledger after an evaluation, with the reservation reported: it took none, gave one back, or
allowed and keeps one. -/
inductive LedgerAfter (rt : Runtime) (input : ProductionAdmissionInput) (world : AdmissionWorld) :
    EvaluationResult → ProductionBudgetLedger → Prop
  | untouched {result : EvaluationResult} (hdenied : isAllowed result = false)
      (hreturned : (LedgerEvent.evaluate input world.registry result).returned = none) :
      LedgerAfter rt input world result world.ledger
  | returned {outcome : ProductionAdmissionOutcome} (hdenied : outcome.allowed = false)
      (hroom : world.ledger.exhaustedScope (reservationRequest input) = none)
      (hreturned : outcome.reservation =
        some (world.ledger.reservationFor (reservationRequest input))) :
      LedgerAfter rt input world (.ok outcome)
        ((world.ledger.reserved (reservationRequest input)).releaseReservation
          (world.ledger.reservationFor (reservationRequest input)))
  | kept {outcome : ProductionAdmissionOutcome} (hallowed : outcome.allowed = true)
      (hroom : world.ledger.exhaustedScope (reservationRequest input) = none)
      (hreturned : outcome.reservation =
        some (world.ledger.reservationFor (reservationRequest input))) :
      LedgerAfter rt input world (.ok outcome)
        (world.ledger.reserved (reservationRequest input))

variable {progress : Progress}

theorem ledgerAfter_denied {before after : List ProductionAdmissionGate}
    {gate : ProductionAdmissionGate} {code : ProductionDenialCode}
    {outcomes : List GateOutcome} (hgates : productionAdmissionGates = before ++ gate :: after)
    (hbefore : ∀ gate ∈ before, ∃ next,
      gateCheck rt input gate (progressBefore input world gate) = .ok (none, next))
    (hcheck : gateCheck rt input gate (progressBefore input world gate) =
      .ok (some code, progress)) :
    LedgerAfter rt input world (.ok (decision rt digest outcomes false (some code) (some gate)
      progress.reservation)) progress.released.ledger := by
  have hroom : ProductionAdmissionGate.budgetReservation ∈ before →
      world.ledger.exhaustedScope (reservationRequest input) = none := by
    intro hmem
    obtain ⟨next, hnext⟩ := hbefore _ hmem
    exact room_of_budget hnext
  have hbefore := eq_gatesBefore hgates
  have hreserved : ∀ final : Progress,
      final.reservation = some (world.ledger.reservationFor (reservationRequest input)) →
      final.world.ledger = world.ledger.reserved (reservationRequest input) →
      .budgetReservation ∈ before →
      LedgerAfter rt input world (.ok (decision rt digest outcomes false (some code) (some gate)
        final.reservation)) final.released.ledger := by
    intro final hreservation hledger hmem
    have hreleased : final.released.ledger =
        (world.ledger.reserved (reservationRequest input)).releaseReservation
          (world.ledger.reservationFor (reservationRequest input)) := by
      rw [Progress.released, hreservation, hledger]
    rw [hreleased]
    exact .returned rfl (hroom hmem) hreservation
  have huntouched : ∀ final : Progress, final.reservation = none →
      final.world.ledger = world.ledger →
      LedgerAfter rt input world (.ok (decision rt digest outcomes false (some code) (some gate)
        final.reservation)) final.released.ledger := by
    intro final hreservation hledger
    have hreleased : final.released.ledger = world.ledger := by
      rw [Progress.released, hreservation, hledger]
    rw [hreleased]
    exact .untouched rfl hreservation
  cases gate with
  | killSwitchEntry =>
      rw [gateCheck] at hcheck
      rw [← (Prod.mk.inj (Except.ok.inj hcheck)).2]
      exact huntouched _ rfl rfl
  | killSwitchPredispatch =>
      rw [gateCheck] at hcheck
      rw [← (Prod.mk.inj (Except.ok.inj hcheck)).2]
      exact hreserved _ rfl rfl (hbefore ▸ (by decide))
  | breakerState =>
      rw [gateCheck_quiet (by decide) hcheck]
      exact hreserved _ rfl rfl (hbefore ▸ (by decide))
  | budgetReservation =>
      rw [gateCheck] at hcheck
      split at hcheck
      · contradiction
      · rw [← (Prod.mk.inj (Except.ok.inj hcheck)).2]
        exact huntouched _ rfl rfl
      · simp at hcheck
  | _ =>
      rw [gateCheck_quiet (by decide) hcheck]
      exact huntouched _ rfl rfl

theorem ledger_of_thrown {gate : ProductionAdmissionGate} {thrown : Thrown}
    (h : gateCheck rt input gate progress = .error thrown) :
    thrown.world = progress.world ∧ gate ≠ .killSwitchPredispatch ∧ gate ≠ .breakerState := by
  unfold gateCheck at h
  split at h
  · contradiction
  · contradiction
  · split at h
    · exact ⟨by rw [← Except.error.inj h], by decide, by decide⟩
    · contradiction
    · contradiction
  · contradiction
  · split at h
    · rename_i hfact
      refine ⟨by rw [← Except.error.inj h], ?_, ?_⟩
      · rintro rfl
        contradiction
      · rintro rfl
        simp [factDenial] at hfact
    · contradiction

theorem ledgerAfter_evaluateProductionAdmission (rt : Runtime) (digest : JsString → JsString)
    (input : ProductionAdmissionInput) (world : AdmissionWorld) :
    LedgerAfter rt input world (evaluateProductionAdmission rt digest input world).1
      (evaluateProductionAdmission rt digest input world).2.ledger := by
  have hevaluates := evaluates_evaluateProductionAdmission rt digest input world
  generalize evaluateProductionAdmission rt digest input world = evaluated at hevaluates ⊢
  obtain ⟨result, final⟩ := evaluated
  dsimp only at hevaluates ⊢
  cases hevaluates with
  | @threw gate thrown hcheck =>
      obtain ⟨hworld, hpredispatch, hbreaker⟩ := ledger_of_thrown hcheck
      have hledger : thrown.world.ledger = world.ledger := by
        rw [hworld]
        cases gate with
        | killSwitchPredispatch => contradiction
        | breakerState => contradiction
        | _ => rfl
      rw [hledger]
      exact .untouched rfl rfl
  | denied hgates hbefore hcheck => exact ledgerAfter_denied hgates hbefore hcheck
  | overtaken hpasses hspent =>
      obtain ⟨next, hnext⟩ := hpasses .budgetReservation
      exact .returned rfl (room_of_budget hnext) rfl
  | allowed hpasses hconsumed =>
      obtain ⟨next, hnext⟩ := hpasses .budgetReservation
      exact .kept rfl (room_of_budget hnext) rfl

theorem of_ledgerAfter {rt : Runtime} {digest : JsString → JsString}
    {input : ProductionAdmissionInput} {world : AdmissionWorld}
    {P : EvaluationResult → ProductionBudgetLedger → Prop}
    (h : ∀ result final, LedgerAfter rt input world result final → P result final) :
    P (evaluateProductionAdmission rt digest input world).1
      (evaluateProductionAdmission rt digest input world).2.ledger :=
  h _ _ (ledgerAfter_evaluateProductionAdmission rt digest input world)

end Evaluation

/-- The operations of one ledger. -/
inductive LedgerStep (rt : Runtime) (digest : JsString → JsString)
    (ledger : ProductionBudgetLedger) : LedgerEvent → ProductionBudgetLedger → Prop
  | reserve {request : ReservationRequest} {result : ReservationResult}
      {after : ProductionBudgetLedger} (hreserve : ledger.reserve request = .ok (result, after)) :
      LedgerStep rt digest ledger (.reserve request (.ok result)) after
  | refused {request : ReservationRequest} {message : JsString}
      (hreserve : ledger.reserve request = .error message) :
      LedgerStep rt digest ledger (.reserve request (.error message)) ledger
  | settle (token : BudgetReservation) (outcome : SettlementOutcome) :
      LedgerStep rt digest ledger (.settle token outcome) (ledger.settle token outcome)
  | release (token : BudgetReservation) :
      LedgerStep rt digest ledger (.release token) (ledger.releaseReservation token)
  | evaluate (input : ProductionAdmissionInput) (registry : GrantRegistry) :
      LedgerStep rt digest ledger
        (.evaluate input registry
          (evaluateProductionAdmission rt digest input ⟨registry, ledger⟩).1)
        (evaluateProductionAdmission rt digest input ⟨registry, ledger⟩).2.ledger

def ledgerRuns (rt : Runtime) (digest : JsString → JsString) (limits : ProductionBudgetLimits)
    (startedAtMs : JsNumber) : System ProductionBudgetLedger LedgerEvent where
  start := .create (some limits) startedAtMs
  step := LedgerStep rt digest

section Step

variable {rt : Runtime} {digest : JsString → JsString} {ledger after : ProductionBudgetLedger}
  {event : LedgerEvent}

theorem balanced_step (h : Balanced ledger) (hstep : LedgerStep rt digest ledger event after) :
    Balanced after := by
  cases hstep with
  | reserve hreserve => exact balanced_reserve h hreserve
  | refused hreserve => exact h
  | settle token outcome => exact balanced_settle h token outcome
  | release token => exact balanced_releaseReservation h token
  | evaluate input registry =>
      refine of_ledgerAfter (P := fun _ final => Balanced final) fun _ _ hafter => ?_
      cases hafter with
      | untouched => exact h
      | returned hdenied hroom hreturned =>
          exact balanced_releaseReservation (balanced_reserved h hroom) _
      | kept hallowed hroom hreturned => exact balanced_reserved h hroom

/-- The number of the reservation that a call handed out. -/
def number (event : LedgerEvent) : Option JsNumber :=
  event.returned.map BudgetReservation.reservationId

/-- The limits, the spend of the campaign and the next number. -/
def account (ledger : ProductionBudgetLedger) : ProductionBudgetLimits × Nat × Nat :=
  (ledger.limits, ledger.campaignUsed, ledger.nextReservationId)

theorem account_releaseReservation (token : BudgetReservation) :
    account (ledger.releaseReservation token) = account ledger := by
  unfold releaseReservation
  split_ifs
  · rfl
  · rfl

/-- A call hands out nothing and spends nothing, or hands out the next number and spends one. -/
def Issues (ledger after : ProductionBudgetLedger) (event : LedgerEvent) : Prop :=
  number event = none ∧ account after = account ledger ∨
    number event = some (.ofNat ledger.nextReservationId) ∧ account after =
      (ledger.limits, ledger.campaignUsed + 1, ledger.nextReservationId + 1)

theorem issues_of_step (hstep : LedgerStep rt digest ledger event after) :
    Issues ledger after event := by
  cases hstep with
  | reserve hreserve =>
      rcases reserve_eq_ok hreserve with ⟨_, _, rfl, rfl⟩ | ⟨_, rfl, rfl⟩
      · exact .inl ⟨rfl, rfl⟩
      · exact .inr ⟨rfl, rfl⟩
  | refused => exact .inl ⟨rfl, rfl⟩
  | settle token outcome =>
      refine .inl ⟨rfl, ?_⟩
      unfold settle
      split_ifs
      · rfl
      · rfl
      · rfl
  | release token => exact .inl ⟨rfl, account_releaseReservation token⟩
  | evaluate input registry =>
      refine of_ledgerAfter (P := fun result final =>
        Issues ledger final (.evaluate input registry result)) fun _ _ hafter => ?_
      cases hafter with
      | untouched hdenied hreturned => exact .inl ⟨congrArg (Option.map _) hreturned, rfl⟩
      | returned hdenied hroom hreturned =>
          exact .inr ⟨congrArg (Option.map _) hreturned, account_releaseReservation _⟩
      | kept hallowed hroom hreturned => exact .inr ⟨congrArg (Option.map _) hreturned, rfl⟩

theorem limits_step (hstep : LedgerStep rt digest ledger event after) :
    after.limits = ledger.limits := by
  rcases issues_of_step hstep with ⟨-, haccount⟩ | ⟨-, haccount⟩
  · exact congrArg Prod.fst haccount
  · exact congrArg Prod.fst haccount

/-- The reservations of a history are numbered from one on, each number once, and every one of
them stays charged to the campaign: what gives a slot back gives no spend back. -/
theorem every_reservation_is_charged {limits : ProductionBudgetLimits} {startedAtMs : JsNumber}
    {history : List LedgerEvent}
    (hrun : Run (ledgerRuns rt digest limits startedAtMs) history ledger) :
    history.filterMap number = (List.range ledger.campaignUsed).map (fun n => .ofNat (n + 1)) ∧
      ledger.nextReservationId = ledger.campaignUsed + 1 := by
  refine hrun.invariant (P := fun history ledger => history.filterMap number =
    (List.range ledger.campaignUsed).map (fun n => .ofNat (n + 1)) ∧
      ledger.nextReservationId = ledger.campaignUsed + 1) ⟨rfl, rfl⟩ ?_
  rintro past before event after ⟨hissued, hnext⟩ hstep
  have hissues := issues_of_step hstep
  simp only [Issues, account, Prod.mk.injEq] at hissues
  rcases hissues with ⟨hnumber, haccount⟩ | ⟨hnumber, haccount⟩
  · obtain ⟨-, hused, hlast⟩ := haccount
    rw [List.filterMap_append, List.filterMap_cons_none hnumber, hissued, hused, hlast]
    exact ⟨List.append_nil _, hnext⟩
  · obtain ⟨-, hused, hlast⟩ := haccount
    rw [List.filterMap_append, List.filterMap_cons_some hnumber, hissued, hused, hlast, hnext,
      List.range_succ, List.map_append]
    exact ⟨rfl, rfl⟩

theorem inFlight_of_denied (h : Balanced ledger) {input : ProductionAdmissionInput}
    {registry : GrantRegistry} {result : EvaluationResult} (hdenied : isAllowed result = false)
    (hstep : LedgerStep rt digest ledger (.evaluate input registry result) after) :
    after.inFlight = ledger.inFlight := by
  cases hstep with
  | evaluate =>
      revert hdenied
      refine of_ledgerAfter (P := fun result final => isAllowed result = false →
        final.inFlight = ledger.inFlight) fun _ _ hafter hdenied => ?_
      cases hafter with
      | untouched => rfl
      | returned => exact (release_reserved h _).1
      | kept hallowed =>
          rw [isAllowed, hallowed] at hdenied
          contradiction

end Step

structure WithinLimits (limits : ProductionBudgetLimits) (ledger : ProductionBudgetLedger) :
    Prop where
  limits_eq : ledger.limits = limits
  balanced : Balanced ledger

theorem withinLimits_of_run {rt : Runtime} {digest : JsString → JsString}
    {limits : ProductionBudgetLimits} {startedAtMs : JsNumber} {history : List LedgerEvent}
    {ledger : ProductionBudgetLedger}
    (hrun : Run (ledgerRuns rt digest limits startedAtMs) history ledger) :
    WithinLimits limits ledger := by
  apply hrun.state_invariant (P := WithinLimits limits)
  · exact ⟨rfl, balanced_create (some limits) startedAtMs⟩
  · intro before event after h hstep
    exact ⟨(limits_step hstep).trans h.limits_eq, balanced_step h.balanced hstep⟩

/-- Occupancy and spend of a ledger whose limits are the given numbers, after any history:
no count passes its limit rounded up, and refused evaluations leave the occupancy alone. -/
theorem ledger_within_limits (rt : Runtime) (digest : JsString → JsString)
    {limits : ProductionBudgetLimits} {startedAtMs : JsNumber}
    {concurrency campaignRequests serviceRequests routeRequests : ℚ}
    (hconcurrency : limits.concurrency = .finite concurrency)
    (hcampaign : limits.campaignRequests = .finite campaignRequests)
    (hservice : limits.serviceRequests = .finite serviceRequests)
    (hroute : limits.routeRequests = .finite routeRequests) {history : List LedgerEvent}
    {ledger : ProductionBudgetLedger}
    (hrun : Run (ledgerRuns rt digest limits startedAtMs) history ledger) :
    (ledger.inFlight = ledger.outstanding.length ∧ ledger.outstanding.Nodup ∧
        ledger.inFlight ≤ ⌈concurrency⌉₊) ∧
      ((ledger.serviceUsed.map Prod.fst).Nodup ∧ (ledger.routeUsed.map Prod.fst).Nodup ∧
        ledger.campaignUsed = (ledger.serviceUsed.map Prod.snd).sum ∧
        ledger.campaignUsed = (ledger.routeUsed.map Prod.snd).sum ∧
        ledger.campaignUsed ≤ ⌈campaignRequests⌉₊) ∧
      (∀ key, ledger.serviceRequestsUsed key ≤ ⌈serviceRequests⌉₊ ∧
        ledger.routeRequestsUsed key ≤ ⌈routeRequests⌉₊) ∧ ∀ i input registry result before after,
        history[i]? = some (.evaluate input registry result) →
        Run (ledgerRuns rt digest limits startedAtMs) (history.take i) before →
        LedgerStep rt digest before (.evaluate input registry result) after →
        isAllowed result = false → after.inFlight = before.inFlight := by
  obtain ⟨hlimits, hbalanced⟩ := withinLimits_of_run hrun
  subst hlimits
  refine ⟨⟨hbalanced.occupancy, hbalanced.distinct, ?_⟩, ⟨hbalanced.serviceKeys,
    hbalanced.routeKeys, hbalanced.serviceSum.symm, hbalanced.routeSum.symm, ?_⟩, ?_, ?_⟩
  · exact hbalanced.concurrencyBound _ hconcurrency
  · exact hbalanced.campaignBound _ hcampaign
  · intro key
    exact ⟨hbalanced.serviceBound key _ hservice, hbalanced.routeBound key _ hroute⟩
  · intro i input registry result before after _ hbefore hstep hdenied
    exact inFlight_of_denied (withinLimits_of_run hbefore).balanced hdenied hstep

def sampleReservation : ReservationRequest := ⟨"service".toList, "route".toList, .ofNat 0⟩

theorem run_reserve (limits : ProductionBudgetLimits)
    (h : ((ProductionBudgetLedger.create (some limits) (.ofNat 0)).reserve
      sampleReservation).toOption.map (fun reserved => reserved.2.inFlight) = some 1) :
    ∃ history ledger, Run (ledgerRuns plainRuntime id limits (.ofNat 0)) history ledger ∧
      ledger.inFlight = 1 := by
  cases hresult : (ProductionBudgetLedger.create (some limits) (.ofNat 0)).reserve
      sampleReservation with
  | error message =>
      rw [hresult] at h
      contradiction
  | ok reserved =>
      rw [hresult] at h
      exact ⟨_, reserved.2, Run.step .start (.reserve hresult), Option.some.inj h⟩

theorem every_reservation_is_charged_sample : ∃ (history : List LedgerEvent)
    (ledger : ProductionBudgetLedger), ledger.inFlight = 1 ∧
      history.filterMap number = (List.range ledger.campaignUsed).map fun n => .ofNat (n + 1) := by
  obtain ⟨history, ledger, hrun, hone⟩ := run_reserve productionBudgetDefaults (by decide +kernel)
  exact ⟨history, ledger, hone, (every_reservation_is_charged hrun).1⟩

theorem sample_within_limits : ∃ history ledger,
    Run (ledgerRuns plainRuntime id productionBudgetDefaults (.ofNat 0)) history ledger ∧
      ledger.inFlight = 1 ∧ ledger.inFlight ≤ ⌈(1 : ℚ)⌉₊ := by
  obtain ⟨history, ledger, hrun, hone⟩ := run_reserve productionBudgetDefaults
    (by decide +kernel)
  have hconcurrency : productionBudgetDefaults.concurrency = .finite 1 := by decide +kernel
  have hcampaign : productionBudgetDefaults.campaignRequests = .finite 200 := by decide +kernel
  have hservice : productionBudgetDefaults.serviceRequests = .finite 50 := by decide +kernel
  have hroute : productionBudgetDefaults.routeRequests = .finite 10 := by decide +kernel
  exact ⟨history, ledger, hrun, hone, (ledger_within_limits plainRuntime id hconcurrency hcampaign
    hservice hroute hrun).1.2.2⟩

def halfLimits : ProductionBudgetLimits :=
  { productionBudgetDefaults with concurrency := .finite (1 / 2) }

/-- One request is in flight under a limit of one half. -/
theorem half_limit_exceeded : ∃ history ledger,
    Run (ledgerRuns plainRuntime id halfLimits (.ofNat 0)) history ledger ∧
      halfLimits.concurrency = .finite (1 / 2) ∧ (1 / 2 : ℚ) < ledger.inFlight := by
  obtain ⟨history, ledger, hrun, hone⟩ := run_reserve halfLimits (by decide +kernel)
  refine ⟨history, ledger, hrun, rfl, ?_⟩
  rw [hone]
  norm_num

/-! Two ledgers side by side. -/

inductive Side where
  | left
  | right
  deriving DecidableEq

structure LedgerPair where
  left : ProductionBudgetLedger
  right : ProductionBudgetLedger

namespace LedgerPair

def ledger (pair : LedgerPair) : Side → ProductionBudgetLedger
  | .left => pair.left
  | .right => pair.right

def update (pair : LedgerPair) (side : Side) (after : ProductionBudgetLedger) : LedgerPair :=
  match side with
  | .left => { pair with left := after }
  | .right => { pair with right := after }

@[simp]
theorem ledger_update (pair : LedgerPair) (side : Side) (after : ProductionBudgetLedger) :
    (pair.update side after).ledger side = after := by
  cases side with
  | left => rfl
  | right => rfl

theorem ledger_update_ne (pair : LedgerPair) {side other : Side} (h : other ≠ side)
    (after : ProductionBudgetLedger) :
    (pair.update side after).ledger other = pair.ledger other := by
  cases side with
  | left =>
      cases other with
      | left => contradiction
      | right => rfl
  | right =>
      cases other with
      | left => rfl
      | right => contradiction

theorem update_eq_self {pair : LedgerPair} {side : Side} {after : ProductionBudgetLedger} :
    pair.update side after = pair ↔ after = pair.ledger side := by
  constructor
  · intro h
    have hledger := congrArg (·.ledger side) h
    simpa using hledger
  · rintro rfl
    cases side with
    | left => rfl
    | right => rfl

end LedgerPair

/-- A call on one of the ledgers. The token is the object that an earlier call returned, or one of
the caller's own making. -/
structure PairEvent where
  side : Side
  event : LedgerEvent
  origin : Option Nat

def ledgerPairs (rt : Runtime) (digest : JsString → JsString) (start : LedgerPair) :
    System LedgerPair PairEvent where
  start := start
  step pair event after :=
    ∃ ledger, LedgerStep rt digest (pair.ledger event.side) event.event ledger ∧
      after = pair.update event.side ledger

/-- The ledger did not itself return the object. -/
def Foreign (history : List PairEvent) (event : PairEvent) : Prop :=
  ∀ j source, event.origin = some j → history[j]? = some source → source.side ≠ event.side

/-- The number of the token is that of a reservation outstanding in the ledger it is
passed to. -/
def NumberTaken (pair : LedgerPair) (event : PairEvent) (token : BudgetReservation) : Prop :=
  token.reservationId ∈ (pair.ledger event.side).outstanding

instance (pair : LedgerPair) (event : PairEvent) (token : BudgetReservation) :
    Decidable (NumberTaken pair event token) := inferInstanceAs (Decidable (_ ∈ _))

section Foreign

variable {ledger : ProductionBudgetLedger}

theorem vacate_ne {id : JsNumber} (hid : id ∈ ledger.outstanding) :
    (ledger.vacate id).outstanding ≠ ledger.outstanding := by
  intro h
  have hlength := congrArg List.length h
  have herase := List.length_erase_of_mem hid
  have hpos := List.length_pos_of_mem hid
  have hvacate : (ledger.vacate id).outstanding = ledger.outstanding.erase id := rfl
  rw [hvacate, herase] at hlength
  omega

theorem outstanding_settle {token : BudgetReservation} (outcome : SettlementOutcome)
    (hid : token.reservationId ∈ ledger.outstanding) : (ledger.settle token outcome).outstanding =
    (ledger.vacate token.reservationId).outstanding := by
  rw [settle, if_pos hid]
  dsimp only
  split_ifs
  · rfl
  · rfl

theorem token_step {rt : Runtime} {digest : JsString → JsString} {event : LedgerEvent}
    {token : BudgetReservation} {after : ProductionBudgetLedger} (htoken : event.token = some token)
    (hstep : LedgerStep rt digest ledger event after) :
    after = ledger ↔ token.reservationId ∉ ledger.outstanding := by
  cases hstep with
  | reserve => contradiction
  | refused => contradiction
  | evaluate => contradiction
  | settle given outcome =>
      cases htoken
      constructor
      · intro hsame hid
        apply vacate_ne hid
        rw [← outstanding_settle outcome hid, hsame]
      · intro hid
        exact if_neg hid
  | release given =>
      cases htoken
      constructor
      · intro hsame hid
        apply vacate_ne hid
        rw [releaseReservation, if_pos hid] at hsame
        rw [hsame]
      · intro hid
        exact if_neg hid

theorem outstanding_vacate {id other : JsNumber} (h : other ∈ (ledger.vacate id).outstanding) :
    other ∈ ledger.outstanding :=
  List.mem_of_mem_erase h

theorem outstanding_releaseReservation {token : BudgetReservation} {id : JsNumber}
    (h : id ∈ (ledger.releaseReservation token).outstanding) : id ∈ ledger.outstanding := by
  unfold releaseReservation at h
  split_ifs at h
  · exact outstanding_vacate h
  · exact h

theorem outstanding_reserved {request : ReservationRequest} {id : JsNumber}
    (h : id ∈ (ledger.reserved request).outstanding) :
    id ∈ ledger.outstanding ∨ id = (ledger.reservationFor request).reservationId := by
  rcases List.mem_append.mp h with h | h
  · exact Or.inl h
  · exact Or.inr (List.mem_singleton.mp h)

theorem outstanding_step {rt : Runtime} {digest : JsString → JsString} {event : LedgerEvent}
    {after : ProductionBudgetLedger} (hstep : LedgerStep rt digest ledger event after)
    {id : JsNumber} (hid : id ∈ after.outstanding) :
    id ∈ ledger.outstanding ∨ ∃ own, event.returned = some own ∧ own.reservationId = id := by
  cases hstep with
  | reserve hreserve =>
      rcases reserve_eq_ok hreserve with ⟨_, _, rfl, rfl⟩ | ⟨_, rfl, rfl⟩
      · exact Or.inl hid
      · rcases outstanding_reserved hid with hold | hnew
        · exact Or.inl hold
        · exact Or.inr ⟨_, rfl, hnew.symm⟩
  | refused => exact Or.inl hid
  | settle token outcome =>
      by_cases htoken : token.reservationId ∈ ledger.outstanding
      · rw [outstanding_settle _ htoken] at hid
        exact Or.inl (outstanding_vacate hid)
      · rw [settle, if_neg htoken] at hid
        exact Or.inl hid
  | release token => exact Or.inl (outstanding_releaseReservation hid)
  | evaluate input registry =>
      revert hid
      refine of_ledgerAfter (P := fun result final => id ∈ final.outstanding →
        id ∈ ledger.outstanding ∨ ∃ own, (LedgerEvent.evaluate input registry result).returned =
          some own ∧ own.reservationId = id) fun _ _ hafter hid => ?_
      cases hafter with
      | untouched => exact Or.inl hid
      | returned hdenied hroom hreturned =>
          rcases outstanding_reserved (outstanding_releaseReservation hid) with hold | hnew
          · exact Or.inl hold
          · exact Or.inr ⟨_, hreturned, hnew.symm⟩
      | kept hallowed hroom hreturned =>
          rcases outstanding_reserved hid with hold | hnew
          · exact Or.inl hold
          · exact Or.inr ⟨_, hreturned, hnew.symm⟩

/-- Every outstanding number is that of a token which its own ledger returned. -/
def OwnNumbers (history : List PairEvent) (pair : LedgerPair) : Prop :=
  ∀ side, ∀ id ∈ (pair.ledger side).outstanding, ∃ (j : Nat) (source : PairEvent)
    (own : BudgetReservation), history[j]? = some source ∧ source.side = side ∧
      source.event.returned = some own ∧ own.reservationId = id

theorem ownNumbers_step {rt : Runtime} {digest : JsString → JsString} {start : LedgerPair}
    {past : List PairEvent} {pair after : LedgerPair} {event : PairEvent}
    (h : OwnNumbers past pair) (hstep : (ledgerPairs rt digest start).step pair event after) :
    OwnNumbers (past ++ [event]) after := by
  obtain ⟨ledger, hledger, rfl⟩ := hstep
  intro side id hid
  have hkeep : id ∈ (pair.ledger side).outstanding → ∃ (j : Nat) (source : PairEvent)
      (own : BudgetReservation), (past ++ [event])[j]? = some source ∧ source.side = side ∧
        source.event.returned = some own ∧ own.reservationId = id := by
    intro hold
    obtain ⟨j, source, own, hj, hrest⟩ := h side id hold
    exact ⟨j, source, own, getElem?_concat_eq.mpr (Or.inl hj), hrest⟩
  by_cases hside : side = event.side
  · subst hside
    rw [LedgerPair.ledger_update] at hid
    rcases outstanding_step hledger hid with hold | ⟨own, hreturned, hnumber⟩
    · exact hkeep hold
    · exact ⟨past.length, event, own, getElem?_concat_eq.mpr (Or.inr ⟨rfl, rfl⟩), rfl, hreturned,
        hnumber⟩
  · rw [LedgerPair.ledger_update_ne _ hside] at hid
    exact hkeep hid

/-- After every history of two ledgers, a token that a ledger did not return leaves it
alone exactly when no reservation of its number is outstanding; otherwise it frees the slot
of a token that the ledger returned itself. -/
theorem foreign_token_iff (rt : Runtime) (digest : JsString → JsString)
    {limits limits' : Option ProductionBudgetLimits} {startedAtMs startedAtMs' : JsNumber}
    {past : List PairEvent} {before after : LedgerPair} {event : PairEvent}
    {token : BudgetReservation}
    (hpast : Run (ledgerPairs rt digest ⟨.create limits startedAtMs, .create limits' startedAtMs'⟩)
      past before) (hstep : (ledgerPairs rt digest
      ⟨.create limits startedAtMs, .create limits' startedAtMs'⟩).step before event after)
    (htoken : event.event.token = some token) (hforeign : Foreign past event) :
    (after = before ↔ ¬ NumberTaken before event token) ∧
      (NumberTaken before event token → ∃ (j : Nat) (source : PairEvent) (own : BudgetReservation),
        past[j]? = some source ∧ source.side = event.side ∧
          source.event.returned = some own ∧ own.reservationId = token.reservationId ∧
          event.origin ≠ some j) := by
  have hown : OwnNumbers past before := by
    apply hpast.invariant (P := OwnNumbers)
    · intro side id hid
      cases side with
      | left => contradiction
      | right => contradiction
    · intro past s e s' h hs
      exact ownNumbers_step h hs
  obtain ⟨ledger, hledger, rfl⟩ := hstep
  constructor
  · rw [LedgerPair.update_eq_self]
    exact token_step htoken hledger
  · intro htaken
    obtain ⟨j, source, own, hj, hside, hreturned, hnumber⟩ := hown event.side _ htaken
    refine ⟨j, source, own, hj, hside, hreturned, hnumber, ?_⟩
    intro horigin
    exact hforeign j source horigin hj hside

def freshPair : LedgerPair := ⟨.create none (.ofNat 0), .create none (.ofNat 0)⟩

def firstToken : BudgetReservation := ⟨.ofNat 1, "service".toList, "route".toList⟩

def reserveEvent (side : Side) : PairEvent :=
  ⟨side, .reserve sampleReservation (.ok (.ok firstToken)), none⟩

def foreignSettle (origin : Nat) : PairEvent :=
  ⟨.left, .settle firstToken .failure, some origin⟩

def reservedLedger : ProductionBudgetLedger :=
  (ProductionBudgetLedger.create none (.ofNat 0)).reserved sampleReservation

theorem reserve_fresh : (ProductionBudgetLedger.create none (.ofNat 0)).reserve sampleReservation =
    .ok (.ok firstToken, reservedLedger) := by
  have hroom : (ProductionBudgetLedger.create none (.ofNat 0)).exhaustedScope sampleReservation =
      none := by
    decide +kernel
  rw [reserve, if_neg (by decide), hroom]
  rfl

theorem run_right : Run (ledgerPairs plainRuntime id freshPair) [reserveEvent .right]
    (freshPair.update .right reservedLedger) :=
  Run.start.step ⟨reservedLedger, .reserve reserve_fresh, rfl⟩

theorem run_both : Run (ledgerPairs plainRuntime id freshPair)
    [reserveEvent .right, reserveEvent .left]
    ((freshPair.update .right reservedLedger).update .left reservedLedger) :=
  run_right.step ⟨reservedLedger, .reserve reserve_fresh, rfl⟩

theorem idle_ledger_keeps : ∃ after,
    (ledgerPairs plainRuntime id freshPair).step (freshPair.update .right reservedLedger)
      (foreignSettle 0) after ∧ after = freshPair.update .right reservedLedger := by
  have hforeign : Foreign [reserveEvent .right] (foreignSettle 0) := by
    intro j source horigin hj hside
    cases horigin
    cases hj
    contradiction
  have hstep : (ledgerPairs plainRuntime id freshPair).step
      (freshPair.update .right reservedLedger) (foreignSettle 0) _ :=
    ⟨_, .settle firstToken .failure, rfl⟩
  exact ⟨_, hstep,
    (foreign_token_iff plainRuntime id run_right hstep rfl hforeign).1.mpr (by decide)⟩

/-- Both ledgers number their tokens from one: the right one's token ends the left one's
request, and charges it as a failure. -/
theorem foreign_token_charges : ∃ past before event after token,
    Run (ledgerPairs plainRuntime id freshPair) past before ∧
      (ledgerPairs plainRuntime id freshPair).step before event after ∧
      event.event.token = some token ∧ Foreign past event ∧
      before.left.inFlight = 1 ∧ after.left.inFlight = 0 ∧
      before.left.failuresRecorded = 0 ∧ after.left.failuresRecorded = 1 := by
  refine ⟨_, _, foreignSettle 0, _, firstToken, run_both, ⟨_, .settle firstToken .failure, rfl⟩,
    rfl, ?_, rfl, by decide +kernel, rfl, by decide +kernel⟩
  intro j source horigin hj hside
  cases horigin
  cases hj
  contradiction

end Foreign

end NightWatch.ProdObserve.LedgerRuns
