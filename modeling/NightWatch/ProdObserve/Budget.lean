import NightWatch.Lib.Guard
import NightWatch.Lib.JsData

namespace NightWatch.ProdObserve.Budget

open Lib.JsText Lib.JsData

structure ProductionBudgetLimits where
  campaignRequests : JsNumber
  serviceRequests : JsNumber
  routeRequests : JsNumber
  redirectsPerRequest : JsNumber
  responseBytes : JsNumber
  concurrency : JsNumber
  failures : JsNumber
  campaignWindowMs : JsNumber

def productionBudgetDefaults : ProductionBudgetLimits where
  campaignRequests := .ofNat 200
  serviceRequests := .ofNat 50
  routeRequests := .ofNat 10
  redirectsPerRequest := .ofNat 3
  responseBytes := .ofNat (2 * 1024 * 1024)
  concurrency := .ofNat 1
  failures := .ofNat 3
  campaignWindowMs := .ofNat (60 * 60 * 1000)

inductive BudgetScope where
  | campaign
  | service
  | route
  | concurrency
  | failures
  | window

structure BudgetReservation where
  reservationId : JsNumber
  serviceKey : JsString
  routeKey : JsString

inductive ReservationResult where
  | ok (reservation : BudgetReservation)
  | exhausted (scope : BudgetScope)

structure ReservationRequest where
  serviceKey : JsString
  routeKey : JsString
  nowMs : JsNumber

inductive SettlementOutcome where
  | success
  | failure
  deriving DecidableEq

/-- `KEY_RE`. -/
def isBudgetKey (key : JsString) : Bool :=
  upTo 128 (fun c => c.isAlphanum || c == '_' || c == '.' || c == ':' || c == '-') key

structure ProductionBudgetLedger where
  limits : ProductionBudgetLimits
  startedAtMs : JsNumber
  campaignUsed : Nat
  inFlight : Nat
  failuresRecorded : Nat
  nextReservationId : Nat
  serviceUsed : List (JsString × Nat)
  routeUsed : List (JsString × Nat)
  outstanding : List JsNumber

namespace ProductionBudgetLedger

/-- `new ProductionBudgetLedger(options)`. -/
def create (limits : Option ProductionBudgetLimits) (startedAtMs : JsNumber) :
    ProductionBudgetLedger where
  limits := limits.getD productionBudgetDefaults
  startedAtMs := startedAtMs
  campaignUsed := 0
  inFlight := 0
  failuresRecorded := 0
  nextReservationId := 1
  serviceUsed := []
  routeUsed := []
  outstanding := []

def serviceRequestsUsed (ledger : ProductionBudgetLedger) (serviceKey : JsString) : Nat :=
  (ledger.serviceUsed.lookup serviceKey).getD 0

def routeRequestsUsed (ledger : ProductionBudgetLedger) (routeKey : JsString) : Nat :=
  (ledger.routeUsed.lookup routeKey).getD 0

/-- `used >= limit` for a counter. -/
def atLimit (used : Nat) (limit : JsNumber) : Bool := (JsNumber.ofNat used).ge limit

/-- The first limit of `reserve` that has no room for the request. -/
def exhaustedScope (ledger : ProductionBudgetLedger) (request : ReservationRequest) :
    Option BudgetScope :=
  if (request.nowMs.sub ledger.startedAtMs).ge ledger.limits.campaignWindowMs then some .window
  else if atLimit ledger.failuresRecorded ledger.limits.failures then some .failures
  else if atLimit ledger.inFlight ledger.limits.concurrency then some .concurrency
  else if atLimit ledger.campaignUsed ledger.limits.campaignRequests then some .campaign
  else if atLimit (ledger.serviceRequestsUsed request.serviceKey) ledger.limits.serviceRequests then
    some .service
  else if atLimit (ledger.routeRequestsUsed request.routeKey) ledger.limits.routeRequests then
    some .route
  else none

def reservationFor (ledger : ProductionBudgetLedger) (request : ReservationRequest) :
    BudgetReservation where
  reservationId := .ofNat ledger.nextReservationId
  serviceKey := request.serviceKey
  routeKey := request.routeKey

def reserved (ledger : ProductionBudgetLedger) (request : ReservationRequest) :
    ProductionBudgetLedger :=
  { ledger with
    campaignUsed := ledger.campaignUsed + 1
    inFlight := ledger.inFlight + 1
    outstanding := ledger.outstanding ++ [.ofNat ledger.nextReservationId]
    serviceUsed :=
      mapSet request.serviceKey (ledger.serviceRequestsUsed request.serviceKey + 1)
        ledger.serviceUsed
    routeUsed :=
      mapSet request.routeKey (ledger.routeRequestsUsed request.routeKey + 1) ledger.routeUsed
    nextReservationId := ledger.nextReservationId + 1 }

def reserve (ledger : ProductionBudgetLedger) (request : ReservationRequest) :
    Except JsString (ReservationResult × ProductionBudgetLedger) :=
  if !isBudgetKey request.serviceKey || !isBudgetKey request.routeKey then
    .error "PRODUCTION_BUDGET_KEY_INVALID".toList
  else
    match ledger.exhaustedScope request with
    | some scope => .ok (.exhausted scope, ledger)
    | none => .ok (.ok (ledger.reservationFor request), ledger.reserved request)

def vacate (ledger : ProductionBudgetLedger) (id : JsNumber) : ProductionBudgetLedger :=
  { ledger with
    outstanding := ledger.outstanding.erase id
    inFlight := if 0 < ledger.inFlight then ledger.inFlight - 1 else ledger.inFlight }

def releaseReservation (ledger : ProductionBudgetLedger) (reservation : BudgetReservation) :
    ProductionBudgetLedger :=
  if reservation.reservationId ∈ ledger.outstanding then ledger.vacate reservation.reservationId
  else ledger

def settle (ledger : ProductionBudgetLedger) (reservation : BudgetReservation)
    (outcome : SettlementOutcome) : ProductionBudgetLedger :=
  if reservation.reservationId ∈ ledger.outstanding then
    let vacated := ledger.vacate reservation.reservationId
    if outcome = .failure then
      { vacated with failuresRecorded := vacated.failuresRecorded + 1 }
    else vacated
  else ledger

end ProductionBudgetLedger

open ProductionBudgetLedger

/-- The books of a ledger agree with each other and with its limits. -/
structure Balanced (ledger : ProductionBudgetLedger) : Prop where
  occupancy : ledger.inFlight = ledger.outstanding.length
  distinct : ledger.outstanding.Nodup
  numbered : ∀ id ∈ ledger.outstanding, ∃ n, n < ledger.nextReservationId ∧ id = .ofNat n
  serviceKeys : (ledger.serviceUsed.map Prod.fst).Nodup
  routeKeys : (ledger.routeUsed.map Prod.fst).Nodup
  serviceSum : (ledger.serviceUsed.map Prod.snd).sum = ledger.campaignUsed
  routeSum : (ledger.routeUsed.map Prod.snd).sum = ledger.campaignUsed
  concurrencyBound : Within ledger.inFlight ledger.limits.concurrency
  campaignBound : Within ledger.campaignUsed ledger.limits.campaignRequests
  serviceBound : ∀ key, Within (ledger.serviceRequestsUsed key) ledger.limits.serviceRequests
  routeBound : ∀ key, Within (ledger.routeRequestsUsed key) ledger.limits.routeRequests

theorem balanced_create (limits : Option ProductionBudgetLimits) (startedAtMs : JsNumber) :
    Balanced (.create limits startedAtMs) where
  occupancy := rfl
  distinct := List.nodup_nil
  numbered := by simp [create]
  serviceKeys := List.nodup_nil
  routeKeys := List.nodup_nil
  serviceSum := rfl
  routeSum := rfl
  concurrencyBound := within_zero _
  campaignBound := within_zero _
  serviceBound _ := within_zero _
  routeBound _ := within_zero _

section Operations

variable {ledger : ProductionBudgetLedger} {request : ReservationRequest}

theorem room_of_exhaustedScope (h : ledger.exhaustedScope request = none) :
    atLimit ledger.inFlight ledger.limits.concurrency = false ∧
      atLimit ledger.campaignUsed ledger.limits.campaignRequests = false ∧
      atLimit (ledger.serviceRequestsUsed request.serviceKey) ledger.limits.serviceRequests = false ∧
      atLimit (ledger.routeRequestsUsed request.routeKey) ledger.limits.routeRequests = false := by
  unfold exhaustedScope at h
  split_ifs at h with hwindow hfailures hconcurrency hcampaign hservice hroute
  simp only [Bool.not_eq_true] at hconcurrency hcampaign hservice hroute
  exact ⟨hconcurrency, hcampaign, hservice, hroute⟩

theorem serviceRequestsUsed_reserved (request : ReservationRequest) (key : JsString) :
    (ledger.reserved request).serviceRequestsUsed key =
      if key = request.serviceKey then ledger.serviceRequestsUsed request.serviceKey + 1
      else ledger.serviceRequestsUsed key := by
  show ((mapSet request.serviceKey _ ledger.serviceUsed).lookup key).getD 0 = _
  rw [lookup_mapSet]
  split_ifs with hkey
  · rfl
  · rfl

theorem routeRequestsUsed_reserved (request : ReservationRequest) (key : JsString) :
    (ledger.reserved request).routeRequestsUsed key =
      if key = request.routeKey then ledger.routeRequestsUsed request.routeKey + 1
      else ledger.routeRequestsUsed key := by
  show ((mapSet request.routeKey _ ledger.routeUsed).lookup key).getD 0 = _
  rw [lookup_mapSet]
  split_ifs with hkey
  · rfl
  · rfl

theorem next_not_mem (h : Balanced ledger) :
    JsNumber.ofNat ledger.nextReservationId ∉ ledger.outstanding := by
  intro hmem
  obtain ⟨n, hlt, heq⟩ := h.numbered _ hmem
  have hn := ofNat_injective heq
  omega

theorem balanced_reserved (h : Balanced ledger) {request : ReservationRequest}
    (hroom : ledger.exhaustedScope request = none) : Balanced (ledger.reserved request) := by
  obtain ⟨hconcurrency, hcampaign, hservice, hroute⟩ := room_of_exhaustedScope hroom
  constructor
  · show ledger.inFlight + 1 = (ledger.outstanding ++ [_]).length
    rw [List.length_append, h.occupancy]
    rfl
  · show (ledger.outstanding ++ [_]).Nodup
    rw [List.nodup_append_comm]
    exact List.nodup_cons.mpr ⟨next_not_mem h, h.distinct⟩
  · intro id hid
    rcases List.mem_append.mp hid with hid | hid
    · obtain ⟨n, hlt, heq⟩ := h.numbered id hid
      exact ⟨n, Nat.lt_succ_of_lt hlt, heq⟩
    · exact ⟨ledger.nextReservationId, Nat.lt_succ_self _, List.mem_singleton.mp hid⟩
  · exact nodup_mapSet h.serviceKeys
  · exact nodup_mapSet h.routeKeys
  · show ((mapSet request.serviceKey _ ledger.serviceUsed).map Prod.snd).sum = _
    exact sum_mapSet_succ.trans (congrArg (· + 1) h.serviceSum)
  · show ((mapSet request.routeKey _ ledger.routeUsed).map Prod.snd).sum = _
    exact sum_mapSet_succ.trans (congrArg (· + 1) h.routeSum)
  · exact within_succ hconcurrency
  · exact within_succ hcampaign
  · intro key
    rw [serviceRequestsUsed_reserved]
    split_ifs with hkey
    · exact within_succ hservice
    · exact h.serviceBound key
  · intro key
    rw [routeRequestsUsed_reserved]
    split_ifs with hkey
    · exact within_succ hroute
    · exact h.routeBound key

theorem balanced_vacate (h : Balanced ledger) {id : JsNumber} (hid : id ∈ ledger.outstanding) :
    Balanced (ledger.vacate id) := by
  have hpos : 0 < ledger.inFlight := by
    rw [h.occupancy]
    exact List.length_pos_of_mem hid
  have hslots : (ledger.vacate id).inFlight = ledger.inFlight - 1 := if_pos hpos
  constructor
  · rw [hslots, h.occupancy]
    exact (List.length_erase_of_mem hid).symm
  · exact h.distinct.erase id
  · intro other hother
    exact h.numbered other (List.mem_of_mem_erase hother)
  · exact h.serviceKeys
  · exact h.routeKeys
  · exact h.serviceSum
  · exact h.routeSum
  · intro q hq
    rw [hslots]
    exact (Nat.sub_le _ _).trans (h.concurrencyBound q hq)
  · exact h.campaignBound
  · exact h.serviceBound
  · exact h.routeBound

theorem balanced_releaseReservation (h : Balanced ledger) (reservation : BudgetReservation) :
    Balanced (ledger.releaseReservation reservation) := by
  unfold releaseReservation
  split_ifs with hid
  · exact balanced_vacate h hid
  · exact h

theorem balanced_settle (h : Balanced ledger) (reservation : BudgetReservation)
    (outcome : SettlementOutcome) : Balanced (ledger.settle reservation outcome) := by
  unfold settle
  split_ifs with hid hfailure
  · exact { balanced_vacate h hid with }
  · exact balanced_vacate h hid
  · exact h

variable {after : ProductionBudgetLedger} {result : ReservationResult}

theorem reserve_eq_ok (h : ledger.reserve request = .ok (result, after)) :
    (∃ scope, ledger.exhaustedScope request = some scope ∧ result = .exhausted scope ∧
        after = ledger) ∨
      ledger.exhaustedScope request = none ∧ result = .ok (ledger.reservationFor request) ∧
        after = ledger.reserved request := by
  unfold reserve at h
  split at h
  · contradiction
  · cases hscope : ledger.exhaustedScope request with
    | some scope =>
        simp only [hscope, Except.ok.injEq, Prod.mk.injEq] at h
        exact Or.inl ⟨scope, rfl, h.1.symm, h.2.symm⟩
    | none =>
        simp only [hscope, Except.ok.injEq, Prod.mk.injEq] at h
        exact Or.inr ⟨rfl, h.1.symm, h.2.symm⟩

theorem balanced_reserve (h : Balanced ledger) {request : ReservationRequest}
    (hreserve : ledger.reserve request = .ok (result, after)) : Balanced after := by
  rcases reserve_eq_ok hreserve with ⟨_, _, _, rfl⟩ | ⟨hroom, _, rfl⟩
  · exact h
  · exact balanced_reserved h hroom

theorem release_reserved (h : Balanced ledger) (request : ReservationRequest) :
    ((ledger.reserved request).releaseReservation (ledger.reservationFor request)).inFlight =
        ledger.inFlight ∧ ((ledger.reserved request).releaseReservation
        (ledger.reservationFor request)).outstanding = ledger.outstanding := by
  have hmem : (ledger.reservationFor request).reservationId ∈
      (ledger.reserved request).outstanding :=
    List.mem_append_right _ (List.mem_singleton_self _)
  rw [releaseReservation, if_pos hmem]
  constructor
  · rfl
  · show (ledger.outstanding ++ [JsNumber.ofNat ledger.nextReservationId]).erase
      (JsNumber.ofNat ledger.nextReservationId) = ledger.outstanding
    rw [List.erase_append_right _ (next_not_mem h), List.erase_cons_head, List.append_nil]

end Operations

end NightWatch.ProdObserve.Budget
