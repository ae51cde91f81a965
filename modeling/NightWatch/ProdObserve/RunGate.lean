import NightWatch.Lib.GateChain
import NightWatch.Lib.JsRuntime
import NightWatch.ProdObserve.Authorization
import NightWatch.ProdObserve.Budget

/-!
The admission kernel: eighteen ordered gates over explicitly presented facts. Only
three things change while it runs: the kill-switch probe may call the grant registry, a
reservation is taken before dispatch, and a full allow consumes the grant.
-/

namespace NightWatch.ProdObserve.RunGate

open Lib.JsText Lib.JsData Lib.JsRuntime ProdObserve.Types ProdObserve.Budget
  ProdObserve.Authorization

/-- What a probe does when it is called: it may call the registry, and then it answers
`true`, answers anything else, or throws. -/
inductive ProbeAnswer where
  | engaged
  | clear
  | throws

structure ProbeCall where
  calls : List RegistryCall
  answer : ProbeAnswer

structure KillSwitchProbe where
  entry : ProbeCall
  predispatch : ProbeCall

inductive KillSwitchState where
  | absent
  | engaged
  deriving DecidableEq

def evaluateKillSwitch (probe : ProbeCall) : KillSwitchState :=
  match probe.answer with
  | .clear => .absent
  | .engaged | .throws => .engaged

structure ObservationWindow where
  notBeforeMs : JsNumber
  notAfterMs : JsNumber

structure ProdObserveConfig where
  admittedHosts : List JsString
  observationWindow : ObservationWindow

inductive VocabularyAuthorityMarker where
  | production
  | testOnly

/-- A capability carries the marker it was minted with; a shape that was never minted
carries none. -/
inductive RouteVocabularySource where
  | noProvenRouteVocabulary
  | vocabulary (marker : Option VocabularyAuthorityMarker) (templates : List JsString)

inductive InventoryState where
  | complete
  | truncated
  | unknown
  deriving DecidableEq

inductive CurrencyState where
  | current
  | stale
  | unknown
  deriving DecidableEq

structure ProductionSourceFacts where
  inventoryState : InventoryState
  currencyState : CurrencyState

structure ReadOnlyProofFacts where
  proven : Bool
  witnessCount : JsNumber
  stale : Bool

inductive PrivacyCone where
  | production
  | dev
  deriving DecidableEq

structure PrivacyPolicy where
  cone : PrivacyCone

structure ProductionRequestIntent where
  method : JsString
  host : JsString
  routeTemplate : JsString
  hasBody : Bool
  mutationClassification : Option JsString
  parameters : List JsValue
  serviceKey : JsString
  routeKey : JsString

structure ProductionAdmissionInput where
  campaignId : JsString
  stage : ProductionObservationStage
  nowMs : JsNumber
  environmentClass : EnvironmentClass
  killSwitchProbe : KillSwitchProbe
  requestedAuthorizationClass : RequestableAuthorizationClass
  grant : GrantCandidate
  config : Option ProdObserveConfig
  observerIdentityClass : ObserverIdentityClass
  source : ProductionSourceFacts
  readOnlyProof : ReadOnlyProofFacts
  routeVocabulary : RouteVocabularySource
  resolvedAddressesAdmitted : Bool
  intent : ProductionRequestIntent
  privacyPolicy : Option PrivacyPolicy
  containment : ContainmentQualificationState
  /-- The categories the breaker board has opened. -/
  breakers : List BreakerCategory

structure ProductionAdmissionOutcome extends AdmissionDecision where
  reservation : Option BudgetReservation

structure AdmissionWorld where
  registry : GrantRegistry
  ledger : ProductionBudgetLedger

def containmentSatisfies (state : ContainmentQualificationState)
    (environmentClass : EnvironmentClass) : Bool :=
  match state with
  | .proven => true
  | .notExercisedBwrapUnavailable => environmentClass = .ci
  | .notReady => false

/-- `observerIdentitySatisfies`, with the code of a failure. -/
def observerIdentityDenial (stage : ProductionObservationStage) (actual : ObserverIdentityClass) :
    Option ProductionDenialCode :=
  match stageObserverIdentityMinimum stage with
  | none => none
  | some minimum =>
      if actual = .unknown then some .observerIdentityUnknown
      else if minimum = .orgEnforcedReadOnly ∧ actual ≠ .orgEnforcedReadOnly then
        some .observerIdentityBelowStageMinimum
      else none

def isRouteSegment (segment : JsString) : Bool :=
  allOf (fun c => c.isAlphanum || c == '.' || c == '_' || c == '~' || c == '-') segment ||
    match segment with
    | '{' :: c :: rest =>
        c.isAlpha && rest.getLast? == some '}' &&
          rest.dropLast.all fun d => d.isAlphanum || d == '_'
    | _ => false

/-- `ROUTE_TEMPLATE_RE`. -/
def isRouteTemplate (template : JsString) : Bool :=
  ["GET /".toList, "HEAD /".toList, "OPTIONS /".toList].any fun lead =>
    startsWith template lead &&
      let segments := (template.drop lead.length).splitOn '/'
      segments.all isRouteSegment ||
        segments.getLast? == some [] && segments.dropLast != [] &&
          segments.dropLast.all isRouteSegment

/-- `assertSourceProvenRoute`, with the message of the error it throws. -/
def assertSourceProvenRoute (source : RouteVocabularySource) (routeTemplate : JsString) :
    Except JsString Unit :=
  if !isRouteTemplate routeTemplate then
    .error "PRODUCTION_PRIVACY_ROUTE_PROVENANCE_UNRESOLVED:ROUTE_TEMPLATE_INVALID".toList
  else
    match source with
    | .noProvenRouteVocabulary =>
        .error "PRODUCTION_PRIVACY_ROUTE_PROVENANCE_UNRESOLVED:ROUTE_NOT_SOURCE_PROVEN".toList
    | .vocabulary none _ =>
        .error "PRODUCTION_PRIVACY_VOCABULARY_INVALID:CAPABILITY_NOT_MINTED".toList
    | .vocabulary (some .testOnly) _ =>
        .error "PRODUCTION_PRIVACY_VOCABULARY_INVALID:CAPABILITY_TEST_ONLY".toList
    | .vocabulary (some .production) templates =>
        if routeTemplate ∈ templates then .ok ()
        else .error "PRODUCTION_PRIVACY_ROUTE_PROVENANCE_UNRESOLVED:ROUTE_NOT_SOURCE_PROVEN".toList

/-- `/AUTHORITY|TEST_ONLY|BRAND/i`. -/
def namesVocabularyAuthority (message : JsString) : Bool :=
  ["AUTHORITY".toList, "TEST_ONLY".toList, "BRAND".toList].any fun word =>
    includes (message.map Char.toUpper) word

def parameterProvenanceVersion : JsString := "nightwatch.request-parameter-provenance.v1".toList

/-- `PARAMETER_HANDLE_RE`. -/
def isParameterHandle (s : JsString) : Bool :=
  startsWith s "pph_".toList && (s.drop 4).length == 32 && (s.drop 4).all isLowerHex

/-- `assertHandleNotValue` does not throw. -/
def isHandleNotValue : JsValue → Bool
  | .obj fields =>
      match JsValue.field fields "version".toList, JsValue.field fields "handle".toList with
      | .str version, .str handle =>
          version = parameterProvenanceVersion && isParameterHandle handle
      | _, _ => false
  | _ => false

/-- `/\/\d{3,}(?:\/|$)/`. -/
def hasNumericSegment (routeTemplate : JsString) : Bool :=
  (routeTemplate.splitOn '/').tail.any fun segment =>
    decide (3 ≤ segment.length) && segment.all Char.isDigit

variable (rt : Runtime) (digest : JsString → JsString) (input : ProductionAdmissionInput)

/-- `isAdmittedProductionHost`. -/
def isAdmittedProductionHost (config : ProdObserveConfig) (host : JsString) : Bool :=
  host != [] && decide (rt.toLowerCase host ∈ config.admittedHosts)

def authorizationClassDenial : Except JsString (Option ProductionDenialCode) :=
  if input.requestedAuthorizationClass ≠ .prodObserve then
    .ok (some .authorizationClassNotProdObserve)
  else
    match input.grant with
    | .minted object =>
        if object.grant.authorizationClass = .prodObserve then .ok none
        else .ok (some .authorizationClassNotProdObserve)
    | .other .undefined =>
        .error "Cannot read properties of undefined (reading 'authorizationClass')".toList
    | .other (.obj fields) =>
        match JsValue.field fields "authorizationClass".toList with
        | .str s =>
            if s = "PROD_OBSERVE".toList then .ok none
            else .ok (some .authorizationClassNotProdObserve)
        | _ => .ok (some .authorizationClassNotProdObserve)
    | .other _ => .ok (some .authorizationClassNotProdObserve)

def organizationWindowDenial : Option ProductionDenialCode :=
  match input.config with
  | none => some .organizationWindowAbsent
  | some config =>
      if input.nowMs.lt config.observationWindow.notBeforeMs then
        some .organizationWindowNotYetValid
      else if input.nowMs.ge config.observationWindow.notAfterMs then
        some .organizationWindowExpired
      else none

def sourceCurrencyDenial : Option ProductionDenialCode :=
  if input.source.inventoryState ≠ .complete then some .sourceIncomplete
  else if input.source.currencyState ≠ .current then some .sourceStale
  else none

def readOnlyProofDenial : Option ProductionDenialCode :=
  if !input.readOnlyProof.proven || input.readOnlyProof.witnessCount.lt (.ofNat 2) then
    some .readOnlyProofAbsent
  else if input.readOnlyProof.stale then some .readOnlyProofStale
  else none

def routeAuthorityDenial : Option ProductionDenialCode :=
  match assertSourceProvenRoute input.routeVocabulary input.intent.routeTemplate with
  | .ok () => none
  | .error message =>
      if namesVocabularyAuthority message then some .routeVocabularyUntrusted
      else some .routeNotSourceProven

def hostAdmissionDenial : Option ProductionDenialCode :=
  match input.config with
  | none => some .hostNotAdmitted
  | some config =>
      if isAdmittedProductionHost rt config input.intent.host then none else some .hostNotAdmitted

def methodAndBodyDenial : Option ProductionDenialCode :=
  if input.intent.method ∉ productionReadMethods then some .methodNotPermitted
  else if input.intent.hasBody then some .bodyPresent
  else if input.intent.mutationClassification ≠ none then some .mutationClassificationPresent
  else none

def parameterProvenanceDenial : Option ProductionDenialCode :=
  if !input.intent.parameters.all isHandleNotValue then some .parameterProvenanceInvalid
  else if hasNumericSegment input.intent.routeTemplate then some .parameterConcreteValuePresent
  else none

def privacyCapabilityDenial : Option ProductionDenialCode :=
  match input.privacyPolicy with
  | none => some .privacyCapabilityAbsent
  | some policy => if policy.cone = .production then none else some .privacyConeNotProduction

def denyUnless (condition : Bool) (code : ProductionDenialCode) : Option ProductionDenialCode :=
  if condition then none else some code

def factDenial : ProductionAdmissionGate → Except JsString (Option ProductionDenialCode)
  | .authorizationClass => authorizationClassDenial input
  | .configurationIntegrity =>
      .ok (denyUnless input.config.isSome .configurationIntegrityFailed)
  | .organizationWindow => .ok (organizationWindowDenial input)
  | .observerIdentity => .ok (observerIdentityDenial input.stage input.observerIdentityClass)
  | .sourceCurrency => .ok (sourceCurrencyDenial input)
  | .readOnlyProof => .ok (readOnlyProofDenial input)
  | .routeAuthority => .ok (routeAuthorityDenial input)
  | .hostAdmission => .ok (hostAdmissionDenial rt input)
  | .addressPolicy =>
      .ok (denyUnless input.resolvedAddressesAdmitted .resolvedAddressNotAdmitted)
  | .methodAndBody => .ok (methodAndBodyDenial input)
  | .parameterProvenance => .ok (parameterProvenanceDenial input)
  | .privacyCapability => .ok (privacyCapabilityDenial input)
  | .containmentReadiness =>
      .ok (denyUnless (containmentSatisfies input.containment input.environmentClass)
        .containmentNotReady)
  | .breakerState => .ok (denyUnless input.breakers.isEmpty .breakerOpen)
  | .killSwitchEntry | .ownerAuthorization | .budgetReservation | .killSwitchPredispatch =>
      .ok none

structure Progress where
  world : AdmissionWorld
  reservation : Option BudgetReservation

structure Thrown where
  message : JsString
  world : AdmissionWorld

def AdmissionWorld.probed (world : AdmissionWorld) (probe : ProbeCall) : AdmissionWorld :=
  { world with registry := world.registry.performAll probe.calls }

def ownerAuthorizationDenial (registry : GrantRegistry) : Option ProductionDenialCode :=
  match registry.validateProdObserveGrant input.grant input.campaignId input.nowMs with
  | .ok _ => none
  | .error code => some code

def reservationRequest : ReservationRequest where
  serviceKey := input.intent.serviceKey
  routeKey := input.intent.routeKey
  nowMs := input.nowMs

def gateCheck (gate : ProductionAdmissionGate) (progress : Progress) :
    Except Thrown (Option ProductionDenialCode × Progress) :=
  match gate with
  | .killSwitchEntry =>
      let probe := input.killSwitchProbe.entry
      .ok (denyUnless (evaluateKillSwitch probe = .absent) .killSwitchEngagedAtEntry,
        { progress with world := progress.world.probed probe })
  | .ownerAuthorization =>
      .ok (ownerAuthorizationDenial input progress.world.registry, progress)
  | .budgetReservation =>
      match progress.world.ledger.reserve (reservationRequest input) with
      | .error message => .error ⟨message, progress.world⟩
      | .ok (.exhausted _, _) => .ok (some .budgetExhausted, progress)
      | .ok (.ok reservation, ledger) =>
          .ok (none, ⟨{ progress.world with ledger := ledger }, some reservation⟩)
  | .killSwitchPredispatch =>
      let probe := input.killSwitchProbe.predispatch
      .ok (denyUnless (evaluateKillSwitch probe = .absent) .killSwitchEngagedBeforeDispatch,
        { progress with world := progress.world.probed probe })
  | gate =>
      match factDenial rt input gate with
      | .error message => .error ⟨message, progress.world⟩
      | .ok denial => .ok (denial, progress)

structure ChainState where
  outcomes : List GateOutcome
  denialCode : Option ProductionDenialCode
  deniedAtGate : Option ProductionAdmissionGate
  progress : Progress

def ChainState.start (world : AdmissionWorld) : ChainState := ⟨[], none, none, ⟨world, none⟩⟩

def ChainState.push (state : ChainState) (gate : ProductionAdmissionGate) (result : GateResult) :
    ChainState :=
  { state with outcomes := state.outcomes ++ [⟨gate, result, none⟩] }

def ChainState.deny (state : ChainState) (gate : ProductionAdmissionGate)
    (code : ProductionDenialCode) : Except Thrown ChainState :=
  if code ∉ gateDenialCodes gate then
    .error ⟨"PRODUCTION_GATE_DENIAL_CODE_INVALID:".toList ++ gate.text ++ ":".toList ++ code.text,
      state.progress.world⟩
  else
    .ok { state with
      outcomes := state.outcomes ++ [⟨gate, .deny, some code⟩]
      denialCode := some code
      deniedAtGate := some gate }

def stepGate (state : ChainState) (gate : ProductionAdmissionGate) : Except Thrown ChainState :=
  if state.denialCode.isSome then .ok (state.push gate .notEvaluated)
  else
    match gateCheck rt input gate state.progress with
    | .error thrown => .error thrown
    | .ok (none, progress) => .ok (({ state with progress := progress } : ChainState).push gate .pass)
    | .ok (some code, progress) =>
        ({ state with progress := progress } : ChainState).deny gate code

def productionChainDefinitionDigest : JsString :=
  "prodchain:".toList ++ digest (rt.jsonStringify (.obj [
    ("version".toList, .str productionAdmissionChainVersion),
    ("gates".toList, .arr (productionAdmissionGates.map fun gate => .str gate.text)),
    ("denialCodes".toList, .arr (productionAdmissionGates.map fun gate =>
      .arr ((gateDenialCodes gate).map fun code => .str code.text)))]))

def decision (outcomes : List GateOutcome) (allowed : Bool)
    (denialCode : Option ProductionDenialCode) (deniedAtGate : Option ProductionAdmissionGate)
    (reservation : Option BudgetReservation) : ProductionAdmissionOutcome where
  chainVersion := productionAdmissionChainVersion
  gateDefinitionDigest := productionChainDefinitionDigest rt digest
  orderedGates := productionAdmissionGates
  outcomes := outcomes
  allowed := allowed
  denialCode := denialCode
  deniedAtGate := deniedAtGate
  deniedBeforeDispatch := !allowed
  reservation := reservation

def Progress.released (progress : Progress) : AdmissionWorld :=
  match progress.reservation with
  | none => progress.world
  | some reservation =>
      { progress.world with ledger := progress.world.ledger.releaseReservation reservation }

/-- After the loop a denial releases the reservation, and a full allow consumes the grant, which
another caller may have spent in the meantime. -/
def concludeAdmission (state : ChainState) : ProductionAdmissionOutcome × AdmissionWorld :=
  let progress := state.progress
  if state.denialCode.isSome then
    (decision rt digest state.outcomes false state.denialCode state.deniedAtGate
      progress.reservation, progress.released)
  else
    match progress.world.registry.consumeProdObserveGrant input.grant with
    | (none, registry) =>
        (decision rt digest state.outcomes true none none progress.reservation,
          { progress.world with registry := registry })
    | (some code, _) =>
        (decision rt digest (state.outcomes.set 1 ⟨.ownerAuthorization, .deny, some code⟩) false
          (some code) (some .ownerAuthorization) progress.reservation, progress.released)

def evaluateProductionAdmission (world : AdmissionWorld) :
    Except JsString ProductionAdmissionOutcome × AdmissionWorld :=
  match productionAdmissionGates.foldlM (stepGate rt input) (.start world) with
  | .error thrown => (.error thrown.message, thrown.world)
  | .ok state =>
      let (outcome, after) := concludeAdmission rt digest input state
      (.ok outcome, after)

end NightWatch.ProdObserve.RunGate
