import NightWatch.Lib.Machine
import NightWatch.Proxy.Events
import NightWatch.Proxy.PolicyAdapter
import NightWatch.Proxy.Resolver
import NightWatch.Safety.AdmissionTickets
import NightWatch.Safety.EndpointSemantics

/-!
One proxy instance. Each handler runs in segments between its awaits, and segments of
different handlers interleave freely over the shared evidence state and ticket ledger.
File operations succeed; what a socket, the resolver or the clock delivers is an input.
-/

namespace NightWatch.Proxy.Server

open Lib.JsText Lib.JsData Lib.JsRuntime Lib.Machine Lib.WebUrl Safety.AdmissionTickets
  Safety.EndpointSemantics Environment.Config Proxy.AddressPolicy Proxy.Events Proxy.PolicyAdapter
  Proxy.Resolver Proxy.Types

def isIsoChar (c : Char) : Bool := c.isDigit || "+-:.TZ".toList.contains c

/-- `new Date().toISOString()`. -/
structure IsoTimestamp (rt : Runtime) where
  text : JsString
  valid : upTo 27 isIsoChar text = true
  parses : rt.parsesDate text = true

def hexByte (b : Fin 256) : JsString := [(b.val / 16).digitChar, (b.val % 16).digitChar]

/-- The constants of an instance: its policy's environment, the run id it carries and the octets of
its start nonce. -/
structure ProxyInstance where
  environment : EnvironmentConfig
  requestedRunId : JsString
  nonce : List (Fin 256)
  nonce_length : nonce.length = 16

namespace ProxyInstance

def runId (proxy : ProxyInstance) : JsString :=
  if upTo 128 isIdChar proxy.requestedRunId then proxy.requestedRunId
  else "playwright-suite".toList

def startNonce (proxy : ProxyInstance) : JsString := proxy.nonce.flatMap hexByte

end ProxyInstance

/-- The optional fields a handler passes to `record`. -/
structure Lifecycle where
  resolution : Option ProxyResolutionOutcome := none
  resolutionReason : Option ProxyResolutionReason := none
  answerCount : Option Nat := none
  addressFamily : Option AddressFamily := none
  addressClass : Option ResolvedAddressClass := none
  connection : Option ProxyConnectionOutcome := none
  connectionFailure : Option ProxyConnectionFailureReason := none
  containmentViolation : Option ProxyContainmentViolation := none
  addressBindingVersion : Option AddressBindingVersion := none
  effectId : Option JsString := none
  phase : Option EffectPhase := none

def recordedHost (rt : Runtime) (classified : ProxyClassification) : JsString :=
  match classified.target with
  | some target => stripBrackets (rt.toLowerCase target.url.hostname)
  | none => classified.decision.host

def recordedPort : Option ProxyTarget → JsValue
  | none => .null
  | some target => if target.port ≤ 65535 then .num (.ofNat target.port) else .null

/-- The event `record` writes. It has no place for the pairing identity: `effectId` and `phase` of a
handler are left out. -/
def recordedEvent (rt : Runtime) (proxy : ProxyInstance) (seq : Nat) (now : IsoTimestamp rt)
    (protocol : ProxyProtocol) (classified : ProxyClassification) (lifecycle : Lifecycle) :
    ProxyEvent
  | .seq => some (.num (.ofNat seq))
  | .timestamp => some (.str now.text)
  | .runId => some (.str proxy.runId)
  | .protocol => some (.str protocol.text)
  | .host => some (.str (recordedHost rt classified))
  | .port => some (recordedPort classified.target)
  | .classification => some (.str classified.decision.hostClass.text)
  | .semanticClassification => some (.str classified.decision.classification.text)
  | .containment =>
      if classified.decision.verdict = .blockBrowserBackground then
        some (.str "EXPECTED_CONTAINMENT_EFFECT".toList)
      else none
  | .decision => some (.str classified.decision.verdict.text)
  | .ruleId => some (.str classified.ruleId)
  | .reason => some (.str classified.decision.reason)
  | .resolution => some (.str (lifecycle.resolution.getD .notAttempted).text)
  | .resolutionReason => lifecycle.resolutionReason.map fun reason => .str reason.text
  | .answerCount => lifecycle.answerCount.map fun count => .num (.ofNat count)
  | .addressFamily => lifecycle.addressFamily.map fun family => .num (.ofNat family.number)
  | .addressClass => lifecycle.addressClass.map fun addressClass => .str addressClass.text
  | .connection => some (.str (lifecycle.connection.getD .notAttempted).text)
  | .connectionFailure => lifecycle.connectionFailure.map fun failure => .str failure.text
  | .containmentViolation =>
      lifecycle.containmentViolation.map fun violation => .str violation.text
  | .addressBindingVersion => lifecycle.addressBindingVersion.map fun version => .str version.text
  | .effectId | .phase => none
  | .startNonce => some (.str proxy.startNonce)

/-- What `record` reads and writes, with every event it has built so far. -/
structure Evidence where
  eventSeq : Nat
  evidenceWriteFailed : Bool
  log : JsString
  built : List ProxyEvent

def Evidence.start : Evidence := ⟨0, false, [], []⟩

/-- `none` is the answer `-1`. -/
def record (rt : Runtime) (proxy : ProxyInstance) (now : IsoTimestamp rt)
    (protocol : ProxyProtocol) (classified : ProxyClassification) (lifecycle : Lifecycle)
    (evidence : Evidence) : Option Nat × Evidence :=
  if evidence.evidenceWriteFailed then (none, evidence)
  else
    let seq := evidence.eventSeq
    let event := recordedEvent rt proxy seq now protocol classified lifecycle
    let built := evidence.built ++ [event]
    match appendProxyEvent rt evidence.log event with
    | .ok log => (some seq, ⟨seq + 1, false, log, built⟩)
    | .error _ => (none, ⟨seq + 1, true, evidence.log, built⟩)

def resolutionFailureViolation (resolution : ProxyResolution) : ProxyContainmentViolation :=
  if resolution.outcome = .denied then .resolvedAddressPolicyDenied else .resolutionFailed

def resolutionLifecycle (resolution : ProxyResolution) : Lifecycle where
  resolution := some resolution.outcome
  resolutionReason := some resolution.reason
  answerCount := some resolution.answerCount
  containmentViolation :=
    if resolution.outcome = .admitted then none else some (resolutionFailureViolation resolution)

def cancelledLifecycle : Lifecycle where
  resolution := some .failed
  resolutionReason := some .resolutionCancelled
  connection := some .notAttempted

def unselectedLifecycle (resolution : ProxyResolution) : Lifecycle :=
  { resolutionLifecycle resolution with connection := some .notAttempted }

def abortedLifecycle (resolution : ProxyResolution) : Lifecycle :=
  { unselectedLifecycle resolution with
    connectionFailure := if resolution.outcome = .admitted then some .clientAborted else none }

def boundLifecycle (resolution : ProxyResolution) (selected : AdmittedResolvedAddress)
    (connection : ProxyConnectionOutcome) : Lifecycle :=
  { resolutionLifecycle resolution with
    addressFamily := some selected.family
    addressClass := some selected.addressClass
    connection := some connection
    addressBindingVersion := some .exactAddress }

def preparedLifecycle (resolution : ProxyResolution) (selected : AdmittedResolvedAddress)
    (effectId : JsString) : Lifecycle :=
  { boundLifecycle resolution selected .attempted with
    effectId := some effectId
    phase := some .prepared }

def unboundLifecycle (resolution : ProxyResolution) (selected : AdmittedResolvedAddress) :
    Lifecycle :=
  { boundLifecycle resolution selected .failed with
    connectionFailure := some .transportFailure
    containmentViolation := some .exactAddressBindingFailed }

structure ConnectionResult where
  outcome : ProxyConnectionOutcome
  failure : Option ProxyConnectionFailureReason

def terminalLifecycle (resolution : ProxyResolution) (selected : AdmittedResolvedAddress)
    (result : ConnectionResult) (effectId : JsString) : Lifecycle :=
  { boundLifecycle resolution selected result.outcome with
    connectionFailure := result.failure
    effectId := some effectId
    phase := some .terminal }

inductive ConnectionEvent where
  | connected
  | timedOut
  | errored (code : Option JsString)
  | clientClosed
  deriving DecidableEq

def connectionFailureReason (code : Option JsString) (shuttingDown : Bool) :
    ProxyConnectionFailureReason :=
  if shuttingDown then .proxyShutdown
  else if code = some "ECONNREFUSED".toList then .connectionRefused
  else if code = some "ETIMEDOUT".toList || code = some "ESOCKETTIMEDOUT".toList then
    .connectionTimeout
  else .transportFailure

def connectionResult (shuttingDown : Bool) : ConnectionEvent → ConnectionResult
  | .connected => ⟨.connected, none⟩
  | .timedOut => ⟨.failed, some .connectionTimeout⟩
  | .errored code => ⟨.failed, some (connectionFailureReason code shuttingDown)⟩
  | .clientClosed => ⟨.failed, some .clientAborted⟩

inductive ClientRequest where
  | forward (url method hostHeader : Option JsString)
  | connect (url : Option JsString)
  | upgrade (url hostHeader : Option JsString)

inductive HandlerKind where
  | forward
  | tunnel
  deriving DecidableEq

structure AllowedRequest where
  kind : HandlerKind
  protocol : ProxyProtocol
  classified : ProxyClassification
  target : ProxyTarget
  target_eq : classified.target = some target

inductive HandlerState where
  | resolving (request : AllowedRequest)
  | connecting (request : AllowedRequest) (resolution : ProxyResolution)
      (selected : AdmittedResolvedAddress) (effectId : JsString)
  | returned (status : Option Nat)

inductive GateAnswer where
  | admitted
  | refused
  | threw

abbrev Gate (rt : Runtime) :=
  Url → AdmissionTicketLedger rt → GateAnswer × AdmissionTicketLedger rt

def apiHostTarget (rt : Runtime) (env : EnvironmentConfig) (url : Url) : Bool :=
  (env.apiHosts.getD []).any (ruleHostMatches rt url)

def ticketGate (rt : Runtime) (method : JsString) : Gate rt := fun url tickets =>
  let answer := tickets.consume ⟨url.origin, method, url.pathname⟩
  (if answer.1 then .admitted else .refused, answer.2)

def tunnelGate (rt : Runtime) : Gate rt := fun url tickets =>
  let answer := tickets.authorizeTunnel url.hostname
  (match answer.1 with
    | .admitted => .admitted
    | .threw => .threw
    | .capabilityMissing | .budgetExceeded => .refused, answer.2)

structure ClassifiedRequest (rt : Runtime) where
  kind : HandlerKind
  protocol : ProxyProtocol
  classified : ProxyClassification
  gate : Gate rt

def upgradeUrl (url hostHeader : Option JsString) : JsString :=
  let rawUrl := url.getD []
  let host := hostHeader.getD []
  if startsWith rawUrl "/".toList && host ≠ [] then "ws://".toList ++ host ++ rawUrl else rawUrl

def upgradeProtocol (classified : ProxyClassification) : ProxyProtocol :=
  if classified.target.any fun target => target.protocol = .wss then .wss else .ws

def classifyRequest (rt : Runtime) (env : EnvironmentConfig) : ClientRequest → ClassifiedRequest rt
  | .forward url method hostHeader => {
      kind := .forward
      protocol := .http
      classified := classifyForwardRequest rt env url hostHeader
      gate := ticketGate rt (method.getD "GET".toList) }
  | .connect url => {
      kind := .tunnel
      protocol := .httpsConnect
      classified := classifyProxyConnect rt env (url.getD [])
      gate := tunnelGate rt }
  | .upgrade url hostHeader =>
      let classified := classifyProxyUrl rt env (upgradeUrl url hostHeader)
      { kind := .tunnel
        protocol := upgradeProtocol classified
        classified := classified
        gate := ticketGate rt "WS".toList }

def isHealthCheck : ClientRequest → Bool
  | .forward url method _ =>
      url = some "/__nightwatch_health".toList && method = some "GET".toList
  | _ => false

structure ProxyState (rt : Runtime) where
  evidence : Evidence
  shuttingDown : Bool
  tickets : AdmissionTicketLedger rt
  handlers : List HandlerState

def ProxyState.start (rt : Runtime) : ProxyState rt :=
  ⟨.start, false, .empty rt, []⟩

section Segments

variable (rt : Runtime) (proxy : ProxyInstance)

def passGate (request : ClassifiedRequest rt) (url : Url) (tickets : AdmissionTicketLedger rt) :
    GateAnswer × AdmissionTicketLedger rt :=
  if apiHostTarget rt proxy.environment url then request.gate url tickets else (.admitted, tickets)

def admitRequest (request : ClassifiedRequest rt) (gone : Bool) (now : IsoTimestamp rt)
    (s : ProxyState rt) : HandlerState × ProxyState rt :=
  let recorded (lifecycle : Lifecycle) : ProxyState rt :=
    { s with
      evidence := (record rt proxy now request.protocol request.classified lifecycle s.evidence).2 }
  match htarget : request.classified.target with
  | none => (.returned (some 403), recorded {})
  | some target =>
      if request.classified.decision.verdict ≠ .allow then (.returned (some 403), recorded {})
      else
        let answer := passGate rt proxy request target.url s.tickets
        match answer.1 with
        | .threw => (.returned (some 502), { s with tickets := answer.2 })
        | .refused => (.returned (some 403), { recorded {} with tickets := answer.2 })
        | .admitted =>
            if s.shuttingDown || gone then
              (.returned (match request.kind with
                  | .forward => none
                  | .tunnel => some 502),
                { recorded cancelledLifecycle with tickets := answer.2 })
            else
              (.resolving ⟨request.kind, request.protocol, request.classified, target, htarget⟩,
                { s with tickets := answer.2 })

def startHandler (request : ClientRequest) (gone : Bool) (now : IsoTimestamp rt)
    (s : ProxyState rt) : HandlerState × ProxyState rt :=
  if isHealthCheck request then
    (.returned (some (if s.evidence.evidenceWriteFailed then 503 else 204)), s)
  else if s.evidence.evidenceWriteFailed then (.returned (some 502), s)
  else admitRequest rt proxy (classifyRequest rt proxy.environment request) gone now s

def targetFromResolution (resolution : ProxyResolution) : Option AdmittedResolvedAddress :=
  if resolution.outcome = .admitted then resolution.selected else none

def prepareEffect (request : AllowedRequest) (resolution : ProxyResolution)
    (selected : AdmittedResolvedAddress) (dialThrows : Bool) (now later : IsoTimestamp rt)
    (evidence : Evidence) : HandlerState × Evidence :=
  let effectId := "effect-".toList ++ decimal evidence.eventSeq
  let prepared := record rt proxy now request.protocol request.classified
    (preparedLifecycle resolution selected effectId) evidence
  match prepared.1 with
  | none => (.returned (some 502), prepared.2)
  | some _ =>
      if dialThrows then
        (.returned (some 502), (record rt proxy later request.protocol request.classified
          (unboundLifecycle resolution selected) prepared.2).2)
      else (.connecting request resolution selected effectId, prepared.2)

/-- The segment after the resolution. A forward handler looks at its client before the address; the
other two do it together. -/
def afterResolution (request : AllowedRequest) (resolution : ProxyResolution)
    (cancelled dialThrows : Bool) (now later : IsoTimestamp rt) (evidence : Evidence) :
    HandlerState × Evidence :=
  let recorded (lifecycle : Lifecycle) : Evidence :=
    (record rt proxy now request.protocol request.classified lifecycle evidence).2
  match request.kind, targetFromResolution resolution with
  | .forward, selected =>
      if cancelled then (.returned none, recorded (abortedLifecycle resolution))
      else
        match selected with
        | none => (.returned (some 502), recorded (unselectedLifecycle resolution))
        | some selected => prepareEffect rt proxy request resolution selected dialThrows now later
            evidence
  | .tunnel, none => (.returned (some 502), recorded (unselectedLifecycle resolution))
  | .tunnel, some selected =>
      if cancelled then (.returned (some 502), recorded (unselectedLifecycle resolution))
      else prepareEffect rt proxy request resolution selected dialThrows now later evidence

def afterConnection (request : AllowedRequest) (resolution : ProxyResolution)
    (selected : AdmittedResolvedAddress) (effectId : JsString) (result : ConnectionResult)
    (now : IsoTimestamp rt) (evidence : Evidence) : HandlerState × Evidence :=
  let recorded := record rt proxy now request.protocol request.classified
    (terminalLifecycle resolution selected result effectId) evidence
  let status :=
    match request.kind, recorded.1 with
    | .tunnel, some _ => if result.outcome = .failed then some 502 else none
    | _, _ => none
  (.returned status, recorded.2)

/-- What happens to an instance: a request arrives, an awaited promise settles, the rest
of the process uses the ticket ledger, or the instance is closed. -/
inductive ProxyInput where
  | request (request : ClientRequest) (gone : Bool) (now : IsoTimestamp rt)
  | resolved (handler : Nat) (settled : ResolverSettled) (gone dialThrows : Bool)
      (now later : IsoTimestamp rt)
  | connection (handler : Nat) (event : ConnectionEvent) (now : IsoTimestamp rt)
  | tickets (tickets : AdmissionTicketLedger rt)
  | close

def advance (s : ProxyState rt) (handler : Nat) (next : HandlerState × Evidence) : ProxyState rt :=
  { s with evidence := next.2, handlers := s.handlers.set handler next.1 }

def step (s : ProxyState rt) : ProxyInput rt → Option (ProxyState rt)
  | .request request gone now =>
      let next := startHandler rt proxy request gone now s
      some { next.2 with handlers := next.2.handlers ++ [next.1] }
  | .resolved handler settled gone dialThrows now later =>
      match s.handlers[handler]? with
      | some (.resolving request) =>
          let resolution := resolveAndAdmitTarget rt request.target.hostname
            proxy.environment.name settled
          some (advance rt s handler (afterResolution rt proxy request resolution
            (s.shuttingDown || gone) dialThrows now later s.evidence))
      | _ => none
  | .connection handler event now =>
      match s.handlers[handler]? with
      | some (.connecting request resolution selected effectId) =>
          if event = .clientClosed && request.kind = .forward then none
          else
            some (advance rt s handler (afterConnection rt proxy request resolution selected
              effectId (connectionResult s.shuttingDown event) now s.evidence))
      | _ => none
  | .tickets tickets => some { s with tickets := tickets }
  | .close => some { s with shuttingDown := true }

def proxySystem : System (ProxyState rt) (ProxyInput rt) where
  start := .start rt
  step s input s' := step rt proxy s input = some s'

variable {rt proxy}

theorem proxySystem_step {s s' : ProxyState rt} {input : ProxyInput rt} :
    (proxySystem rt proxy).step s input s' ↔ step rt proxy s input = some s' := Iff.rfl

end Segments

end NightWatch.Proxy.Server
