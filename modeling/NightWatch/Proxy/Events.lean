import NightWatch.Lib.JsRuntime
import NightWatch.Lib.PairedJournal
import NightWatch.Proxy.Types

namespace NightWatch.Proxy.Events

open Lib.JsText Lib.Guard Lib.JsData Lib.Json Lib.JsRuntime Lib.PairedJournal Proxy.Types

inductive EventKey where
  | seq
  | timestamp
  | runId
  | protocol
  | host
  | port
  | classification
  | semanticClassification
  | containment
  | decision
  | ruleId
  | reason
  | resolution
  | resolutionReason
  | answerCount
  | addressFamily
  | addressClass
  | connection
  | connectionFailure
  | containmentViolation
  | addressBindingVersion
  | effectId
  | phase
  | startNonce
  deriving DecidableEq

def EventKey.text : EventKey → JsString
  | seq => "seq".toList
  | timestamp => "timestamp".toList
  | runId => "runId".toList
  | protocol => "protocol".toList
  | host => "host".toList
  | port => "port".toList
  | classification => "classification".toList
  | semanticClassification => "semanticClassification".toList
  | containment => "containment".toList
  | decision => "decision".toList
  | ruleId => "ruleId".toList
  | reason => "reason".toList
  | resolution => "resolution".toList
  | resolutionReason => "resolutionReason".toList
  | answerCount => "answerCount".toList
  | addressFamily => "addressFamily".toList
  | addressClass => "addressClass".toList
  | connection => "connection".toList
  | connectionFailure => "connectionFailure".toList
  | containmentViolation => "containmentViolation".toList
  | addressBindingVersion => "addressBindingVersion".toList
  | effectId => "effectId".toList
  | phase => "phase".toList
  | startNonce => "startNonce".toList

/-- `PROXY_EVENT_KEYS`, in the order in which an event is written. -/
def proxyEventKeys : List EventKey :=
  [.seq, .timestamp, .runId, .protocol, .host, .port, .classification, .semanticClassification,
    .containment, .decision, .ruleId, .reason, .resolution, .resolutionReason, .answerCount,
    .addressFamily, .addressClass, .connection, .connectionFailure, .containmentViolation,
    .addressBindingVersion, .effectId, .phase, .startNonce]

def resolutionOutcomes : List JsString :=
  ["not-attempted".toList, "admitted".toList, "denied".toList, "failed".toList]

def connectionOutcomes : List JsString :=
  ["not-attempted".toList, "attempted".toList, "connected".toList, "failed".toList]

def addressClasses : List JsString :=
  ["unspecified".toList, "loopback".toList, "private".toList, "unique-local".toList,
    "link-local".toList, "shared".toList, "documentation".toList, "benchmark".toList,
    "multicast".toList, "broadcast".toList, "reserved".toList, "special-use".toList,
    "global-unicast".toList]

def connectionFailures : List JsString :=
  ["CONNECTION_REFUSED".toList, "CONNECTION_TIMEOUT".toList, "CLIENT_ABORTED".toList,
    "TRANSPORT_FAILURE".toList, "PROXY_SHUTDOWN".toList]

def containmentViolations : List JsString :=
  ["RESOLVED_ADDRESS_POLICY_DENIED".toList, "RESOLUTION_FAILED".toList,
    "EXACT_ADDRESS_BINDING_FAILED".toList]

def proxyEffectPhases : List JsString := ["PREPARED".toList, "TERMINAL".toList]

def hostClasses : List JsString :=
  ["production".toList, "dev".toList, "next".toList, "local".toList, "unknown-alphaus".toList,
    "external".toList, "static".toList, "telemetry".toList, "optional-third-party-support".toList,
    "browser-background-google".toList, "browser-background-update".toList,
    "browser-background-download".toList, "internal".toList]

def semanticClassifications : List JsString :=
  ["EXPECTED".toList, "TELEMETRY".toList, "BROWSER_BACKGROUND_GOOGLE".toList,
    "BROWSER_BACKGROUND_UPDATE".toList, "BROWSER_BACKGROUND_DOWNLOAD".toList,
    "OPTIONAL_THIRD_PARTY_SUPPORT".toList, "UNKNOWN".toList, "PRODUCTION_DENIED".toList]

def verdicts : List JsString :=
  ["allow".toList, "deny".toList, "block-telemetry".toList, "block-optional-support".toList,
    "block-browser-background".toList]

def protocols : List JsString := ["http".toList, "https-connect".toList, "ws".toList, "wss".toList]

def isControl (c : Char) : Bool := c.toNat ≤ 0x1f || c.toNat = 0x7f

/-- `safeText(value, max)` on a text. -/
def safeString (max : Nat) (s : JsString) : Bool :=
  s ≠ [] && utf16Length s ≤ max && s.all fun c => !isControl c

def safeText (max : Nat) : JsValue → Bool
  | .str s => safeString max s
  | _ => false

/-- `set.has(value)` for a set of texts. -/
def hasText (set : List JsString) : JsValue → Bool
  | .str s => set.contains s
  | _ => false

/-- A safe integer from zero to `max`. -/
def integerUpTo (max : Nat) : JsValue → Bool
  | .num n => n.isSafeInteger && n.ge (.ofNat 0) && (JsNumber.ofNat max).ge n
  | _ => false

/-- `value === undefined ||`. -/
def optionally (check : JsValue → Bool) : JsValue → Bool
  | .undefined => true
  | value => check value

def isIdChar (c : Char) : Bool := c.isAlphanum || c = '.' || c = '_' || c = '-'

def isReasonChar (c : Char) : Bool := c.isUpper || c.isDigit || c = '_'

def isLowerHex (c : Char) : Bool := c.isDigit || ('a' ≤ c && c ≤ 'f')

/-- A text that `/[\\/@\u0000-\u001f\u007f]/` does not match. -/
def hostText (max : Nat) : JsValue → Bool
  | .str s => utf16Length s ≤ max && s.all fun c => !("\\/@".toList.contains c || isControl c)
  | _ => false

def fieldCheck (rt : Runtime) : EventKey → JsValue → Bool
  | .seq => integerUpTo 1000000000
  | .timestamp => fun value => safeText 64 value && rt.parsesDate (stringOf rt value)
  | .runId => fun value => safeText 128 value && allOf isIdChar (stringOf rt value)
  | .protocol => fun value => safeText 32 value && hasText protocols value
  | .host => hostText 253
  | .port => fun value =>
      match value with
      | .null => true
      | value => integerUpTo 65535 value
  | .classification => fun value => safeText 64 value && hasText hostClasses value
  | .semanticClassification =>
      optionally fun value => safeText 64 value && hasText semanticClassifications value
  | .containment => optionally (hasText ["EXPECTED_CONTAINMENT_EFFECT".toList])
  | .decision => fun value => safeText 64 value && hasText verdicts value
  | .ruleId => safeText 128
  | .reason => safeText 512
  | .resolution => optionally (hasText resolutionOutcomes)
  | .resolutionReason => optionally fun value => upTo 64 isReasonChar (stringOf rt value)
  | .answerCount => optionally (integerUpTo 8)
  | .addressFamily => optionally fun value =>
      match value with
      | .num n => n = .ofNat 4 || n = .ofNat 6
      | _ => false
  | .addressClass => optionally (hasText addressClasses)
  | .connection => optionally (hasText connectionOutcomes)
  | .connectionFailure => optionally (hasText connectionFailures)
  | .containmentViolation => optionally (hasText containmentViolations)
  | .addressBindingVersion => optionally (hasText [AddressBindingVersion.exactAddress.text])
  | .effectId => optionally fun value => upTo 64 isIdChar (stringOf rt value)
  | .phase => optionally (hasText proxyEffectPhases)
  | .startNonce => optionally fun value =>
      allOf isLowerHex (stringOf rt value) && (stringOf rt value).length = 32

abbrev Fields := List (JsString × JsValue)

def fieldAt (event : Fields) (key : EventKey) : JsValue := JsValue.field event key.text

def hostPresent (event : Fields) : Bool :=
  !hasText [[]] (fieldAt event .host) || hasText ["parse-failure".toList] (fieldAt event .ruleId)

def phaseCoherent (event : Fields) : Bool :=
  (fieldAt event .phase).isUndefined == (fieldAt event .effectId).isUndefined

def knownKeys (event : Fields) : Bool :=
  event.all (fun field => (proxyEventKeys.map EventKey.text).contains field.1) &&
    9 ≤ event.length

def isPersistable (rt : Runtime) (event : Fields) : Bool :=
  knownKeys event && proxyEventKeys.all (fun key => fieldCheck rt key (fieldAt event key)) &&
    hostPresent event && phaseCoherent event

def validateProxyEventForPersistence (rt : Runtime) : JsValue → Except JsString Fields
  | .obj event =>
      if isPersistable rt event then .ok event else .error "PROXY_EVENT_SCHEMA_INVALID".toList
  | _ => .error "PROXY_EVENT_SCHEMA_INVALID".toList

abbrev ProxyEvent := EventKey → Option JsValue

def ProxyEvent.entry (event : ProxyEvent) (key : EventKey) : Option (JsString × JsValue) :=
  (event key).map fun value => (key.text, value)

def ProxyEvent.fields (event : ProxyEvent) : Fields := proxyEventKeys.filterMap event.entry

def ProxyEvent.value (event : ProxyEvent) : JsValue := .obj event.fields

def appendProxyEvent (rt : Runtime) (log : JsString) (event : ProxyEvent) :
    Except JsString JsString := do
  let validated ← validateProxyEventForPersistence rt event.value
  .ok (log ++ rt.jsonStringify (.obj validated) ++ ['\n'])

inductive EffectKey where
  | null
  | bool (b : Bool)
  | num (n : JsNumber)
  | str (s : JsString)
  | object (line : Nat)
  deriving DecidableEq

def effectKey (line : Nat) : JsValue → EffectKey
  | .undefined | .null => .null
  | .bool b => .bool b
  | .num n => .num n
  | .str s => .str s
  | .arr _ | .obj _ => .object line

def eventHalf (line : Nat) (event : Fields) : Half EffectKey :=
  let effectId := fieldAt event .effectId
  let phase := fieldAt event .phase
  if effectId.isUndefined || phase.isUndefined then .plain
  else if hasText ["PREPARED".toList] phase then .prepared (effectKey line effectId)
  else .terminal (effectKey line effectId)

def ledgerInvalid {α : Type} (code : JsString) : Except JsString α :=
  .error ("PROXY_EVIDENCE_LEDGER_INVALID:".toList ++ code)

def faultCode : Fault → JsString
  | .duplicatePrepared => "DUPLICATE_PREPARED".toList
  | .terminalBeforePrepared => "TERMINAL_BEFORE_PREPARED".toList
  | .orphanTerminal => "ORPHAN_TERMINAL".toList
  | .duplicateTerminal => "DUPLICATE_TERMINAL".toList
  | .unmatchedPrepared => "UNMATCHED_PREPARED".toList

def readLine (rt : Runtime) (line : JsString) : Except JsString Fields :=
  match rt.jsonParse line with
  | none => ledgerInvalid "MALFORMED_LINE".toList
  | some value =>
      match validateProxyEventForPersistence rt value with
      | .error _ => ledgerInvalid "MALFORMED_EVENT".toList
      | .ok event => .ok event

def readLines (rt : Runtime) (events : List Fields) (seen : Seen EffectKey) :
    List JsString → Except JsString (List Fields)
  | [] =>
      match settle seen with
      | .error fault => ledgerInvalid (faultCode fault)
      | .ok () => .ok events
  | line :: rest => do
      let event ← readLine rt line
      match advance seen (eventHalf events.length event) with
      | .error fault => ledgerInvalid (faultCode fault)
      | .ok seen => readLines rt (events ++ [event]) seen rest

def logLines (raw : JsString) : List JsString := (splitLines raw).filter fun line => line ≠ []

/-- The strict reader; `none` is a log file that cannot be read. -/
def readProxyEventLedger (rt : Runtime) : Option JsString → Except JsString (List Fields)
  | none => ledgerInvalid "UNREADABLE".toList
  | some raw => readLines rt [] Seen.empty (logLines raw)

def halvesFrom (line : Nat) : List Fields → List (Half EffectKey)
  | [] => []
  | event :: rest => eventHalf line event :: halvesFrom (line + 1) rest

def halves (events : List Fields) : List (Half EffectKey) := halvesFrom 0 events

variable {rt : Runtime} {event : ProxyEvent} {value : JsValue} {events : List Fields}
  {key : EventKey}

theorem validate_eq_ok {event : Fields} : validateProxyEventForPersistence rt value = .ok event ↔
      value = .obj event ∧ isPersistable rt event = true := by
  constructor
  · intro h
    cases value with
    | obj fields =>
        rw [validateProxyEventForPersistence] at h
        split at h
        · rename_i hpersistable
          cases h
          exact ⟨rfl, hpersistable⟩
        · contradiction
    | _ => contradiction
  · rintro ⟨rfl, hpersistable⟩
    exact if_pos hpersistable

theorem readLine_eq_ok {line : JsString} {event : Fields} : readLine rt line = .ok event ↔
      rt.jsonParse line = some (.obj event) ∧ isPersistable rt event = true := by
  unfold readLine
  constructor
  · intro h
    split at h
    · contradiction
    · rename_i value hparse
      split at h
      · contradiction
      · rename_i read hvalid
        cases h
        obtain ⟨rfl, hpersistable⟩ := validate_eq_ok.mp hvalid
        exact ⟨hparse, hpersistable⟩
  · rintro ⟨hparse, hpersistable⟩
    rw [hparse]
    dsimp only
    rw [validate_eq_ok.mpr ⟨rfl, hpersistable⟩]

theorem readLines_eq_ok {lines : List JsString} {all : List Fields}
    {seen : Seen EffectKey} : readLines rt events seen lines = .ok all ↔
      ∃ more, all = events ++ more ∧
        List.Forall₂ (fun line event => readLine rt line = .ok event) lines more ∧
        ∃ last, scan seen (halvesFrom events.length more) = .ok last ∧ settle last = .ok () := by
  induction lines generalizing events seen with
  | nil =>
      rw [readLines]
      constructor
      · intro h
        split at h
        · contradiction
        · rename_i hsettle
          cases h
          exact ⟨[], (List.append_nil _).symm, .nil, seen, rfl, hsettle⟩
      · rintro ⟨more, rfl, hmore, last, hscan, hsettle⟩
        cases hmore
        cases hscan
        rw [hsettle, List.append_nil]
  | cons line rest ih =>
      rw [readLines, bind_eq_ok]
      constructor
      · rintro ⟨event, hline, h⟩
        split at h
        · contradiction
        · rename_i next hadvance
          obtain ⟨more, rfl, hmore, last, hscan, hsettle⟩ := ih.mp h
          refine ⟨event :: more, by simp, .cons hline hmore, last, ?_, hsettle⟩
          rw [List.length_append, List.length_singleton] at hscan
          rw [halvesFrom, scan, bind_eq_ok]
          exact ⟨next, hadvance, hscan⟩
      · rintro ⟨more, rfl, hmore, last, hscan, hsettle⟩
        cases hmore with
        | @cons _ event _ more hline hmore =>
            rw [halvesFrom, scan, bind_eq_ok] at hscan
            obtain ⟨next, hadvance, hscan⟩ := hscan
            refine ⟨event, hline, ?_⟩
            rw [hadvance]
            apply ih.mpr
            refine ⟨more, by simp, hmore, last, ?_, hsettle⟩
            rwa [List.length_append, List.length_singleton]

theorem readProxyEventLedger_eq_ok {raw : JsString} :
    readProxyEventLedger rt (some raw) = .ok events ↔
      List.Forall₂ (fun line event => readLine rt line = .ok event) (logLines raw) events ∧
        Paired (halves events) := by
  have hcheck : (∃ last, scan Seen.empty (halves events) = .ok last ∧ settle last = .ok ()) ↔
      Paired (halves events) := by
    rw [← check_eq_ok, check, bind_eq_ok]
  rw [readProxyEventLedger, readLines_eq_ok, ← hcheck]
  constructor
  · rintro ⟨more, rfl, hmore, hscan⟩
    exact ⟨hmore, hscan⟩
  · rintro ⟨hlines, hscan⟩
    exact ⟨events, rfl, hlines, hscan⟩

def EventKey.ofText (text : JsString) : Option EventKey :=
  proxyEventKeys.find? fun key => key.text = text

theorem EventKey.text_injective : Function.Injective EventKey.text := by
  have hinverse : ∀ key : EventKey, EventKey.ofText key.text = some key := by
    intro key
    cases key <;> decide
  intro key other h
  have hkey := hinverse key
  rw [h, hinverse other] at hkey
  exact (Option.some.inj hkey).symm

theorem mem_proxyEventKeys (key : EventKey) : key ∈ proxyEventKeys := by
  cases key <;> decide

theorem entry_none (h : event key = none) : event.entry key = none := by
  rw [ProxyEvent.entry, h]
  rfl

theorem entry_some (h : event key = some value) : event.entry key = some (key.text, value) := by
  rw [ProxyEvent.entry, h]
  rfl

theorem lookup_fields (event : ProxyEvent) (key : EventKey) (keys : List EventKey) :
    (keys.filterMap event.entry).lookup key.text = if key ∈ keys then event key else none := by
  induction keys with
  | nil => rfl
  | cons k keys ih =>
      by_cases hk : k = key
      · subst hk
        cases hvalue : event k with
        | none =>
            rw [List.filterMap_cons_none (entry_none hvalue), ih, hvalue]
            simp
        | some value =>
            rw [List.filterMap_cons_some (entry_some hvalue), List.lookup_cons_self]
            simp
      · have htext : (key.text == k.text) = false := by
          simpa using fun h => hk (EventKey.text_injective h).symm
        have hmem : key ∈ k :: keys ↔ key ∈ keys := by simp [Ne.symm hk]
        cases hvalue : event k with
        | none =>
            rw [List.filterMap_cons_none (entry_none hvalue), ih]
            simp only [hmem]
        | some value =>
            rw [List.filterMap_cons_some (entry_some hvalue), List.lookup_cons, htext, ih]
            simp only [hmem]

@[simp] theorem fieldAt_fields (event : ProxyEvent) (key : EventKey) :
    fieldAt event.fields key = (event key).getD .undefined := by
  rw [fieldAt, JsValue.field, ProxyEvent.fields, lookup_fields, if_pos (mem_proxyEventKeys key)]

theorem fieldCheck_of_isPersistable (h : isPersistable rt event.fields = true) (key : EventKey) :
    fieldCheck rt key ((event key).getD .undefined) = true := by
  rw [isPersistable, Bool.and_assoc, Bool.and_assoc, Bool.and_eq_true, Bool.and_eq_true] at h
  have hkey := List.all_eq_true.mp h.2.1 key (mem_proxyEventKeys key)
  rwa [fieldAt_fields] at hkey

theorem names_fields (event : ProxyEvent) :
    (event.fields.map Prod.fst).Sublist (proxyEventKeys.map EventKey.text) := by
  unfold ProxyEvent.fields
  induction proxyEventKeys with
  | nil => exact .slnil
  | cons key keys ih =>
      cases hvalue : event key with
      | none =>
          rw [List.filterMap_cons_none (entry_none hvalue)]
          exact ih.cons key.text
      | some value =>
          rw [List.filterMap_cons_some (entry_some hvalue)]
          exact ih.cons_cons key.text

theorem isJson_value (h : ∀ key value, event key = some value →
    IsScalar value) : IsJson event.value := by
  have hnodup : (proxyEventKeys.map EventKey.text).Nodup :=
    List.Nodup.map EventKey.text_injective (by decide)
  have hnames : ∀ name ∈ proxyEventKeys.map EventKey.text, IsName name := by decide
  refine .obj ((names_fields event).nodup hnodup)
    (fun name hname => hnames name ((names_fields event).subset hname)) ?_
  intro value hvalue
  obtain ⟨field, hfield, rfl⟩ := List.mem_map.mp hvalue
  obtain ⟨key, -, hkey⟩ := List.mem_filterMap.mp hfield
  obtain ⟨value, hsome, rfl⟩ := Option.map_eq_some_iff.mp hkey
  exact .scalar (h key value hsome)

end NightWatch.Proxy.Events
