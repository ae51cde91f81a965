import NightWatch.ProdObserve.Types

namespace NightWatch.ProdObserve.Authorization

open Lib.JsText Lib.JsData ProdObserve.Types

def prodObserveGrantVersion : JsString := "nightwatch.prod-observe-grant.v1".toList

inductive GrantLifecycleState where
  | issued
  | consumed
  | revoked
  deriving DecidableEq

structure ProdObserveGrant where
  schemaVersion : JsString
  authorizationClass : RequestableAuthorizationClass
  grantId : JsString
  campaignId : JsString
  stage : ProductionObservationStage
  notBeforeMs : JsNumber
  expiresAtMs : JsNumber
  deriving DecidableEq

structure GrantObject where
  identity : Nat
  grant : ProdObserveGrant
  deriving DecidableEq

inductive GrantCandidate where
  | minted (object : GrantObject)
  | other (value : JsValue)

structure RegistryEntry where
  object : GrantObject
  state : GrantLifecycleState

structure GrantRegistry where
  entries : List (JsString × RegistryEntry)
  objects : Nat

def GrantRegistry.empty : GrantRegistry := ⟨[], 0⟩

def isLowerHex (c : Char) : Bool := c.isDigit || ('a' ≤ c && c ≤ 'f')

/-- `crypto.randomBytes(16).toString('hex')`. -/
structure RandomHex where
  text : JsString
  length : text.length = 32
  hex : ∀ c ∈ text, isLowerHex c = true

structure IssueGrantRequest where
  campaignId : JsString
  stage : ProductionObservationStage
  notBeforeMs : JsNumber
  expiresAtMs : JsNumber

/-- `GRANT_ID_RE`. -/
def isGrantId (s : JsString) : Bool :=
  startsWith s "pog_".toList && (s.drop 4).length == 32 && (s.drop 4).all isLowerHex

namespace GrantRegistry

def mintedGrant (request : IssueGrantRequest) (random : RandomHex) : ProdObserveGrant where
  schemaVersion := prodObserveGrantVersion
  authorizationClass := .prodObserve
  grantId := "pog_".toList ++ random.text
  campaignId := request.campaignId
  stage := request.stage
  notBeforeMs := request.notBeforeMs
  expiresAtMs := request.expiresAtMs

def issueProdObserveGrant (registry : GrantRegistry) (request : IssueGrantRequest)
    (random : RandomHex) : Except JsString (GrantObject × GrantRegistry) :=
  if trim request.campaignId = [] then .error "PROD_OBSERVE_GRANT_CAMPAIGN_INVALID".toList
  else if !request.notBeforeMs.isFinite || !request.expiresAtMs.isFinite then
    .error "PROD_OBSERVE_GRANT_WINDOW_INVALID".toList
  else if request.notBeforeMs.ge request.expiresAtMs then
    .error "PROD_OBSERVE_GRANT_WINDOW_INVALID".toList
  else
    let object : GrantObject := ⟨registry.objects, mintedGrant request random⟩
    .ok (object,
      ⟨mapSet object.grant.grantId ⟨object, .issued⟩ registry.entries, registry.objects + 1⟩)

/-- The entry under the id of a candidate, if the candidate is its very object, which a value that
was not minted never is. -/
def registeredEntry (registry : GrantRegistry) : GrantCandidate → Option RegistryEntry
  | .minted object =>
      if isGrantId object.grant.grantId then
        (registry.entries.lookup object.grant.grantId).filter (·.object = object)
      else none
  | .other _ => none

def isRegisteredGrant (registry : GrantRegistry) (candidate : GrantCandidate) : Bool :=
  (registry.registeredEntry candidate).isSome

/-- `none` is the source's `UNREGISTERED`. -/
def grantLifecycleState (registry : GrantRegistry) (candidate : GrantCandidate) :
    Option GrantLifecycleState :=
  (registry.registeredEntry candidate).map (·.state)

/-- `validateProdObserveGrant`, with the code of the refusal. -/
def validateProdObserveGrant (registry : GrantRegistry) (candidate : GrantCandidate)
    (campaignId : JsString) (nowMs : JsNumber) : Except ProductionDenialCode ProdObserveGrant :=
  match registry.registeredEntry candidate with
  | none => .error .authorizationAbsent
  | some entry =>
      let grant := entry.object.grant
      if entry.state = .consumed then .error .alreadyConsumed
      else if entry.state = .revoked then .error .authorizationAbsent
      else if grant.campaignId ≠ campaignId then .error .authorizationScopeMismatch
      else if nowMs.lt grant.notBeforeMs || nowMs.ge grant.expiresAtMs then
        .error .authorizationExpired
      else .ok grant

/-- `entry.state = state` for the entry of a grant object. -/
def setState (registry : GrantRegistry) (object : GrantObject) (state : GrantLifecycleState) :
    GrantRegistry :=
  { registry with entries := mapSet object.grant.grantId ⟨object, state⟩ registry.entries }

/-- `consumeProdObserveGrant`: `none` is a consumption, otherwise the code of the refusal. -/
def consumeProdObserveGrant (registry : GrantRegistry) (candidate : GrantCandidate) :
    Option ProductionDenialCode × GrantRegistry :=
  match registry.registeredEntry candidate with
  | none => (some .authorizationAbsent, registry)
  | some entry =>
      if entry.state ≠ .issued then (some .alreadyConsumed, registry)
      else (none, registry.setState entry.object .consumed)

def revokeProdObserveGrant (registry : GrantRegistry) (candidate : GrantCandidate) :
    GrantRegistry :=
  match registry.registeredEntry candidate with
  | none => registry
  | some entry =>
      if entry.state = .issued then registry.setState entry.object .revoked else registry

end GrantRegistry

inductive RegistryCall where
  | issue (request : IssueGrantRequest) (random : RandomHex)
  | revoke (candidate : GrantCandidate)
  | consume (candidate : GrantCandidate)

namespace GrantRegistry

def perform (registry : GrantRegistry) : RegistryCall → GrantRegistry
  | .issue request random =>
      match registry.issueProdObserveGrant request random with
      | .ok (_, after) => after
      | .error _ => registry
  | .revoke candidate => registry.revokeProdObserveGrant candidate
  | .consume candidate => (registry.consumeProdObserveGrant candidate).2

def performAll (registry : GrantRegistry) (calls : List RegistryCall) : GrantRegistry :=
  calls.foldl perform registry

end GrantRegistry

open GrantRegistry

/-- The call takes the grant out of its issued state, if it is in it. -/
def RegistryCall.Spends (call : RegistryCall) (object : GrantObject) : Prop :=
  call = .revoke (.minted object) ∨ call = .consume (.minted object)

/-- The grant object was minted by one of the calls. -/
def MintedBy (calls : List RegistryCall) (object : GrantObject) : Prop :=
  ∃ past request random after rest, calls = past ++ .issue request random :: rest ∧
    (empty.performAll past).issueProdObserveGrant request random = .ok (object, after)

/-- The grant object was minted by one of the calls, and no later call spent it. -/
def UnspentAfter (calls : List RegistryCall) (object : GrantObject) : Prop :=
  ∃ past request random after rest, calls = past ++ .issue request random :: rest ∧
    (empty.performAll past).issueProdObserveGrant request random = .ok (object, after) ∧
    ∀ call ∈ rest, ¬ call.Spends object

section Calls

variable {registry : GrantRegistry} {object : GrantObject}

@[simp]
theorem performAll_append (calls more : List RegistryCall) :
    registry.performAll (calls ++ more) = (registry.performAll calls).performAll more :=
  List.foldl_append

@[simp]
theorem performAll_singleton (call : RegistryCall) :
    registry.performAll [call] = registry.perform call := rfl

variable {entry : RegistryEntry}

theorem registeredEntry_eq_some {candidate : GrantCandidate} :
    registry.registeredEntry candidate = some entry ↔
      candidate = .minted entry.object ∧ isGrantId entry.object.grant.grantId = true ∧
        registry.entries.lookup entry.object.grant.grantId = some entry := by
  cases candidate with
  | other value =>
      constructor
      · intro h
        contradiction
      · rintro ⟨h, -⟩
        contradiction
  | minted object =>
      rw [registeredEntry]
      constructor
      · intro h
        split at h
        · rename_i hid
          obtain ⟨hlookup, hobject⟩ := Option.filter_eq_some_iff.mp h
          have heq : entry.object = object := of_decide_eq_true hobject
          rw [heq]
          exact ⟨rfl, hid, hlookup⟩
        · contradiction
      · rintro ⟨hobject, hid, hlookup⟩
        have heq : object = entry.object := GrantCandidate.minted.inj hobject
        rw [heq, if_pos hid, hlookup]
        simp

/-- Everything a call can do to the registry. -/
inductive Performs (registry : GrantRegistry) : RegistryCall → GrantRegistry → Prop
  | minted {request : IssueGrantRequest} {random : RandomHex} {object : GrantObject}
      {after : GrantRegistry}
      (hissue : registry.issueProdObserveGrant request random = .ok (object, after)) :
      Performs registry (.issue request random) after
  | spent {call : RegistryCall} {object : GrantObject} {state : GrantLifecycleState}
      (hspends : call.Spends object)
      (hentry : registry.registeredEntry (.minted object) = some ⟨object, .issued⟩)
      (hstate : state ≠ .issued) : Performs registry call (registry.setState object state)
  | kept {call : RegistryCall} (hidle : ∀ object, call.Spends object →
      registry.registeredEntry (.minted object) ≠ some ⟨object, .issued⟩) :
      Performs registry call registry

theorem registeredEntry_minted
    (h : registry.registeredEntry (.minted object) = some entry) : entry.object = object :=
  (GrantCandidate.minted.inj (registeredEntry_eq_some.mp h).1).symm

variable {after : GrantRegistry}

theorem performs_spend {call : RegistryCall} (candidate : GrantCandidate)
    (state : GrantLifecycleState) (hstate : state ≠ .issued)
    (hcall : ∀ object, call.Spends object ↔ candidate = .minted object)
    (hkept : (∀ entry, registry.registeredEntry candidate = some entry → entry.state ≠ .issued) →
      after = registry)
    (hspent : ∀ entry, registry.registeredEntry candidate = some entry → entry.state = .issued →
      after = registry.setState entry.object state) : Performs registry call after := by
  by_cases hentry : ∃ entry, registry.registeredEntry candidate = some entry ∧ entry.state = .issued
  · obtain ⟨⟨object, entryState⟩, hentry, rfl⟩ := hentry
    rw [hspent _ hentry rfl]
    have hcandidate := (registeredEntry_eq_some.mp hentry).1
    exact .spent ((hcall object).mpr hcandidate) (hcandidate ▸ hentry) hstate
  · rw [hkept fun entry h hissued => hentry ⟨entry, h, hissued⟩]
    apply Performs.kept
    intro object hspends h
    exact hentry ⟨_, (hcall object).mp hspends ▸ h, rfl⟩

theorem performs_perform (registry : GrantRegistry) (call : RegistryCall) :
    Performs registry call (registry.perform call) := by
  cases call with
  | issue request random =>
      cases hissue : registry.issueProdObserveGrant request random with
      | ok minted =>
          rw [perform, hissue]
          exact .minted hissue
      | error message =>
          rw [perform, hissue]
          apply Performs.kept
          rintro object (h | h)
          · contradiction
          · contradiction
  | revoke candidate =>
      apply performs_spend candidate .revoked
      · decide
      · intro object
        simp [RegistryCall.Spends]
      · intro hkept
        rw [perform, revokeProdObserveGrant]
        cases hentry : registry.registeredEntry candidate with
        | none => rfl
        | some entry => exact if_neg (hkept entry hentry)
      · intro entry hentry hissued
        rw [perform, revokeProdObserveGrant, hentry]
        exact if_pos hissued
  | consume candidate =>
      apply performs_spend candidate .consumed
      · decide
      · intro object
        simp [RegistryCall.Spends]
      · intro hkept
        rw [perform, consumeProdObserveGrant]
        cases hentry : registry.registeredEntry candidate with
        | none => rfl
        | some entry => simp [hkept entry hentry]
      · intro entry hentry hissued
        rw [perform, consumeProdObserveGrant, hentry]
        simp [hissued]

theorem issue_eq_ok {request : IssueGrantRequest} {random : RandomHex}
    (h : registry.issueProdObserveGrant request random = .ok (object, after)) :
    object = ⟨registry.objects, mintedGrant request random⟩ ∧
      after = ⟨mapSet object.grant.grantId ⟨object, .issued⟩ registry.entries,
        registry.objects + 1⟩ := by
  unfold issueProdObserveGrant at h
  split_ifs at h
  obtain ⟨hobject, hafter⟩ := Prod.mk.inj (Except.ok.inj h)
  exact ⟨hobject.symm, by rw [← hafter, hobject]⟩

theorem isGrantId_mintedGrant (request : IssueGrantRequest) (random : RandomHex) :
    isGrantId (mintedGrant request random).grantId = true := by
  have hdrop : ("pog_".toList ++ random.text).drop 4 = random.text := rfl
  have hstart : startsWith ("pog_".toList ++ random.text) "pog_".toList = true :=
    List.isPrefixOf_iff_prefix.mpr (List.prefix_append _ _)
  rw [isGrantId, mintedGrant, hdrop, hstart, random.length]
  simpa using random.hex

theorem objects_le_perform (registry : GrantRegistry) (call : RegistryCall) :
    registry.objects ≤ (registry.perform call).objects := by
  have hperforms := performs_perform registry call
  generalize registry.perform call = after at hperforms ⊢
  cases hperforms with
  | minted hissue =>
      rw [(issue_eq_ok hissue).2]
      exact Nat.le_succ _
  | spent hspends hentry hstate => exact le_rfl
  | kept hidle => exact le_rfl

theorem objects_le_performAll (registry : GrantRegistry) (calls : List RegistryCall) :
    registry.objects ≤ (registry.performAll calls).objects := by
  induction calls generalizing registry with
  | nil => exact le_rfl
  | cons call rest ih => exact (objects_le_perform registry call).trans (ih _)

end Calls

/-- What the calls made so far say about the registry they lead to. -/
structure Held (calls : List RegistryCall) (registry : GrantRegistry) : Prop where
  known : ∀ key entry, registry.entries.lookup key = some entry →
    entry.object.identity < registry.objects ∧ key = entry.object.grant.grantId ∧
      isGrantId key = true ∧ MintedBy calls entry.object
  unspent : ∀ key entry, registry.entries.lookup key = some entry → entry.state = .issued →
    UnspentAfter calls entry.object

variable {calls : List RegistryCall}

theorem MintedBy.concat {object : GrantObject}
    (h : MintedBy calls object) (call : RegistryCall) : MintedBy (calls ++ [call]) object := by
  obtain ⟨past, request, random, after, rest, rfl, hissue⟩ := h
  exact ⟨past, request, random, after, rest ++ [call], by simp, hissue⟩

theorem UnspentAfter.concat {object : GrantObject}
    (h : UnspentAfter calls object) {call : RegistryCall} (hcall : ¬ call.Spends object) :
    UnspentAfter (calls ++ [call]) object := by
  obtain ⟨past, request, random, after, rest, rfl, hissue, hrest⟩ := h
  refine ⟨past, request, random, after, rest ++ [call], by simp, hissue, ?_⟩
  intro later hlater
  rcases List.mem_append.mp hlater with hlater | hlater
  · exact hrest later hlater
  · rw [List.mem_singleton.mp hlater]
    exact hcall

theorem held_perform (h : Held calls (empty.performAll calls))
    (call : RegistryCall) : Held (calls ++ [call]) (empty.performAll (calls ++ [call])) := by
  rw [performAll_append, performAll_singleton]
  have hkept : ∀ key entry, (empty.performAll calls).entries.lookup key = some entry →
      (entry.state = .issued → ¬ call.Spends entry.object) →
      (entry.state = .issued → UnspentAfter (calls ++ [call]) entry.object) := by
    intro key entry hlookup hidle hissued
    exact (h.unspent key entry hlookup hissued).concat (hidle hissued)
  generalize hregistry : empty.performAll calls = registry at *
  have hperforms := performs_perform registry call
  generalize registry.perform call = final at hperforms ⊢
  cases hperforms with
  | @minted request random object after hissue =>
      obtain ⟨hobject, hafter⟩ := issue_eq_ok hissue
      have hminted : MintedBy (calls ++ [.issue request random]) object :=
        ⟨calls, request, random, _, [], by simp, hregistry ▸ hissue⟩
      rw [hafter]
      constructor
      · intro key entry hlookup
        rw [lookup_mapSet] at hlookup
        split_ifs at hlookup with hkey
        · cases hlookup
          refine ⟨?_, hkey, ?_, hminted⟩
          · rw [hobject]
            exact Nat.lt_succ_self _
          · rw [hkey, hobject]
            exact isGrantId_mintedGrant request random
        · obtain ⟨hlt, hid, hform, hby⟩ := h.known key entry hlookup
          exact ⟨Nat.lt_succ_of_lt hlt, hid, hform, hby.concat _⟩
      · intro key entry hlookup hissued
        rw [lookup_mapSet] at hlookup
        split_ifs at hlookup with hkey
        · cases hlookup
          exact ⟨calls, request, random, _, [], by simp, hregistry ▸ hissue, by simp⟩
        · apply hkept key entry hlookup _ hissued
          rintro - (hspends | hspends)
          · contradiction
          · contradiction
  | @spent _ object state hspends hentry hstate =>
      obtain ⟨-, hform, hlookupObject⟩ := registeredEntry_eq_some.mp hentry
      constructor
      · intro key entry hlookup
        rw [setState, lookup_mapSet] at hlookup
        split_ifs at hlookup with hkey
        · cases hlookup
          obtain ⟨hlt, -, -, hby⟩ := h.known _ _ hlookupObject
          exact ⟨hlt, hkey, hkey ▸ hform, hby.concat call⟩
        · obtain ⟨hlt, hid, hform', hby⟩ := h.known key entry hlookup
          exact ⟨hlt, hid, hform', hby.concat call⟩
      · intro key entry hlookup hissued
        rw [setState, lookup_mapSet] at hlookup
        split_ifs at hlookup with hkey
        · cases hlookup
          exact absurd hissued hstate
        · apply hkept key entry hlookup _ hissued
          intro _ hother
          -- a call spends one grant only, and this one has another id
          have heq : entry.object = object := by
            rcases hspends with rfl | rfl
            · simpa [RegistryCall.Spends, eq_comm] using hother
            · simpa [RegistryCall.Spends, eq_comm] using hother
          exact hkey (((h.known key entry hlookup).2.1).trans (by rw [heq]))
  | kept hidle =>
      constructor
      · intro key entry hlookup
        obtain ⟨hlt, hid, hform, hby⟩ := h.known key entry hlookup
        exact ⟨hlt, hid, hform, hby.concat call⟩
      · intro key entry hlookup hissued
        apply hkept key entry hlookup _ hissued
        intro _ hspends
        obtain ⟨-, hid, hform, -⟩ := h.known key entry hlookup
        apply hidle entry.object hspends
        rw [registeredEntry_eq_some]
        refine ⟨rfl, hid ▸ hform, ?_⟩
        rw [← hid, hlookup, ← hissued]

theorem held_performAll (calls : List RegistryCall) : Held calls (empty.performAll calls) := by
  induction calls using List.reverseRecOn with
  | nil =>
      constructor
      · intro key entry hlookup
        simp [performAll, empty] at hlookup
      · intro key entry hlookup
        simp [performAll, empty] at hlookup
  | append_singleton calls call ih => exact held_perform ih call

end NightWatch.ProdObserve.Authorization
