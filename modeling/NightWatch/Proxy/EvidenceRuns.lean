import NightWatch.Proxy.EvidenceLog

namespace NightWatch.Proxy.EvidenceRuns

open Lib.JsText Lib.JsData Lib.JsRuntime Lib.Machine Lib.PairedJournal Lib.WebUrl
open Environment.Config (EnvironmentConfig EnvironmentName validateEnvironmentConfig)
open Proxy.AddressPolicy Proxy.EvidenceLog Proxy.Events Proxy.PolicyAdapter Proxy.RecordedEvents
  Proxy.Resolver Proxy.Server Proxy.Types

/-- No event was refused, and evidence can still be written. -/
structure Sound (rt : Runtime) (evidence : Evidence) : Prop where
  writable : evidence.evidenceWriteFailed = false
  valid : ∀ event ∈ evidence.built, ∃ fields,
    validateProxyEventForPersistence rt event.value = .ok fields

/-- A hostname the schema has room for. -/
def HostFits (classified : ProxyClassification) : Prop :=
  ∀ target, classified.target = some target → utf16Length (stripBrackets target.url.hostname) ≤ 253

def EventFits (seq : Nat) (classified : ProxyClassification) (answerCount : Option Nat) : Prop :=
  seq ≤ 1000000000 ∧ HostFits classified ∧ ∀ count, answerCount = some count → count ≤ 8

section Record

variable {rt : Runtime} {proxy : ProxyInstance} {now : IsoTimestamp rt} {protocol : ProxyProtocol}
  {classified : ProxyClassification} {lifecycle : Lifecycle} {evidence : Evidence}

theorem hostFits_iff (h : WellClassified classified) :
    HostFits classified ↔ utf16Length (recordedHost rt classified) ≤ 253 := by
  cases htarget : classified.target with
  | none =>
      have hnil : recordedHost rt classified = [] := by
        rw [recordedHost, htarget]
        exact (h.hostless htarget).1
      rw [hnil, HostFits, htarget]
      apply iff_of_true
      · intro target hsome
        contradiction
      · exact Nat.zero_le _
  | some target =>
      rw [recordedHost_target rt h htarget, HostFits, htarget]
      constructor
      · intro hfits
        exact hfits target rfl
      · intro hle other hother
        rw [← Option.some.inj hother]
        exact hle

variable {seq : Nat} {after before : Evidence}

theorem isPersistable_iff_fits (h : WellClassified classified) :
    isPersistable rt (recordedEvent rt proxy seq now protocol classified lifecycle).fields = true ↔
      EventFits seq classified lifecycle.answerCount := by
  rw [isPersistable_recorded_iff h, EventFits, hostFits_iff h]

theorem sound_start : Sound rt .start := by
  constructor
  · rfl
  · intro event hevent
    contradiction

theorem sound_of_recorded (hrecorded : Recorded rt proxy before after)
    (hsound : Sound rt after) : Sound rt before := by
  obtain ⟨now, protocol, classified, lifecycle, rfl⟩ := hrecorded
  cases hfailed : before.evidenceWriteFailed with
  | true =>
      rw [record_latched hfailed] at hsound
      exact hsound
  | false =>
      refine ⟨hfailed, fun event hevent => ?_⟩
      by_cases hvalid : isPersistable rt (recordedEvent rt proxy before.eventSeq now protocol
          classified lifecycle).fields = true
      · rw [record_stored hfailed hvalid] at hsound
        exact hsound.valid event (List.mem_append_left _ hevent)
      · rw [record_refused hfailed hvalid] at hsound
        exact absurd hsound.writable Bool.false_ne_true.symm

theorem sound_of_writes (hwrites : Writes rt proxy before after)
    (hsound : Sound rt after) : Sound rt before := by
  induction hwrites with
  | refl => exact hsound
  | tail _ hrecorded ih => exact ih (sound_of_recorded hrecorded hsound)

theorem sound_recorded (hvalid : isPersistable rt (recordedEvent rt proxy evidence.eventSeq now
      protocol classified lifecycle).fields = true) (hsound : Sound rt evidence) :
    Sound rt (record rt proxy now protocol classified lifecycle evidence).2 := by
  rw [record_stored hsound.writable hvalid]
  refine ⟨rfl, fun event hevent => ?_⟩
  rcases List.mem_append.mp hevent with hevent | hevent
  · exact hsound.valid event hevent
  · rw [List.mem_singleton.mp hevent]
    exact ⟨_, validate_eq_ok.mpr ⟨rfl, hvalid⟩⟩

section

variable (h : WellClassified classified)

include h

theorem record_sound_iff (hsound : Sound rt evidence) :
    Sound rt (record rt proxy now protocol classified lifecycle evidence).2 ↔
      EventFits evidence.eventSeq classified lifecycle.answerCount := by
  constructor
  · intro hafter
    apply (isPersistable_iff_fits h).mp
    by_contra hinvalid
    rw [record_refused hsound.writable hinvalid] at hafter
    exact absurd hafter.writable Bool.false_ne_true.symm
  · intro hfits
    exact sound_recorded ((isPersistable_iff_fits h).mpr hfits) hsound

theorem fits_of_stored
    (hstored : (record rt proxy now protocol classified lifecycle evidence).1 = some seq) :
    EventFits evidence.eventSeq classified lifecycle.answerCount ∧
      (record rt proxy now protocol classified lifecycle evidence).2.eventSeq =
        evidence.eventSeq + 1 := by
  cases hfailed : evidence.evidenceWriteFailed with
  | true =>
      rw [record_latched hfailed] at hstored
      contradiction
  | false =>
      by_cases hvalid : isPersistable rt (recordedEvent rt proxy evidence.eventSeq now protocol
          classified lifecycle).fields = true
      · rw [record_stored hfailed hvalid]
        exact ⟨(isPersistable_iff_fits h).mp hvalid, rfl⟩
      · rw [record_refused hfailed hvalid] at hstored
        contradiction

theorem sound_of_stored (hsound : Sound rt evidence)
    (hstored : (record rt proxy now protocol classified lifecycle evidence).1 = some seq) :
    Sound rt (record rt proxy now protocol classified lifecycle evidence).2 :=
  (record_sound_iff h hsound).mpr (fits_of_stored h hstored).1

theorem not_fits_of_refused (hopen : evidence.evidenceWriteFailed = false)
    (hrefused : (record rt proxy now protocol classified lifecycle evidence).1 = none) :
    ¬EventFits evidence.eventSeq classified lifecycle.answerCount := by
  intro hfits
  rw [record_stored hopen ((isPersistable_iff_fits h).mpr hfits)] at hrefused
  contradiction

end

end Record

section Segments

variable {rt : Runtime} {proxy : ProxyInstance}

def recordsAtOnce (rt : Runtime) (proxy : ProxyInstance) (request : ClassifiedRequest rt)
    (gone : Bool) (s : ProxyState rt) : Bool :=
  match request.classified.target with
  | none => true
  | some target =>
      request.classified.decision.verdict ≠ .allow ||
        match (passGate rt proxy request target.url s.tickets).1 with
        | .threw => false
        | .refused => true
        | .admitted => s.shuttingDown || gone

variable {cancelled dialThrows gone : Bool} {request : AllowedRequest}
  {resolution : ProxyResolution} {selected : AdmittedResolvedAddress} {s : ProxyState rt}

theorem recordsAtOnce_none {request : ClassifiedRequest rt}
    (htarget : request.classified.target = none) :
    recordsAtOnce rt proxy request gone s = true := by
  rw [recordsAtOnce, htarget]

theorem recordsAtOnce_some {request : ClassifiedRequest rt}
    {target : ProxyTarget} (htarget : request.classified.target = some target) :
    recordsAtOnce rt proxy request gone s =
      (request.classified.decision.verdict ≠ .allow ||
        match (passGate rt proxy request target.url s.tickets).1 with
        | .threw => false
        | .refused => true
        | .admitted => s.shuttingDown || gone) := by
  rw [recordsAtOnce, htarget]

theorem admitRequest_sound_iff {request : ClassifiedRequest rt}
    {now : IsoTimestamp rt} (h : WellClassified request.classified) (hsound : Sound rt s.evidence) :
    Sound rt (admitRequest rt proxy request gone now s).2.evidence ↔
      (recordsAtOnce rt proxy request gone s = true →
        EventFits s.evidence.eventSeq request.classified none) := by
  have hrecord : ∀ lifecycle : Lifecycle, lifecycle.answerCount = none →
      (Sound rt (record rt proxy now request.protocol request.classified lifecycle
        s.evidence).2 ↔ EventFits s.evidence.eventSeq request.classified none) := by
    intro lifecycle hnone
    rw [record_sound_iff h hsound, hnone]
  unfold admitRequest
  dsimp only
  split
  · rename_i htarget
    rw [hrecord {} rfl, forall_prop_of_true (recordsAtOnce_none htarget)]
  · rename_i target htarget
    rw [recordsAtOnce_some htarget]
    split
    · rename_i hverdict
      rw [hrecord {} rfl, forall_prop_of_true (by simp [hverdict])]
    · rename_i hverdict
      have hallow : decide (request.classified.decision.verdict ≠ .allow) = false := by
        simpa using hverdict
      rw [hallow, Bool.false_or]
      cases (passGate rt proxy request target.url s.tickets).1 with
      | threw => exact iff_of_true hsound fun hrecords => absurd hrecords Bool.false_ne_true
      | refused =>
          dsimp only
          rw [hrecord {} rfl, forall_prop_of_true rfl]
      | admitted =>
          dsimp only
          split
          · rename_i hgone
            rw [hrecord cancelledLifecycle rfl, forall_prop_of_true hgone]
          · rename_i hgone
            exact iff_of_true hsound fun hrecords => absurd hrecords hgone

theorem startHandler_sound_iff {request : ClientRequest} {now : IsoTimestamp rt}
    (hsound : Sound rt s.evidence) :
    Sound rt (startHandler rt proxy request gone now s).2.evidence ↔
      (isHealthCheck request = false →
        recordsAtOnce rt proxy (classifyRequest rt proxy.environment request) gone s = true →
          EventFits s.evidence.eventSeq (classifyRequest rt proxy.environment request).classified
            none) := by
  unfold startHandler
  split
  · rename_i hhealth
    refine iff_of_true hsound fun hproxied => ?_
    rw [hhealth] at hproxied
    contradiction
  · rename_i hproxied
    rw [hsound.writable, if_neg Bool.false_ne_true, forall_prop_of_true (eq_false_of_ne_true hproxied)]
    exact admitRequest_sound_iff (wellClassified_request rt _ request) hsound

variable {later : IsoTimestamp rt}

theorem prepareEffect_sound_iff {now : IsoTimestamp rt}
    {evidence : Evidence} (h : WellClassified request.classified) (hsound : Sound rt evidence) :
    Sound rt (prepareEffect rt proxy request resolution selected dialThrows now later evidence).2 ↔
      EventFits evidence.eventSeq request.classified (some resolution.answerCount) ∧
        (dialThrows = true → evidence.eventSeq < 1000000000) := by
  unfold prepareEffect
  dsimp only
  split
  · rename_i hrefused
    have hmisfit := not_fits_of_refused h hsound.writable hrefused
    exact iff_of_false (fun hafter => hmisfit ((record_sound_iff h hsound).mp hafter))
      fun hboth => hmisfit hboth.1
  · rename_i hstored
    obtain ⟨hfits, hseq⟩ := fits_of_stored h hstored
    have hprepared := sound_of_stored h hsound hstored
    split
    · rename_i hthrows
      rw [record_sound_iff h hprepared, hseq, forall_prop_of_true hthrows]
      constructor
      · intro hunbound
        exact ⟨hfits, hunbound.1⟩
      · rintro ⟨-, hlt⟩
        exact ⟨hlt, hfits.2⟩
    · rename_i hdials
      exact iff_of_true hprepared ⟨hfits, fun hthrows => absurd hthrows hdials⟩

def dials (resolution : ProxyResolution) (cancelled : Bool) : Bool :=
  !cancelled && (targetFromResolution resolution).isSome

theorem afterResolution_sound_iff {now : IsoTimestamp rt} {evidence : Evidence}
    (h : WellClassified request.classified) (hsound : Sound rt evidence) :
    Sound rt (afterResolution rt proxy request resolution cancelled dialThrows now later
        evidence).2 ↔ EventFits evidence.eventSeq request.classified (some resolution.answerCount) ∧
        (dials resolution cancelled = true → dialThrows = true →
          evidence.eventSeq < 1000000000) := by
  have hrecord : ∀ lifecycle : Lifecycle, lifecycle.answerCount = some resolution.answerCount →
      dials resolution cancelled = false →
        (Sound rt (record rt proxy now request.protocol request.classified lifecycle evidence).2 ↔
          EventFits evidence.eventSeq request.classified (some resolution.answerCount) ∧
            (dials resolution cancelled = true → dialThrows = true →
              evidence.eventSeq < 1000000000)) := by
    intro lifecycle hcount hdials
    rw [record_sound_iff h hsound, hcount, hdials]
    exact (and_iff_left fun hthrows => absurd hthrows Bool.false_ne_true).symm
  unfold afterResolution
  dsimp only
  split
  · rename_i hkind
    split
    · rename_i hcancelled
      exact hrecord _ rfl (by simp [dials, hcancelled])
    · rename_i hpresent
      split
      · rename_i hselected
        exact hrecord _ rfl (by simp [dials, hselected])
      · rename_i hselected
        have hdials : dials resolution cancelled = true := by simp [dials, hpresent, hselected]
        rw [prepareEffect_sound_iff h hsound, forall_prop_of_true hdials]
  · rename_i hselected
    exact hrecord _ rfl (by simp [dials, hselected])
  · rename_i hselected
    split
    · rename_i hcancelled
      exact hrecord _ rfl (by simp [dials, hcancelled])
    · rename_i hpresent
      have hdials : dials resolution cancelled = true := by simp [dials, hpresent, hselected]
      rw [prepareEffect_sound_iff h hsound, forall_prop_of_true hdials]

theorem prepareEffect_connecting {now : IsoTimestamp rt} {evidence : Evidence}
    (h : WellClassified request.classified) (hopen : evidence.evidenceWriteFailed = false)
    (hfits : EventFits evidence.eventSeq request.classified (some resolution.answerCount)) :
    ∃ effectId next, prepareEffect rt proxy request resolution selected false now later evidence =
        (.connecting request resolution selected effectId, next) ∧
      next.eventSeq = evidence.eventSeq + 1 := by
  rw [prepareEffect, record_stored hopen ((isPersistable_iff_fits h).mpr hfits)]
  exact ⟨_, _, rfl, rfl⟩

theorem afterResolution_connecting {now : IsoTimestamp rt} {evidence : Evidence}
    (h : WellClassified request.classified) (hopen : evidence.evidenceWriteFailed = false)
    (hfits : EventFits evidence.eventSeq request.classified (some resolution.answerCount))
    (hdials : dials resolution cancelled = true) : ∃ selected effectId next,
      afterResolution rt proxy request resolution cancelled false now later evidence =
        (.connecting request resolution selected effectId, next) ∧
      next.eventSeq = evidence.eventSeq + 1 := by
  obtain ⟨hpresent, hsome⟩ := Bool.and_eq_true_iff.mp hdials
  obtain ⟨selected, hselected⟩ := Option.isSome_iff_exists.mp hsome
  have hcancelled : cancelled = false := by simpa using hpresent
  have hprepares : afterResolution rt proxy request resolution cancelled false now later evidence =
      prepareEffect rt proxy request resolution selected false now later evidence := by
    rw [afterResolution, hselected, hcancelled]
    cases request.kind with
    | forward => rfl
    | tunnel => rfl
  rw [hprepares]
  exact ⟨selected, prepareEffect_connecting h hopen hfits⟩

/-- What the requests and resolutions of a handler are known to satisfy. -/
def HandlerKept : HandlerState → Prop
  | .resolving request => WellClassified request.classified
  | .connecting request resolution _ _ =>
      WellClassified request.classified ∧ HostFits request.classified ∧ resolution.answerCount ≤ 8
  | .returned _ => True

theorem startHandler_kept {request : ClientRequest} {now : IsoTimestamp rt} :
    HandlerKept (startHandler rt proxy request gone now s).1 := by
  unfold startHandler
  split
  · trivial
  · split
    · trivial
    · unfold admitRequest
      dsimp only
      split
      · trivial
      · split
        · trivial
        · split
          · trivial
          · trivial
          · split
            · trivial
            · exact wellClassified_request rt proxy.environment request

theorem prepareEffect_kept {now : IsoTimestamp rt}
    {evidence : Evidence} (h : WellClassified request.classified) : HandlerKept
      (prepareEffect rt proxy request resolution selected dialThrows now later evidence).1 := by
  unfold prepareEffect
  dsimp only
  split
  · trivial
  · rename_i hstored
    split
    · trivial
    · obtain ⟨⟨-, hhost, hcount⟩, -⟩ := fits_of_stored h hstored
      exact ⟨h, hhost, hcount resolution.answerCount rfl⟩

theorem afterResolution_kept {now : IsoTimestamp rt} {evidence : Evidence}
    (h : WellClassified request.classified) : HandlerKept
      (afterResolution rt proxy request resolution cancelled dialThrows now later evidence).1 := by
  unfold afterResolution
  dsimp only
  split
  · split
    · trivial
    · split
      · trivial
      · exact prepareEffect_kept h
  · trivial
  · split
    · trivial
    · exact prepareEffect_kept h

theorem startHandler_handlers {request : ClientRequest} {now : IsoTimestamp rt} :
    (startHandler rt proxy request gone now s).2.handlers = s.handlers := by
  unfold startHandler
  split
  · rfl
  · split
    · rfl
    · unfold admitRequest
      dsimp only
      split
      · rfl
      · split
        · rfl
        · split
          · rfl
          · rfl
          · split
            · rfl
            · rfl

end Segments

section Runs

variable {rt : Runtime} {proxy : ProxyInstance}

def HandlersKept (s : ProxyState rt) : Prop := ∀ handler ∈ s.handlers, HandlerKept handler

theorem handlersKept_start : HandlersKept (.start rt) := by
  intro handler hhandler
  contradiction

variable {s : ProxyState rt}

theorem handlersKept_set {position : Nat} {next : HandlerState}
    (h : HandlersKept s) (hnext : HandlerKept next) :
    ∀ handler ∈ s.handlers.set position next, HandlerKept handler := by
  intro handler hhandler
  rcases List.mem_or_eq_of_mem_set hhandler with hold | rfl
  · exact h handler hold
  · exact hnext

variable {input : ProxyInput rt} {s' : ProxyState rt}

theorem step_kept (h : HandlersKept s)
    (hstep : step rt proxy s input = some s') : HandlersKept s' := by
  cases input with
  | request request gone now =>
      cases hstep
      intro handler hhandler
      change handler ∈ (startHandler rt proxy request gone now s).2.handlers ++ [_] at hhandler
      rw [startHandler_handlers] at hhandler
      rcases List.mem_append.mp hhandler with hold | hnew
      · exact h handler hold
      · rw [List.mem_singleton.mp hnew]
        exact startHandler_kept
  | resolved position settled gone dialThrows now later =>
      rw [step] at hstep
      split at hstep
      · rename_i request hresolving
        cases hstep
        have hrequest : WellClassified request.classified := h _ (List.mem_of_getElem? hresolving)
        exact handlersKept_set h (afterResolution_kept hrequest)
      · contradiction
  | connection position event now =>
      rw [step] at hstep
      split at hstep
      · split at hstep
        · contradiction
        · cases hstep
          exact handlersKept_set h trivial
      · contradiction
  | tickets tickets =>
      cases hstep
      exact h
  | close =>
      cases hstep
      exact h

def StepFits (rt : Runtime) (proxy : ProxyInstance) (s : ProxyState rt) : ProxyInput rt → Prop
  | .request request gone _ =>
      isHealthCheck request = false →
        recordsAtOnce rt proxy (classifyRequest rt proxy.environment request) gone s = true →
          EventFits s.evidence.eventSeq (classifyRequest rt proxy.environment request).classified
            none
  | .resolved handler settled gone dialThrows _ _ =>
      ∀ request, s.handlers[handler]? = some (.resolving request) →
        (s.evidence.eventSeq ≤ 1000000000 ∧ HostFits request.classified ∧
          (asksResolver rt request.target.hostname = true →
            ∀ answers, settled = .answers answers → answers.length ≤ 8)) ∧
        (dials (resolveAndAdmitTarget rt request.target.hostname proxy.environment.name settled)
            (s.shuttingDown || gone) = true →
          dialThrows = true → s.evidence.eventSeq < 1000000000)
  | .connection _ _ _ => s.evidence.eventSeq ≤ 1000000000
  | .tickets _ | .close => True

theorem eventFits_answers {seq : Nat} {classified : ProxyClassification} {count : Nat} :
    EventFits seq classified (some count) ↔ seq ≤ 1000000000 ∧ HostFits classified ∧ count ≤ 8 := by
  simp [EventFits]

theorem step_sound_iff (h : HandlersKept s)
    (hsound : Sound rt s.evidence) (hstep : step rt proxy s input = some s') :
    Sound rt s'.evidence ↔ StepFits rt proxy s input := by
  cases input with
  | request request gone now =>
      cases hstep
      exact startHandler_sound_iff hsound
  | resolved position settled gone dialThrows now later =>
      rw [step] at hstep
      split at hstep
      · rename_i request hresolving
        cases hstep
        have hrequest : WellClassified request.classified := h _ (List.mem_of_getElem? hresolving)
        have honly : ∀ other, s.handlers[position]? = some (.resolving other) ↔ request = other := by
          intro other
          rw [hresolving, Option.some_inj, HandlerState.resolving.injEq]
        rw [Server.advance, afterResolution_sound_iff hrequest hsound, eventFits_answers,
          answerCount_le_iff rt _ _ (by decide), StepFits]
        simp only [honly, forall_eq']
      · contradiction
  | connection position event now =>
      rw [step] at hstep
      split at hstep
      · rename_i request resolution selected effectId hconnecting
        split at hstep
        · contradiction
        · cases hstep
          obtain ⟨hrequest, hhost, hcount⟩ := h _ (List.mem_of_getElem? hconnecting)
          rw [Server.advance, afterConnection]
          dsimp only
          rw [record_sound_iff hrequest hsound]
          exact eventFits_answers.trans (and_iff_left ⟨hhost, hcount⟩)
      · contradiction
  | tickets tickets =>
      cases hstep
      exact iff_of_true hsound trivial
  | close =>
      cases hstep
      exact iff_of_true hsound trivial

theorem handlersKept_run {history : List (ProxyInput rt)}
    (hrun : Run (proxySystem rt proxy) history s) : HandlersKept s := by
  apply hrun.state_invariant handlersKept_start
  intro before input after h hstep
  exact step_kept h (proxySystem_step.mp hstep)

/-- In every run, evidence is sound at the end exactly when every step fitted. -/
theorem sound_iff_fits {history : List (ProxyInput rt)} {s : ProxyState rt}
    (hrun : Run (proxySystem rt proxy) history s) : Sound rt s.evidence ↔
      Run ((proxySystem rt proxy).guarded (StepFits rt proxy)) history s := by
  constructor
  · intro hsound
    induction hrun with
    | start => exact .start
    | step hrun hstep ih =>
        have hnext := proxySystem_step.mp hstep
        have hbefore := sound_of_writes (step_writes hnext) hsound
        have hfits := (step_sound_iff (handlersKept_run hrun) hbefore hnext).mp hsound
        exact (ih hbefore).step ⟨hstep, hfits⟩
  · intro hguarded
    have hboth := hguarded.state_invariant (P := fun s => HandlersKept s ∧ Sound rt s.evidence)
      ⟨handlersKept_start, sound_start⟩ ?_
    · exact hboth.2
    · rintro before input after ⟨hkept, hsound⟩ ⟨hstep, hfits⟩
      have hnext := proxySystem_step.mp hstep
      exact ⟨step_kept hkept hnext, (step_sound_iff hkept hsound hnext).mpr hfits⟩

/-- After every run the strict reader accepts the log, with the events that were stored
and every effect in them paired. -/
theorem ledger_accepted {history : List (ProxyInput rt)} {s : ProxyState rt}
    (hrun : Run (proxySystem rt proxy) history s) :
    readProxyEventLedger rt (some s.evidence.log) = .ok (stored rt s.evidence) ∧
      Paired (halves (stored rt s.evidence)) :=
  readProxyEventLedger_kept (logKept_run hrun)

end Runs

def appUrl : Url :=
  .ofDomain "https:".toList ⟨"app.example".toList, by decide⟩ none "/".toList
    isLowerAscii_https

def appRuntime : Runtime := tableRuntime [("https://app.example:443/".toList, appUrl)] (by decide)

def appConfig : EnvironmentConfig where
  name := .dev
  label := "dev".toList
  uiBaseUrl := "https://app.example".toList
  apiHosts := some []
  authHosts := some []
  allowedHosts := ["app.example".toList]
  staticAssetHosts := []
  telemetryHosts := []
  optionalThirdPartySupportHosts := some []
  browserBackgroundHosts := some []
  failOn := []

def appProxy : ProxyInstance where
  environment := appConfig
  requestedRunId := "playwright-suite".toList
  nonce := List.replicate 16 0
  nonce_length := rfl

def appTime : IsoTimestamp appRuntime where
  text := "2026-01-01T00:00:00.000Z".toList
  valid := by decide
  parses := by decide

def appAuthority : Option JsString := some "app.example:443".toList

def appTunnel : AllowedRequest where
  kind := .tunnel
  protocol := .httpsConnect
  classified := classifyProxyConnect appRuntime appConfig "app.example:443".toList
  target := {
    url := appUrl
    protocol := .httpsConnect
    hostname := "app.example".toList
    port := 443
    path := "/".toList }
  target_eq := rfl

def appAnswers : ResolverSettled := .answers [answerRecord "8.8.8.8".toList .ipv4]

def tunnelHistory : List (ProxyInput appRuntime) :=
  [.request (.connect appAuthority) false appTime,
    .resolved 0 appAnswers false false appTime appTime,
    .connection 0 .connected appTime]

theorem hostFits_tunnel : HostFits appTunnel.classified := by
  intro target htarget
  rw [appTunnel.target_eq] at htarget
  cases htarget
  decide

theorem startHandler_tunnel :
    startHandler appRuntime appProxy (.connect appAuthority) false appTime (.start appRuntime) =
      (.resolving appTunnel, .start appRuntime) := rfl

theorem afterResolution_tunnel : ∃ selected effectId next,
    afterResolution appRuntime appProxy appTunnel (resolveAndAdmitTarget appRuntime
      appTunnel.target.hostname .dev appAnswers) false false appTime appTime .start =
        (.connecting appTunnel (resolveAndAdmitTarget appRuntime appTunnel.target.hostname .dev
          appAnswers) selected effectId, next) ∧ next.eventSeq = 1 := by
  have hclassified : WellClassified appTunnel.classified :=
    wellClassified_connect appRuntime appConfig "app.example:443".toList .https
  have hcount : (resolveAndAdmitTarget appRuntime appTunnel.target.hostname .dev
      appAnswers).answerCount ≤ 8 := by
    apply (answerCount_le_iff appRuntime _ _ (by decide)).mpr
    rintro - answers hsettled
    rw [← ResolverSettled.answers.inj hsettled]
    decide
  have hdials : dials (resolveAndAdmitTarget appRuntime appTunnel.target.hostname .dev appAnswers)
      false = true := by decide +kernel
  have hfits : EventFits Evidence.start.eventSeq appTunnel.classified (some (resolveAndAdmitTarget
      appRuntime appTunnel.target.hostname .dev appAnswers).answerCount) :=
    eventFits_answers.mpr ⟨by decide, hostFits_tunnel, hcount⟩
  exact afterResolution_connecting hclassified rfl hfits hdials

abbrev fittingSystem : System (ProxyState appRuntime) (ProxyInput appRuntime) :=
  (proxySystem appRuntime appProxy).guarded (StepFits appRuntime appProxy)

theorem run_tunnel : ∃ s, Run fittingSystem tunnelHistory s := by
  let resolving : ProxyState appRuntime := ⟨.start, false, .empty _, [.resolving appTunnel]⟩
  have hrequest : step appRuntime appProxy (.start appRuntime)
      (.request (.connect appAuthority) false appTime) = some resolving := by
    rw [step, startHandler_tunnel]
    rfl
  have hrequestFits : StepFits appRuntime appProxy (.start appRuntime)
      (.request (.connect appAuthority) false appTime) :=
    fun _ _ => ⟨by decide, hostFits_tunnel, fun _ hnone => absurd hnone (Option.some_ne_none _).symm⟩
  obtain ⟨selected, effectId, next, hconnecting, hseq⟩ := afterResolution_tunnel
  let connecting := Server.advance appRuntime resolving 0 (.connecting appTunnel
    (resolveAndAdmitTarget appRuntime appTunnel.target.hostname .dev appAnswers) selected effectId,
      next)
  have hresolved : step appRuntime appProxy resolving
      (.resolved 0 appAnswers false false appTime appTime) = some connecting := by
    change _ = some (Server.advance appRuntime resolving 0 _)
    rw [← hconnecting]
    rfl
  have hresolvedFits : StepFits appRuntime appProxy resolving
      (.resolved 0 appAnswers false false appTime appTime) := by
    intro request hrequest
    cases hrequest
    refine ⟨⟨by decide, hostFits_tunnel, ?_⟩, fun _ hthrows => absurd hthrows Bool.false_ne_true⟩
    rintro - answers hsettled
    rw [← ResolverSettled.answers.inj hsettled]
    decide
  obtain ⟨last, hconnected⟩ : ∃ last, step appRuntime appProxy connecting
      (.connection 0 .connected appTime) = some last := ⟨_, rfl⟩
  have hconnectedFits : StepFits appRuntime appProxy connecting
      (.connection 0 .connected appTime) := by
    change next.eventSeq ≤ 1000000000
    omega
  have hfirst : Run fittingSystem ([] ++ [.request (.connect appAuthority) false appTime])
      resolving := .step .start ⟨hrequest, hrequestFits⟩
  have hsecond := hfirst.step ⟨hresolved, hresolvedFits⟩
  exact ⟨last, hsecond.step ⟨hconnected, hconnectedFits⟩⟩

theorem sound_tunnel : ∃ s, Run fittingSystem tunnelHistory s ∧ Sound appRuntime s.evidence := by
  obtain ⟨s, hrun⟩ := run_tunnel
  exact ⟨s, hrun, (sound_iff_fits hrun.of_guarded).mpr hrun⟩

theorem ledger_accepted_tunnel : ∃ s, Run (proxySystem appRuntime appProxy) tunnelHistory s ∧
    readProxyEventLedger appRuntime (some s.evidence.log) = .ok (stored appRuntime s.evidence) ∧
      Paired (halves (stored appRuntime s.evidence)) := by
  obtain ⟨s, hrun⟩ := run_tunnel
  exact ⟨s, hrun.of_guarded, ledger_accepted hrun.of_guarded⟩

def longName : JsString := List.replicate 254 'a'

def longUrl : Url :=
  .ofDomain "http:".toList ⟨longName, by decide +kernel⟩ none "/".toList isLowerAscii_http

def longText : JsString := "http://".toList ++ longName ++ "/".toList

def longRuntime : Runtime := tableRuntime [(longText, longUrl)] (by decide +kernel)

def longTime : IsoTimestamp longRuntime := ⟨appTime.text, appTime.valid, by decide⟩

def longRequest : ClientRequest := .forward (some longText) none none

def appFields : JsValue :=
  .obj [("name".toList, .str "dev".toList), ("label".toList, .str "dev".toList),
    ("uiBaseUrl".toList, .str "https://app.example".toList),
    ("allowedHosts".toList, .arr [.str "app.example".toList]), ("staticAssetHosts".toList, .arr []),
    ("telemetryHosts".toList, .arr []), ("failOn".toList, .arr [])]

theorem not_stepFits_long :
    ¬StepFits longRuntime appProxy (.start longRuntime) (.request longRequest false longTime) := by
  intro hfits
  have hrecords : recordsAtOnce longRuntime appProxy
      (classifyRequest longRuntime appProxy.environment longRequest) false
        (.start longRuntime) = true := by decide +kernel
  have hlong : ((classifyRequest longRuntime appProxy.environment
      longRequest).classified.target.any fun target =>
        253 < utf16Length (stripBrackets target.url.hostname)) = true := by decide +kernel
  obtain ⟨target, htarget, hlt⟩ := (Option.any_eq_true _ _).mp hlong
  have hle := (hfits (by decide) hrecords).2.1 target htarget
  rw [decide_eq_true_eq] at hlt
  omega

/-- A request for a hostname of 254 letters is enough to stop all evidence. -/
theorem long_hostname_latches :
    ¬∀ (rt : Runtime) (name : EnvironmentName) (value : JsValue) (source : JsString)
      (cfg : EnvironmentConfig) (proxy : ProxyInstance) (history : List (ProxyInput rt))
      (s : ProxyState rt), validateEnvironmentConfig rt name value source = .ok cfg →
        proxy.environment = cfg → Run (proxySystem rt proxy) history s → Sound rt s.evidence := by
  intro h
  obtain ⟨s, hstep⟩ : ∃ s, step longRuntime appProxy (.start longRuntime)
      (.request longRequest false longTime) = some s := ⟨_, rfl⟩
  have hsound := h longRuntime .dev appFields "in-memory".toList appConfig appProxy _ s rfl rfl
    (Run.start.step hstep)
  exact not_stepFits_long ((step_sound_iff handlersKept_start sound_start hstep).mp hsound)

end NightWatch.Proxy.EvidenceRuns
