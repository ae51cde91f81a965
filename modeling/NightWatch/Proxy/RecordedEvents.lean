import NightWatch.Proxy.Server

/-!
Which of the events `record` builds pass the schema of the log. A classification by the
policy adapter leaves three bounds open: the sequence number, the length of the host
and the number of answers.
-/

namespace NightWatch.Proxy.RecordedEvents

open Lib.JsText Lib.JsData Lib.Json Lib.JsRuntime Lib.WebUrl Safety.Types Safety.OutboundPolicy
  Environment.Config Proxy.Events Proxy.PolicyAdapter Proxy.Resolver Proxy.Server Proxy.Types

variable {max : Nat} {p : Prop} {c : Char} {s : JsString}

theorem safeString_ite [Decidable p] {s t : JsString}
    (hs : safeString max s = true) (ht : safeString max t = true) :
    safeString max (if p then s else t) = true := by
  split
  · exact hs
  · exact ht

theorem safeReason_unlisted (rt : Runtime) (hostname : JsString) :
    safeString 512 (decideUnlisted rt hostname).reason = true := by
  unfold decideUnlisted
  split_ifs <;> rfl

theorem safeReason_byLists (rt : Runtime) (env : EnvironmentConfig) (hostname key : JsString) :
    safeString 512 (decideByLists rt env hostname key).reason = true := by
  unfold decideByLists
  split_ifs
  · cases hname : env.name <;> rfl
  · rfl
  · rfl
  · rfl
  · exact safeReason_unlisted rt hostname

theorem safeReason_parsed (rt : Runtime) (env : EnvironmentConfig) (rawUrl : JsString)
    (url : Url) : safeString 512 (decideParsed rt env rawUrl url).reason = true := by
  unfold decideParsed
  split_ifs
  · rfl
  · rfl
  · rfl
  · dsimp only
    split
    · rename_i entry _
      cases entry.classification <;> rfl
    · exact safeReason_byLists rt env _ _

theorem safeReason (rt : Runtime) (env : EnvironmentConfig) (rawUrl : JsString) :
    safeString 512 (Safety.OutboundPolicy.decide rt env rawUrl).reason = true := by
  unfold Safety.OutboundPolicy.decide
  split
  · rfl
  · exact safeReason_parsed rt env rawUrl _

theorem safeRuleId (decision : OutboundDecision) : safeString 128 (ruleId decision) = true := by
  unfold ruleId
  iterate 14 apply safeString_ite rfl
  rfl

/-- What every classification of the adapter guarantees. -/
structure WellClassified (classified : ProxyClassification) : Prop where
  network : ∀ target, classified.target = some target → target.url.protocol ∈ networkProtocols
  hostless : classified.target = none →
    classified.decision.host = [] ∧ classified.ruleId = "parse-failure".toList
  ruleId : safeString 128 classified.ruleId = true
  reason : safeString 512 classified.decision.reason = true

theorem wellClassified_reject (rt : Runtime) (env : EnvironmentConfig) :
    WellClassified (reject rt env) := by
  have hrelative : rt.parseUrl "not a valid Nightwatch URL".toList = none :=
    rt.parseUrl_relative _ (by decide)
  refine ⟨?_, ?_, rfl, safeReason rt env _⟩
  · intro target htarget
    contradiction
  · intro _
    constructor
    · change (Safety.OutboundPolicy.decide rt env _).host = []
      rw [Safety.OutboundPolicy.decide, hrelative]
      rfl
    · rfl

variable {target : ProxyTarget}

theorem wellClassified_target (rt : Runtime) (env : EnvironmentConfig) (rawUrl : JsString)
    (hnetwork : target.url.protocol ∈ networkProtocols) : WellClassified {
      target := some target
      decision := Safety.OutboundPolicy.decide rt env rawUrl
      ruleId := ruleId (Safety.OutboundPolicy.decide rt env rawUrl) } := by
  refine ⟨?_, nofun, safeRuleId _, safeReason rt env rawUrl⟩
  intro other hother
  rw [← Option.some.inj hother]
  exact hnetwork

theorem wellClassified_url (rt : Runtime) (env : EnvironmentConfig) (rawUrl : JsString)
    (hint : Option ProxyProtocol) : WellClassified (classifyProxyUrl rt env rawUrl hint) := by
  unfold classifyProxyUrl
  split
  · exact wellClassified_reject rt env
  · rename_i url _
    dsimp only
    split_ifs with _ _ hprotocol
    · exact wellClassified_reject rt env
    · exact wellClassified_reject rt env
    · exact wellClassified_reject rt env
    · exact wellClassified_reject rt env
    · rw [toLowerCase_of_isLowerAscii rt url.protocol_lower] at hprotocol
      have hnetwork : url.protocol ∈ networkProtocols := by simpa using hprotocol
      exact wellClassified_target rt env rawUrl hnetwork

theorem wellClassified_connect (rt : Runtime) (env : EnvironmentConfig) (authority : JsString)
    (scheme : ConnectScheme) : WellClassified (classifyProxyConnect rt env authority scheme) := by
  have hscheme : scheme.text ++ [':'] ∈ networkProtocols := by cases scheme <;> decide
  unfold classifyProxyConnect
  split
  · exact wellClassified_reject rt env
  · split
    · exact wellClassified_reject rt env
    · dsimp only
      split
      · exact wellClassified_reject rt env
      · split
        · exact wellClassified_reject rt env
        · split
          · exact wellClassified_reject rt env
          · rename_i url hparse
            split
            · exact wellClassified_reject rt env
            · have hprotocol := rt.parseUrl_protocol _ _ url hscheme hparse
              have hnetwork : url.protocol ∈ networkProtocols := hprotocol ▸ hscheme
              exact wellClassified_target rt env _ hnetwork

theorem wellClassified_forward (rt : Runtime) (env : EnvironmentConfig)
    (rawUrl hostHeader : Option JsString) :
    WellClassified (classifyForwardRequest rt env rawUrl hostHeader) := by
  unfold classifyForwardRequest
  split
  · exact wellClassified_reject rt env
  · dsimp only
    split
    · exact wellClassified_reject rt env
    · exact wellClassified_url rt env _ _
  · exact wellClassified_url rt env _ _

theorem wellClassified_request (rt : Runtime) (env : EnvironmentConfig)
    (request : ClientRequest) : WellClassified (classifyRequest rt env request).classified := by
  cases request with
  | forward url method hostHeader => exact wellClassified_forward rt env url hostHeader
  | connect url => exact wellClassified_connect rt env _ _
  | upgrade url hostHeader => exact wellClassified_url rt env _ _

theorem mem_of_mem_ite_tail [Decidable p] {c : Char} {s : JsString}
    (hc : c ∈ if p then s.tail else s) : c ∈ s := by
  split at hc
  · exact List.mem_of_mem_tail hc
  · exact hc

theorem mem_of_mem_ite_dropLast [Decidable p] {c : Char} {s : JsString}
    (hc : c ∈ if p then s.dropLast else s) : c ∈ s := by
  split at hc
  · exact List.mem_of_mem_dropLast hc
  · exact hc

theorem mem_of_mem_stripBrackets (hc : c ∈ stripBrackets s) : c ∈ s :=
  mem_of_mem_ite_tail (mem_of_mem_ite_dropLast hc)

theorem stripBrackets_bare (hopen : '[' ∉ s) (hclose : ']' ∉ s) : stripBrackets s = s := by
  have hhead : s.head? ≠ some '[' := fun h => hopen (List.mem_of_head? h)
  have hlast : s.getLast? ≠ some ']' := fun h => hclose (List.mem_of_getLast? h)
  unfold stripBrackets
  dsimp only
  rw [if_neg hhead, if_neg hlast]

theorem stripBrackets_bracketed (s : JsString) : stripBrackets ('[' :: s ++ [']']) = s := by
  unfold stripBrackets
  simp

theorem serialize_address_ne_nil (address : Ipv6Address) : address.serialize ≠ [] := by
  intro hnil
  rcases serialize_last address with hcolon | ⟨init, last, before, -, htext, -⟩
  · rw [hnil] at hcolon
    contradiction
  · rw [hnil] at htext
    exact Nat.toDigits_ne_nil (List.append_eq_nil_iff.mp htext.symm).2

theorem stripBrackets_ne_nil (host : Host) : stripBrackets host.serialize ≠ [] := by
  have hforbidden : ∀ c ∈ ['[', ']'], forbiddenDomain c = true ∧ c.isDigit = false ∧ c ≠ '.' := by
    decide
  have hbare (host : Host) (hother : ∀ address, host ≠ .ipv6 address) :
      stripBrackets host.serialize ≠ [] := by
    have hnot : ∀ c ∈ ['[', ']'], c ∉ host.serialize := by
      intro c hc hmem
      obtain ⟨h, hdigit, hdot⟩ := hforbidden c hc
      obtain ⟨address, heq⟩ := ipv6_of_mem_serialize hmem h hdigit hdot
      exact hother address heq
    rw [stripBrackets_bare (hnot '[' (by simp)) (hnot ']' (by simp))]
    exact serialize_ne_nil host
  cases host with
  | ipv6 address =>
      rw [Host.serialize, stripBrackets_bracketed]
      exact serialize_address_ne_nil address
  | domain d => exact hbare _ fun _ => Host.noConfusion
  | ipv4 a b c d => exact hbare _ fun _ => Host.noConfusion

theorem isHostChar_stored (hc : isHostChar c = true) :
    ("\\/@".toList.contains c || isControl c) = false := by
  simp only [isHostChar, Bool.and_eq_true, decide_eq_true_eq, Bool.not_eq_true'] at hc
  obtain ⟨⟨⟨hlo, hhi⟩, -⟩, hlist⟩ := hc
  have hcontrol : isControl c = false := by
    simp only [isControl, Bool.or_eq_false_iff, decide_eq_false_iff_not]
    omega
  rw [hcontrol, Bool.or_false]
  rw [List.contains_eq_mem, decide_eq_false_iff_not] at hlist ⊢
  intro hmem
  have hsub : ∀ d ∈ "\\/@".toList, d ∈ "#%/<>?@\\^|".toList := by decide
  exact hlist (hsub c hmem)

theorem recordedHost_target (rt : Runtime) {classified : ProxyClassification}
    (h : WellClassified classified) (htarget : classified.target = some target) :
    recordedHost rt classified = stripBrackets target.url.hostname := by
  rw [recordedHost, htarget]
  dsimp only
  rw [toLowerCase_hostname rt (h.network target htarget)]

theorem recordedHost_spec (rt : Runtime) {classified : ProxyClassification}
    (h : WellClassified classified) :
    ((recordedHost rt classified).all fun c => !("\\/@".toList.contains c || isControl c)) = true ∧
      (recordedHost rt classified = [] → classified.ruleId = "parse-failure".toList) := by
  cases htarget : classified.target with
  | none =>
      obtain ⟨hhost, hrule⟩ := h.hostless htarget
      rw [recordedHost, htarget, hhost]
      exact ⟨rfl, fun _ => hrule⟩
  | some target =>
      obtain ⟨host, hhost⟩ := target.url.host_serialized (h.network target htarget)
      rw [recordedHost_target rt h htarget, hhost]
      constructor
      · apply List.all_eq_true.mpr
        intro c hc
        have hchar := isHostChar_of_mem_serialize (mem_of_mem_stripBrackets hc)
        rw [isHostChar_stored hchar]
        rfl
      · intro hnil
        exact absurd hnil (stripBrackets_ne_nil host)

theorem integerUpTo_ofNat {n : Nat} (hmax : max ≤ 2 ^ 53 - 1) :
    integerUpTo max (.num (.ofNat n)) = true ↔ n ≤ max := by
  have hsafe : (JsNumber.ofNat n).isSafeInteger = true ↔ n ≤ 2 ^ 53 - 1 := by
    rw [JsNumber.ofNat, JsNumber.isSafeInteger, Rat.den_natCast, Rat.num_natCast]
    exact decide_eq_true_iff
  have hlo : (JsNumber.ofNat n).ge (.ofNat 0) = true := by
    simp [JsNumber.ofNat, JsNumber.ge, JsNumber.lt]
  have hhi : (JsNumber.ofNat max).ge (.ofNat n) = true ↔ n ≤ max := by
    simp [JsNumber.ofNat, JsNumber.ge, JsNumber.lt]
  rw [integerUpTo, hlo, Bool.and_true, Bool.and_eq_true, hsafe, hhi]
  omega

theorem isIdChar_range (hc : isIdChar c = true) : 0x1f < c.toNat ∧ c.toNat < 0x7f := by
  simp only [isIdChar, Char.isAlphanum, Char.isAlpha, Char.isUpper, Char.isLower, Char.isDigit,
    Bool.or_eq_true, Bool.and_eq_true, decide_eq_true_eq] at hc
  rcases hc with ((((⟨hlo, hhi⟩ | ⟨hlo, hhi⟩) | ⟨hlo, hhi⟩) | rfl) | rfl) | rfl
  · have hlo : 65 ≤ c.toNat := hlo
    have hhi : c.toNat ≤ 90 := hhi
    omega
  · have hlo : 97 ≤ c.toNat := hlo
    have hhi : c.toNat ≤ 122 := hhi
    omega
  · have hlo : 48 ≤ c.toNat := hlo
    have hhi : c.toNat ≤ 57 := hhi
    omega
  · decide
  · decide
  · decide

theorem isIsoChar_range (hc : isIsoChar c = true) : 0x1f < c.toNat ∧ c.toNat < 0x7f := by
  rcases Bool.or_eq_true_iff.mp hc with hdigit | hmem
  · exact isIdChar_range (by simp [isIdChar, Char.isAlphanum, hdigit])
  · have hall : ∀ d ∈ "+-:.TZ".toList, 0x1f < d.toNat ∧ d.toNat < 0x7f := by decide
    exact hall c (by simpa using hmem)

theorem safeString_of_upTo {m : Nat} {p : Char → Bool} (hm : m ≤ max)
    (hp : ∀ c, p c = true → 0x1f < c.toNat ∧ c.toNat < 0x7f) (h : upTo m p s = true) :
    safeString max s = true := by
  obtain ⟨hne, hchars, hlength⟩ := upTo_iff.mp h
  have hutf : utf16Length s = s.length := by
    apply utf16Length_of_basic
    intro c hc
    have hrange := hp c (hchars c hc)
    omega
  have hcontrol : ∀ c ∈ s, isControl c = false := by
    intro c hc
    have hrange := hp c (hchars c hc)
    simp only [isControl, Bool.or_eq_false_iff, decide_eq_false_iff_not]
    omega
  have hall : (s.all fun c => !isControl c) = true := by
    apply List.all_eq_true.mpr
    intro c hc
    rw [hcontrol c hc]
    rfl
  have hbound : utf16Length s ≤ max := by omega
  simp [safeString, hne, hall, hbound]

theorem runId_spec (proxy : ProxyInstance) : upTo 128 isIdChar proxy.runId = true := by
  unfold ProxyInstance.runId
  split
  · assumption
  · rfl

theorem startNonce_spec (proxy : ProxyInstance) :
    allOf isLowerHex proxy.startNonce = true ∧ proxy.startNonce.length = 32 := by
  have hbyte : ∀ d : Fin 16, isLowerHex d.val.digitChar = true := by decide
  have hhex : ∀ b : Fin 256, ∀ c ∈ hexByte b, isLowerHex c = true := by
    intro b c hc
    rcases List.mem_cons.mp hc with rfl | hc
    · exact hbyte ⟨b.val / 16, by omega⟩
    · rw [List.mem_singleton.mp hc]
      exact hbyte ⟨b.val % 16, by omega⟩
  have hlength : proxy.startNonce.length = 32 := by
    have hsum : ∀ nonce : List (Fin 256), (nonce.flatMap hexByte).length = 2 * nonce.length := by
      intro nonce
      induction nonce with
      | nil => rfl
      | cons b nonce ih =>
          rw [List.flatMap_cons, List.length_append, ih, List.length_cons]
          change 2 + 2 * nonce.length = _
          omega
    rw [ProxyInstance.startNonce, hsum, proxy.nonce_length]
  refine ⟨allOf_iff.mpr ⟨?_, ?_⟩, hlength⟩
  · intro hnil
    rw [hnil] at hlength
    exact absurd hlength (by decide)
  · intro c hc
    obtain ⟨b, -, hb⟩ := List.mem_flatMap.mp hc
    exact hhex b c hb

section Event

variable {rt : Runtime} {proxy : ProxyInstance} {seq : Nat} {now : IsoTimestamp rt}
  {protocol : ProxyProtocol} {classified : ProxyClassification} {lifecycle : Lifecycle}

theorem fieldCheck_seq : fieldCheck rt .seq (.num (.ofNat seq)) = true ↔ seq ≤ 1000000000 :=
  integerUpTo_ofNat (by decide)

theorem fieldCheck_host (h : WellClassified classified) :
    fieldCheck rt .host (.str (recordedHost rt classified)) = true ↔
      utf16Length (recordedHost rt classified) ≤ 253 := by
  simp only [fieldCheck, hostText, (recordedHost_spec rt h).1, Bool.and_true, decide_eq_true_eq]

theorem fieldCheck_answerCount (answerCount : Option Nat) : fieldCheck rt .answerCount
        ((answerCount.map fun count => JsValue.num (.ofNat count)).getD .undefined) = true ↔
      ∀ count, answerCount = some count → count ≤ 8 := by
  cases answerCount with
  | none => exact iff_of_true rfl nofun
  | some count =>
      have hbound : integerUpTo 8 (.num (.ofNat count)) = true ↔ count ≤ 8 :=
        integerUpTo_ofNat (by decide)
      simpa [fieldCheck, optionally] using hbound

theorem fieldCheck_port (target : Option ProxyTarget) :
    fieldCheck rt .port (recordedPort target) = true := by
  cases target with
  | none => rfl
  | some target =>
      unfold recordedPort
      dsimp only
      split
      · rename_i hport
        exact (integerUpTo_ofNat (by decide)).mpr hport
      · rfl

theorem fieldCheck_timestamp : fieldCheck rt .timestamp (.str now.text) = true := by
  have htext : safeString 64 now.text = true :=
    safeString_of_upTo (by decide) (fun _ => isIsoChar_range) now.valid
  change (safeString 64 now.text && rt.parsesDate now.text) = true
  rw [htext, now.parses]
  rfl

theorem fieldCheck_runId : fieldCheck rt .runId (.str proxy.runId) = true := by
  have hrun := runId_spec proxy
  have htext : safeString 128 proxy.runId = true :=
    safeString_of_upTo le_rfl (fun _ => isIdChar_range) hrun
  change (safeString 128 proxy.runId && allOf isIdChar proxy.runId) = true
  rw [htext, Bool.true_and]
  exact (Bool.and_eq_true_iff.mp hrun).1

theorem fieldCheck_startNonce : fieldCheck rt .startNonce (.str proxy.startNonce) = true := by
  obtain ⟨hchars, hlength⟩ := startNonce_spec proxy
  change (allOf isLowerHex proxy.startNonce && decide (proxy.startNonce.length = 32)) = true
  rw [hchars, hlength]
  rfl

theorem fieldCheck_map {α : Type} {key : EventKey} (hnone : fieldCheck rt key .undefined = true)
    {value : α → JsValue} (hsome : ∀ a, fieldCheck rt key (value a) = true) (option : Option α) :
    fieldCheck rt key ((option.map value).getD .undefined) = true := by
  cases option with
  | none => exact hnone
  | some a => exact hsome a

theorem fieldCheck_recorded (h : WellClassified classified) {key : EventKey}
    (hkey : key ∉ [EventKey.seq, .host, .answerCount]) :
    fieldCheck rt key ((recordedEvent rt proxy seq now protocol classified lifecycle key).getD
      .undefined) = true := by
  cases key with
  | seq => simp at hkey
  | host => simp at hkey
  | answerCount => simp at hkey
  | timestamp => exact fieldCheck_timestamp
  | runId => exact fieldCheck_runId
  | protocol => cases protocol <;> rfl
  | port => exact fieldCheck_port classified.target
  | classification =>
      change fieldCheck rt .classification (.str classified.decision.hostClass.text) = true
      cases classified.decision.hostClass <;> rfl
  | semanticClassification =>
      change fieldCheck rt .semanticClassification (.str classified.decision.classification.text)
        = true
      cases classified.decision.classification <;> rfl
  | containment =>
      change fieldCheck rt .containment
        ((if classified.decision.verdict = .blockBrowserBackground then
          some (.str "EXPECTED_CONTAINMENT_EFFECT".toList) else none).getD .undefined) = true
      split
      · rfl
      · rfl
  | decision =>
      change fieldCheck rt .decision (.str classified.decision.verdict.text) = true
      cases classified.decision.verdict <;> rfl
  | ruleId => exact h.ruleId
  | reason => exact h.reason
  | resolution =>
      change fieldCheck rt .resolution (.str (lifecycle.resolution.getD .notAttempted).text) = true
      cases lifecycle.resolution.getD .notAttempted <;> rfl
  | resolutionReason =>
      refine fieldCheck_map rfl (fun reason => ?_) lifecycle.resolutionReason
      cases reason with
      | refused reason => cases reason <;> rfl
      | _ => rfl
  | addressFamily =>
      refine fieldCheck_map rfl (fun family => ?_) lifecycle.addressFamily
      cases family <;> rfl
  | addressClass =>
      refine fieldCheck_map rfl (fun addressClass => ?_) lifecycle.addressClass
      cases addressClass <;> rfl
  | connection =>
      change fieldCheck rt .connection (.str (lifecycle.connection.getD .notAttempted).text) = true
      cases lifecycle.connection.getD .notAttempted <;> rfl
  | connectionFailure =>
      refine fieldCheck_map rfl (fun failure => ?_) lifecycle.connectionFailure
      cases failure <;> rfl
  | containmentViolation =>
      refine fieldCheck_map rfl (fun violation => ?_) lifecycle.containmentViolation
      cases violation <;> rfl
  | addressBindingVersion =>
      refine fieldCheck_map rfl (fun version => ?_) lifecycle.addressBindingVersion
      cases version
      rfl
  | effectId => rfl
  | phase => rfl
  | startNonce => exact fieldCheck_startNonce

theorem knownKeys_recorded :
    knownKeys (recordedEvent rt proxy seq now protocol classified lifecycle).fields = true := by
  have hall : ((recordedEvent rt proxy seq now protocol classified lifecycle).fields.all
      fun field => (proxyEventKeys.map EventKey.text).contains field.1) = true := by
    apply List.all_eq_true.mpr
    intro field hfield
    rw [List.contains_eq_mem, decide_eq_true_eq]
    exact (names_fields _).subset (List.mem_map_of_mem hfield)
  have halways : [EventKey.seq, .timestamp, .runId, .protocol, .host, .port, .decision, .ruleId,
      .startNonce].Sublist proxyEventKeys := by decide
  have hlength : 9 ≤ (recordedEvent rt proxy seq now protocol classified lifecycle).fields.length :=
    (halways.filterMap
      (recordedEvent rt proxy seq now protocol classified lifecycle).entry).length_le
  rw [knownKeys, hall, Bool.true_and, decide_eq_true_eq]
  exact hlength

theorem hostPresent_recorded (h : WellClassified classified) :
    hostPresent (recordedEvent rt proxy seq now protocol classified lifecycle).fields = true := by
  have hhost := (recordedHost_spec rt h).2
  rw [hostPresent, fieldAt_fields, fieldAt_fields, Bool.or_eq_true]
  change (!([[]] : List JsString).contains (recordedHost rt classified)) = true ∨
    ["parse-failure".toList].contains classified.ruleId = true
  by_cases hnil : recordedHost rt classified = []
  · right
    rw [hhost hnil]
    rfl
  · left
    simpa using hnil

theorem phaseCoherent_recorded :
    phaseCoherent (recordedEvent rt proxy seq now protocol classified lifecycle).fields = true := by
  rw [phaseCoherent, fieldAt_fields, fieldAt_fields]
  rfl

theorem isPersistable_recorded_iff (h : WellClassified classified) :
    isPersistable rt (recordedEvent rt proxy seq now protocol classified lifecycle).fields = true ↔
      seq ≤ 1000000000 ∧ utf16Length (recordedHost rt classified) ≤ 253 ∧
        ∀ count, lifecycle.answerCount = some count → count ≤ 8 := by
  have hfields : isPersistable rt (recordedEvent rt proxy seq now protocol classified
      lifecycle).fields = true ↔ ∀ key, fieldCheck rt key ((recordedEvent rt proxy seq now protocol
        classified lifecycle key).getD .undefined) = true := by
    rw [isPersistable, knownKeys_recorded, hostPresent_recorded h, phaseCoherent_recorded,
      Bool.true_and, Bool.and_true, Bool.and_true, List.all_eq_true]
    simp only [fieldAt_fields, mem_proxyEventKeys, forall_const]
  have hseq : fieldCheck rt .seq (.num (.ofNat seq)) = true ↔ seq ≤ 1000000000 := fieldCheck_seq
  have hcount : fieldCheck rt .answerCount ((lifecycle.answerCount.map fun count =>
      JsValue.num (.ofNat count)).getD .undefined) = true ↔ ∀ count,
        lifecycle.answerCount = some count → count ≤ 8 := fieldCheck_answerCount _
  rw [hfields, ← hseq, ← fieldCheck_host h, ← hcount]
  constructor
  · intro hall
    exact ⟨hall .seq, hall .host, hall .answerCount⟩
  · rintro ⟨hseq, hhost, hcount⟩ key
    by_cases hkey : key ∈ [EventKey.seq, .host, .answerCount]
    · rcases List.mem_cons.mp hkey with rfl | hkey
      · exact hseq
      · rcases List.mem_cons.mp hkey with rfl | hkey
        · exact hhost
        · rw [List.mem_singleton.mp hkey]
          exact hcount
    · exact fieldCheck_recorded h hkey

end Event

end NightWatch.Proxy.RecordedEvents
