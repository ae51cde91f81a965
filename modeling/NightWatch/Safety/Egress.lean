import NightWatch.Environment.Loopback
import NightWatch.Safety.OutboundPolicy

namespace NightWatch.Safety.Egress

open Lib.JsText Lib.JsData Lib.JsRuntime Lib.WebUrl Safety.Hosts Safety.Types Safety.OutboundPolicy
  Environment.Config Environment.Loopback

def StoppedBeforeLists (rt : Runtime) (env : EnvironmentConfig) (rawUrl : JsString) (url : Url) :
    Prop :=
  url.username ≠ [] ∨ url.password ≠ [] ∨ hasUnsupportedTrailingDot rawUrl = true ∨
    ∃ entry ∈ env.browserBackgroundHosts.getD [],
      rt.toLowerCase entry.host = url.hostname ∧ '*' ∉ entry.host

theorem deny_verdict (host : JsString) (hostClass : HostClass) (reason : JsString) :
    (deny host hostClass reason).verdict = .deny :=
  rfl

theorem decideUnlisted_verdict (rt : Runtime) (hostname : JsString) :
    (decideUnlisted rt hostname).verdict = .deny := by
  simp only [decideUnlisted, apply_ite OutboundDecision.verdict, deny_verdict, ite_self]

theorem decideByLists_allow_iff (rt : Runtime) (env : EnvironmentConfig) (hostname key : JsString) :
    (decideByLists rt env hostname key).verdict = .allow ↔
      ∃ entry ∈ env.allowedHosts ++ env.staticAssetHosts,
        entryMatches rt hostname key entry = true := by
  have hlists : (∃ entry ∈ env.allowedHosts ++ env.staticAssetHosts,
      entryMatches rt hostname key entry = true) ↔
      listMatches rt hostname key env.allowedHosts = true ∨
        listMatches rt hostname key env.staticAssetHosts = true := by
    simp only [listMatches, List.any_eq_true, List.mem_append, or_and_right, exists_or]
  rw [hlists, decideByLists]
  by_cases hallowed : listMatches rt hostname key env.allowedHosts = true
  · rw [if_pos hallowed]
    simp only [hallowed, true_or]
  · rw [if_neg hallowed]
    by_cases hstatic : listMatches rt hostname key env.staticAssetHosts = true
    · rw [if_pos hstatic]
      simp only [hstatic, or_true]
    · rw [if_neg hstatic]
      refine iff_of_false ?_ (not_or.mpr ⟨hallowed, hstatic⟩)
      simp only [apply_ite OutboundDecision.verdict, decideUnlisted_verdict]
      split_ifs <;> exact nofun

variable {rt : Runtime} {entry hostname : JsString} {env : EnvironmentConfig} {port : Option Nat}

theorem browserBackground_eq_none :
    browserBackground rt env hostname = none ↔ ¬ ∃ entry ∈ env.browserBackgroundHosts.getD [],
      rt.toLowerCase entry.host = hostname ∧ '*' ∉ entry.host := by
  simp only [browserBackground, List.find?_eq_none, Bool.and_eq_true, decide_eq_true_eq,
    not_exists, not_and]

theorem decide_allow_iff {rawUrl : JsString} {url : Url}
    (hurl : rt.parseUrl rawUrl = some url) (hnetwork : url.protocol ∈ networkProtocols) :
    (OutboundPolicy.decide rt env rawUrl).verdict = .allow ↔ ¬ StoppedBeforeLists rt env rawUrl url ∧
      ∃ entry ∈ env.allowedHosts ++ env.staticAssetHosts,
        entryMatches rt url.hostname (hostPortKey url.hostname url.port) entry = true := by
  have hstop : StoppedBeforeLists rt env rawUrl url ↔
      (url.username ≠ [] ∨ url.password ≠ []) ∨ hasUnsupportedTrailingDot rawUrl = true ∨
        browserBackground rt env url.hostname ≠ none := by
    rw [StoppedBeforeLists, Ne, Ne, Ne, browserBackground_eq_none, not_not, or_assoc]
  rw [← decideByLists_allow_iff, hstop]
  unfold OutboundPolicy.decide
  rw [hurl]
  simp only [decideParsed, toLowerCase_hostname rt hnetwork]
  by_cases hcredentials : url.username ≠ [] ∨ url.password ≠ []
  · rw [if_pos (by simpa using hcredentials)]
    simp only [deny_verdict, reduceCtorEq, hcredentials, true_or, not_true_eq_false, false_and]
  · rw [if_neg (by simpa using hcredentials)]
    by_cases hdot : hasUnsupportedTrailingDot rawUrl = true
    · simp only [hdot, if_true, deny_verdict, reduceCtorEq, true_or, or_true, not_true_eq_false,
        false_and]
    · rw [if_neg hdot, if_neg (by simpa using hnetwork)]
      cases hbackground : browserBackground rt env url.hostname with
      | some entry =>
          simp only [reduceCtorEq, ne_eq, not_false_eq_true, or_true, not_true_eq_false, false_and]
      | none => simp only [hcredentials, hdot, ne_eq, not_true_eq_false, or_false, true_and,
          not_false_eq_true, Bool.false_eq_true]

/-! ## Production hosts -/

def namesPort (rt : Runtime) (hostname : JsString) (port : Option Nat) (entry : JsString) : Bool :=
  !startsWith (rt.toLowerCase entry) "*.".toList &&
    port.any fun p => rt.toLowerCase entry = hostname ++ ':' :: decimal p

def namesCloudRun (rt : Runtime) (hostname entry : JsString) : Bool :=
  isCloudRunHost hostname && entryMatches rt hostname hostname entry

theorem entryMatches_hostPortKey (rt : Runtime) (hostname : JsString) (port : Option Nat)
    (entry : JsString) : entryMatches rt hostname (hostPortKey hostname port) entry = true ↔
      namesPort rt hostname port entry = true ∨ entryMatches rt hostname hostname entry = true := by
  simp only [entryMatches, namesPort]
  by_cases hwildcard : startsWith (rt.toLowerCase entry) "*.".toList = true
  · rw [if_pos hwildcard, if_pos hwildcard, hwildcard]
    simp
  · rw [if_neg hwildcard, if_neg hwildcard, eq_false_of_ne_true hwildcard]
    simp only [Bool.not_false, Bool.true_and, Bool.or_eq_true, decide_eq_true_eq, or_self]
    cases port with
    | none => simp [hostPortKey]
    | some p =>
        simp only [hostPortKey, Option.any_some, decide_eq_true_eq]
        exact or_comm

theorem entryMatches_production
    (hcovered : productionHostCovered rt entry = none) (hhost : hostname ∈ knownProductionHosts) :
    entryMatches rt hostname hostname entry = false := by
  have hnot := List.find?_eq_none.mp hcovered hostname hhost
  simp only [Bool.or_eq_true, decide_eq_true_eq, not_or] at hnot
  simp only [entryMatches]
  split
  · rename_i hwildcard
    rw [if_pos hwildcard] at hnot
    exact eq_false_of_ne_true hnot.2
  · simpa using hnot.1

theorem entryMatches_production_iff (hcovered : productionHostCovered rt entry = none)
    (hclass : hostname ∈ knownProductionHosts ∨ isCloudRunHost hostname = true) :
    entryMatches rt hostname (hostPortKey hostname port) entry = true ↔
      namesPort rt hostname port entry = true ∨ namesCloudRun rt hostname entry = true := by
  rw [entryMatches_hostPortKey, namesCloudRun, Bool.and_eq_true]
  rcases hclass with hknown | hcloudRun
  · simp [entryMatches_production hcovered hknown]
  · simp [hcloudRun]

/-- An accepted configuration keeps a production-class address from `allow` exactly
when no allowlist entry names it with its port, or as a Cloud Run host. -/
theorem production_denied_iff {rt : Runtime} {name : EnvironmentName} {value : JsValue}
    {source : JsString} {cfg : EnvironmentConfig} {rawUrl : JsString} {url : Url}
    (haccepted : validateEnvironmentConfig rt name value source = .ok cfg)
    (hurl : rt.parseUrl rawUrl = some url) (hnetwork : url.protocol ∈ networkProtocols)
    (hclass : isKnownProductionHost rt url.hostname = true ∨ isCloudRunHost url.hostname = true) :
    (OutboundPolicy.decide rt cfg rawUrl).verdict ≠ .allow ↔ StoppedBeforeLists rt cfg rawUrl url ∨
      ∀ entry ∈ cfg.allowedHosts ++ cfg.staticAssetHosts,
        namesPort rt url.hostname url.port entry = false ∧
          namesCloudRun rt url.hostname entry = false := by
  have haccepted := accepted_of_validate haccepted
  obtain ⟨host, hhost⟩ := url.host_serialized hnetwork
  have hlower : IsLowerAscii url.hostname := hhost ▸ isLowerAscii_serialize host
  rw [isKnownProductionHost_iff rt hlower] at hclass
  have hentry : ∀ entry ∈ cfg.allowedHosts ++ cfg.staticAssetHosts,
      (entryMatches rt url.hostname (hostPortKey url.hostname url.port) entry = true ↔
        namesPort rt url.hostname url.port entry = true ∨
          namesCloudRun rt url.hostname entry = true) := by
    intro entry hmem
    rcases List.mem_append.mp hmem with hmem | hmem
    · exact entryMatches_production_iff (haccepted.allowed entry hmem).2 hclass
    · exact entryMatches_production_iff (haccepted.static entry hmem).2 hclass
  rw [Ne, decide_allow_iff hurl hnetwork, not_and_or, not_not]
  apply or_congr_right
  simp only [not_exists, not_and]
  apply forall₂_congr
  intro entry hmem
  rw [hentry entry hmem, not_or, Bool.not_eq_true, Bool.not_eq_true]

def gatewayUrl : Url :=
  .ofDomain "https:".toList ⟨"api.alphaus.cloud".toList, by decide⟩ (some ⟨8443, by decide⟩) "/".toList
    isLowerAscii_https

def gatewayRuntime : Runtime :=
  tableRuntime [("https://api.alphaus.cloud:8443/".toList, gatewayUrl)] (by decide)

def gatewayFields (allowed : JsString) : JsValue :=
  .obj [("name".toList, .str "dev".toList), ("label".toList, .str "dev".toList),
    ("uiBaseUrl".toList, .str "https://appdev.alphaus.cloud".toList),
    ("allowedHosts".toList, .arr [.str allowed]), ("staticAssetHosts".toList, .arr []),
    ("telemetryHosts".toList, .arr []), ("failOn".toList, .arr [])]

def gatewayConfig (allowed : JsString) : EnvironmentConfig where
  name := .dev
  label := "dev".toList
  uiBaseUrl := "https://appdev.alphaus.cloud".toList
  apiHosts := some []
  authHosts := some []
  allowedHosts := [allowed]
  staticAssetHosts := []
  telemetryHosts := []
  optionalThirdPartySupportHosts := some []
  browserBackgroundHosts := some []
  failOn := []

/-- The entry `api.alphaus.cloud:8443` passes the validator and lets that port out. -/
theorem production_port_allowed :
    ¬ ∀ (rt : Runtime) (name : EnvironmentName) (value : JsValue) (source : JsString)
      (cfg : EnvironmentConfig) (rawUrl : JsString) (url : Url),
      validateEnvironmentConfig rt name value source = .ok cfg →
      rt.parseUrl rawUrl = some url → url.protocol ∈ networkProtocols →
      isKnownProductionHost rt url.hostname = true ∨ isCloudRunHost url.hostname = true →
      (OutboundPolicy.decide rt cfg rawUrl).verdict ≠ .allow := by
  intro h
  exact h gatewayRuntime .dev (gatewayFields "api.alphaus.cloud:8443".toList) "in-memory".toList
    (gatewayConfig "api.alphaus.cloud:8443".toList) "https://api.alphaus.cloud:8443/".toList
    gatewayUrl rfl rfl (by decide) (Or.inl (by decide)) rfl

theorem production_denied_apidev :
    (OutboundPolicy.decide gatewayRuntime (gatewayConfig "apidev.alphaus.cloud".toList)
      "https://api.alphaus.cloud:8443/".toList).verdict ≠ .allow :=
  (@production_denied_iff gatewayRuntime .dev (gatewayFields "apidev.alphaus.cloud".toList)
    "in-memory".toList _ _ gatewayUrl rfl rfl (by decide) (Or.inl (by decide))).mpr
      (Or.inr (by decide))

/-! ## The local environment -/

theorem loopback_of_entryMatches {host : Host} (hvalid : invalidHostEntry entry = none)
    (hloopback : isLoopbackEntry entry = true)
    (hmatch : entryMatches rt host.serialize (hostPortKey host.serialize port) entry = true) :
    LoopbackHostname host.serialize := by
  obtain ⟨bare, hbase, hentry⟩ := bare_of_entry hvalid hloopback
  have hbare := isLowerAscii_of_stripPort hbase.isLowerAscii
  rcases hentry with ⟨rfl, hplain⟩ | rfl
  · have hlower := toLowerCase_of_isLowerAscii rt hbare
    simp only [entryMatches, hlower] at hmatch
    rw [if_neg (by simpa using hplain), Bool.or_eq_true, decide_eq_true_eq,
      decide_eq_true_eq] at hmatch
    have hhost : stripPort entry = host.serialize := by
      rcases hmatch with h | h
      · rw [h, stripPort_serialize]
      · cases port with
        | none => rw [h, hostPortKey, stripPort_serialize]
        | some p => rw [h, hostPortKey, stripPort_append (allOf_isDigit_decimal p)]
    rw [hhost] at hbase
    exact loopbackHostname_of_base hbase
  · have hlower : rt.toLowerCase ('*' :: '.' :: bare) = '*' :: '.' :: bare := by
      apply toLowerCase_of_isLowerAscii
      intro c hc
      rcases List.mem_cons.mp hc with rfl | hc
      · decide
      · rcases List.mem_cons.mp hc with rfl | hc
        · decide
        · exact hbare c hc
    simp only [entryMatches, hlower] at hmatch
    rw [if_pos (by simp)] at hmatch
    exact wildcard_loopback hbase (by simpa using hmatch)

/-- The local environment lets out loopback hosts only, but for the static asset
list: that list is not held to the loopback rule and still allows. -/
theorem local_loopback_iff {rt : Runtime} {value : JsValue} {source : JsString}
    {cfg : EnvironmentConfig} {rawUrl : JsString} {url : Url}
    (haccepted : validateEnvironmentConfig rt .localEnv value source = .ok cfg)
    (hurl : rt.parseUrl rawUrl = some url) (hnetwork : url.protocol ∈ networkProtocols) :
    ((OutboundPolicy.decide rt cfg rawUrl).verdict = .allow → LoopbackHostname url.hostname) ↔
      LoopbackHostname url.hostname ∨ StoppedBeforeLists rt cfg rawUrl url ∨
        ∀ entry ∈ cfg.staticAssetHosts,
          entryMatches rt url.hostname (hostPortKey url.hostname url.port) entry = false := by
  have haccepted := accepted_of_validate haccepted
  obtain ⟨host, hhost⟩ := url.host_serialized hnetwork
  rw [decide_allow_iff hurl hnetwork]
  constructor
  · intro h
    by_cases hloopback : LoopbackHostname url.hostname
    · exact Or.inl hloopback
    · by_cases hstop : StoppedBeforeLists rt cfg rawUrl url
      · exact Or.inr (Or.inl hstop)
      · refine Or.inr (Or.inr fun entry hmem => eq_false_of_ne_true fun hmatch => ?_)
        exact hloopback (h ⟨hstop, entry, List.mem_append_right _ hmem, hmatch⟩)
  · rintro h ⟨hstop, entry, hmem, hmatch⟩
    rcases h with h | h | h
    · exact h
    · exact absurd h hstop
    · rcases List.mem_append.mp hmem with hmem | hmem
      · rw [hhost] at hmatch ⊢
        exact loopback_of_entryMatches (haccepted.allowed entry hmem).1
          (haccepted.loopback rfl entry hmem) hmatch
      · rw [h entry hmem] at hmatch
        contradiction

def assetUrl : Url :=
  .ofDomain "https:".toList ⟨"cdnjs.cloudflare.com".toList, by decide⟩ none "/".toList
    isLowerAscii_https

def loopbackUrl : Url :=
  .ofDomain "http:".toList ⟨"localhost".toList, by decide⟩ (some ⟨8080, by decide⟩) "/".toList
    isLowerAscii_http

def loopbackRuntime : Runtime :=
  tableRuntime [("https://cdnjs.cloudflare.com/".toList, assetUrl),
    ("http://localhost:8080".toList, loopbackUrl)] (by decide)

def loopbackFields (static : List JsValue) : JsValue :=
  .obj [("name".toList, .str "local".toList), ("label".toList, .str "local".toList),
    ("uiBaseUrl".toList, .str "http://localhost:8080".toList),
    ("allowedHosts".toList, .arr [.str "localhost".toList]),
    ("staticAssetHosts".toList, .arr static), ("telemetryHosts".toList, .arr []),
    ("failOn".toList, .arr [])]

def loopbackConfig (static : List JsString) : EnvironmentConfig where
  name := .localEnv
  label := "local".toList
  uiBaseUrl := "http://localhost:8080".toList
  apiHosts := some []
  authHosts := some []
  allowedHosts := ["localhost".toList]
  staticAssetHosts := static
  telemetryHosts := []
  optionalThirdPartySupportHosts := some []
  browserBackgroundHosts := some []
  failOn := []

theorem not_loopbackHostname_asset : ¬ LoopbackHostname assetUrl.hostname := by
  rintro (h | h | h | ⟨b, c, d, h⟩)
  · exact absurd h (by decide)
  · exact absurd h (by decide)
  · exact absurd h (by decide)
  · have hc : 'c' ∈ dotted 127 b c d := by
      rw [← h]
      decide
    rcases mem_dotted hc with h | h
    · exact absurd h (by decide)
    · exact absurd h (by decide)

theorem local_asset_allowed :
    ¬ ∀ (rt : Runtime) (value : JsValue) (source : JsString) (cfg : EnvironmentConfig)
      (rawUrl : JsString) (url : Url),
      validateEnvironmentConfig rt .localEnv value source = .ok cfg →
      rt.parseUrl rawUrl = some url → url.protocol ∈ networkProtocols →
      (OutboundPolicy.decide rt cfg rawUrl).verdict = .allow → LoopbackHostname url.hostname := by
  intro h
  exact not_loopbackHostname_asset
    (h loopbackRuntime (loopbackFields [.str "cdnjs.cloudflare.com".toList]) "in-memory".toList
      (loopbackConfig ["cdnjs.cloudflare.com".toList]) "https://cdnjs.cloudflare.com/".toList
      assetUrl rfl rfl (by decide) rfl)

theorem local_loopback_without_assets :
    (OutboundPolicy.decide loopbackRuntime (loopbackConfig [])
      "https://cdnjs.cloudflare.com/".toList).verdict ≠ .allow := by
  intro hallow
  have hloopback := (@local_loopback_iff loopbackRuntime (loopbackFields []) "in-memory".toList _ _
    assetUrl rfl rfl (by decide)).mpr (Or.inr (Or.inr (by decide))) hallow
  exact not_loopbackHostname_asset hloopback

end NightWatch.Safety.Egress
