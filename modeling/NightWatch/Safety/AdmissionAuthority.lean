import NightWatch.Safety.SemanticAdmission

/-!
What an admission decision guarantees across calls and across layers: when a
refusal spends a bootstrap unit, when a consuming layer agrees with the issuing
one, and when the endpoint classifier names the same reviewed route.
-/

namespace NightWatch.Safety.AdmissionAuthority

open Lib.JsText Lib.JsData Lib.JsRuntime Lib.WebUrl Environment.Config Safety.EndpointSemantics
  Safety.BootstrapExemptions Safety.SemanticAdmission

variable {rt : Runtime} {request : AdmissionRequest} {snapshot : AdmissionSnapshot rt}
  {handle : AdmissionHandle}

/-! ## A product with one read and one exemption -/

def itemsText : JsString := "https://api.example/items".toList

def escapedText : JsString := "https://api.example/a%20b".toList

def productUrl (pathname : JsString) : Url :=
  .ofDomain "https:".toList ⟨"api.example".toList, by decide⟩ none pathname isLowerAscii_https

def productRuntime : Runtime :=
  tableRuntime [(itemsText, productUrl "/items".toList), (escapedText, productUrl "/a%20b".toList)]
    (by decide)

def itemsExemption (budget : JsNumber) : BootstrapExemption where
  id := "items".toList
  environment := "dev".toList
  origin := "https://api.example".toList
  method := "GET".toList
  routePattern := "^/items$".toList
  sourceProof := "contract".toList
  sourceCurrent := true
  maxCountPerNavigation := budget

def itemsTable : BootstrapExemptionTable productRuntime where
  entries := [itemsExemption (.finite 1)]
  registered := ⟨by decide, by rfl⟩
  counts _ _ := 0

def productRule (path : JsString) : EndpointSemanticRule where
  id := "items.read".toList
  host := "api.example".toList
  method := "GET".toList
  path := some path
  pathPattern := none
  classification := .knownRead
  provenance := "review".toList

def productRequest (url environment : JsString) : AdmissionRequest where
  method := "GET".toList
  url := url
  environment := environment
  transport := .playwrightRoute
  attribution := .generation "gen:000001".toList

def productSnapshot (environment : JsString) (rules : List EndpointSemanticRule) (active : Bool) :
    AdmissionSnapshot productRuntime where
  environment := environment
  bindings := rules.map fun rule => ⟨rule, "contract".toList, true⟩
  isActiveGeneration _ := active
  bootstrap := itemsTable
  navigationGeneration := some "gen:000001".toList

def provenSnapshot (environment : JsString) (path : JsString) : AdmissionSnapshot productRuntime :=
  productSnapshot environment [productRule path] true

/-- The handle of a proven read of `path` under the address `url`. -/
def productHandle (url pathname path : JsString) : AdmissionHandle :=
  provenHandle (productRequest url "dev".toList) (provenSnapshot "dev".toList path)
    (productUrl pathname) "gen:000001".toList ⟨productRule path, "contract".toList, true⟩

def productConfig : EnvironmentConfig where
  name := .dev
  label := "dev".toList
  uiBaseUrl := "https://app.example".toList
  apiHosts := some ["api.example".toList]
  authHosts := none
  allowedHosts := ["api.example".toList]
  staticAssetHosts := []
  telemetryHosts := []
  optionalThirdPartySupportHosts := none
  browserBackgroundHosts := none
  failOn := []

/-! ## Refusals and the budget -/

/-- The tables that registration and earlier evaluations lead to. -/
inductive Earlier (rt : Runtime) : BootstrapExemptionTable rt → Prop
  | registered {entries : List BootstrapExemption} {table : BootstrapExemptionTable rt}
      (h : BootstrapExemptionTable.of rt entries = .ok table) : Earlier rt table
  | evaluated (request : AdmissionRequest) (snapshot : AdmissionSnapshot rt)
      (h : Earlier rt snapshot.bootstrap) : Earlier rt (evaluateAdmission request snapshot).2

/-- An exemption is there to be drawn on, but the navigation generation or the
attributed one is closed. -/
def ClosedAfterGrant (request : AdmissionRequest) (snapshot : AdmissionSnapshot rt) : Prop :=
  ∃ url id generation entry, ExemptedBy request snapshot url id generation entry ∧
    ¬ BothActive snapshot generation id

/-- A refusal leaves the consumed counts alone except in one case. -/
theorem refused_keeps_counts_iff (request : AdmissionRequest) (snapshot : AdmissionSnapshot rt) :
    (∀ refusal, (evaluateAdmission request snapshot).1 = .refused refusal →
      (evaluateAdmission request snapshot).2.counts = snapshot.bootstrap.counts) ↔
        ¬ ClosedAfterGrant request snapshot := by
  constructor
  · rintro h ⟨url, id, generation, entry, hexempted, hclosed⟩
    have heval := hexempted.evaluate.2 hclosed
    rw [heval] at h
    exact BootstrapExemptionTable.spend_counts_ne _ _ _ (h _ rfl)
  · intro h refusal hrefused
    have hcases := outcome request snapshot
    generalize evaluateAdmission request snapshot = decision at hcases hrefused ⊢
    cases hcases with
    | proven hproven => contradiction
    | exempted hexempted hactive => contradiction
    | burned hexempted hclosed => exact absurd ⟨_, _, _, _, hexempted, hclosed⟩ h
    | refused r => rfl

/-- A request of a settled generation is refused, and its unit is gone. -/
theorem closed_generation_spends :
    ¬ ∀ (rt : Runtime) (request : AdmissionRequest) (snapshot : AdmissionSnapshot rt)
      (refusal : AdmissionRefusal), Earlier rt snapshot.bootstrap →
      (evaluateAdmission request snapshot).1 = .refused refusal →
      (evaluateAdmission request snapshot).2.counts = snapshot.bootstrap.counts := by
  intro h
  have hcounts := h productRuntime (productRequest itemsText "dev".toList)
    (productSnapshot "dev".toList [] false) _
    (@Earlier.registered productRuntime [itemsExemption (.finite 1)] _ rfl) rfl
  have hspent := congrFun (congrFun hcounts "gen:000001".toList) "items".toList
  exact absurd hspent (by decide)

/-! ## Issuing and consuming layers -/

def routeFamily (request : AdmissionRequest) (snapshot : AdmissionSnapshot rt) :
    List AdmissionRuleBinding :=
  match rt.parseUrl request.url with
  | none => []
  | some url => pathFamily rt snapshot.bindings url

variable {url : Url} {id : JsString}

theorem Attributed.routeFamily_eq (h : Attributed request snapshot url id) :
    routeFamily request snapshot = pathFamily rt snapshot.bindings url := by
  rw [routeFamily, h.parsed]

theorem admitted_cases (h : (evaluateAdmission request snapshot).1 = .admitted handle) :
    (∃ url id binding, ProvenBy request snapshot url id binding ∧
      routeFamily request snapshot ≠ [] ∧ handle = provenHandle request snapshot url id binding) ∨
    (∃ url id generation entry, ExemptedBy request snapshot url id generation entry ∧
      BothActive snapshot generation id ∧ routeFamily request snapshot = [] ∧
        handle = entryHandle request snapshot url generation entry) := by
  have hcases := outcome request snapshot
  generalize evaluateAdmission request snapshot = decision at hcases h
  cases hcases with
  | @proven url id binding hproven =>
      refine Or.inl ⟨url, id, binding, hproven, ?_, (AdmissionDecision.admitted.inj h).symm⟩
      rw [Attributed.routeFamily_eq hproven.toAttributed]
      intro hnil
      have hfirst := hproven.first
      rw [hnil] at hfirst
      contradiction
  | @exempted url id generation entry hexempted hactive =>
      refine Or.inr ⟨url, id, generation, entry, hexempted, hactive, ?_,
        (AdmissionDecision.admitted.inj h).symm⟩
      rw [Attributed.routeFamily_eq hexempted.toAttributed]
      exact hexempted.uncovered
  | burned hexempted hclosed => contradiction
  | refused r => contradiction

theorem consume_of_fresh {fresh : AdmissionHandle}
    (hfresh : (evaluateAdmission request snapshot).1 = .admitted fresh)
    (hagrees : agrees fresh handle = true) : (consumeAdmission handle request snapshot).1 =
      .admitted { handle with transport := request.transport } := by
  unfold consumeAdmission
  generalize evaluateAdmission request snapshot = decision at hfresh
  obtain ⟨first, table⟩ := decision
  cases hfresh
  simp only [hagrees, if_true]

theorem fresh_of_consume {out : AdmissionHandle}
    (h : (consumeAdmission handle request snapshot).1 = .admitted out) :
    ∃ fresh, (evaluateAdmission request snapshot).1 = .admitted fresh ∧
      agrees fresh handle = true ∧ out = { handle with transport := request.transport } := by
  unfold consumeAdmission at h
  generalize evaluateAdmission request snapshot = decision at h ⊢
  obtain ⟨first, table⟩ := decision
  cases first with
  | admitted fresh =>
      simp only at h
      split at h
      · rename_i hagrees
        exact ⟨fresh, rfl, hagrees, (AdmissionDecision.admitted.inj h).symm⟩
      · contradiction
  | refused r =>
      simp only at h
      split at h
      · contradiction
      · contradiction

theorem agrees_with_transport (handle : AdmissionHandle) (transport : AdmissionTransport) :
    agrees { handle with transport := transport } handle = true := by
  simp [agrees]

abbrev reissued (request : AdmissionRequest) (transport : AdmissionTransport) : AdmissionRequest :=
  { request with transport := transport }

abbrev afterwards (snapshot : AdmissionSnapshot rt) (request : AdmissionRequest) :
    AdmissionSnapshot rt :=
  { snapshot with bootstrap := (evaluateAdmission request snapshot).2 }

/-- An exemption is matched with two units left for the navigation generation. -/
def TwoUnitsLeft (request : AdmissionRequest) (snapshot : AdmissionSnapshot rt) : Prop :=
  ∃ generation entry, snapshot.bootstrap.Grantable snapshot.navigationGeneration
      (bootstrapRequest rt request) generation entry ∧
    JsNumber.ge (.ofNat (snapshot.bootstrap.counts generation entry.id + 1))
      entry.maxCountPerNavigation = false

theorem grantable_unique {table : BootstrapExemptionTable rt} {navigation : Option JsString}
    {bootstrap : BootstrapRequest} {generation generation' : JsString}
    {entry entry' : BootstrapExemption} (h : table.Grantable navigation bootstrap generation entry)
    (h' : table.Grantable navigation bootstrap generation' entry') :
    generation = generation' ∧ entry = entry' :=
  ⟨Option.some.inj (h.navigation.symm.trans h'.navigation),
    Except.ok.inj (h.resolved.symm.trans h'.resolved)⟩

/-- A consuming layer repeats an admission exactly when a binding decides it, or the
exemption can pay a second time. -/
theorem consume_reissued_iff (transport : AdmissionTransport)
    (hadmitted : (evaluateAdmission request snapshot).1 = .admitted handle) :
    (consumeAdmission handle (reissued request transport) (afterwards snapshot request)).1 =
        .admitted { handle with transport := transport } ↔
      routeFamily request snapshot ≠ [] ∨ TwoUnitsLeft request snapshot := by
  rcases admitted_cases hadmitted with
    ⟨url, id, binding, hproven, hcovered, rfl⟩ | ⟨url, id, generation, entry, hexempted, hactive,
      huncovered, rfl⟩
  · refine iff_of_true ?_ (Or.inl hcovered)
    have hagain : ProvenBy (reissued request transport) (afterwards snapshot request) url id
        binding := ⟨⟨hproven.parsed, hproven.environment, hproven.attribution⟩, hproven.first,
      hproven.read, hproven.proof, hproven.current, hproven.active⟩
    exact consume_of_fresh (congrArg Prod.fst hagain.evaluate)
      (agrees_with_transport (provenHandle request snapshot url id binding) transport)
  · have htable : (afterwards snapshot request).bootstrap =
        snapshot.bootstrap.spend generation entry.id := by
      change (evaluateAdmission request snapshot).2 = _
      rw [hexempted.evaluate.1 hactive]
    have hattributed : Attributed (reissued request transport) (afterwards snapshot request) url id :=
      ⟨hexempted.parsed, hexempted.environment, hexempted.attribution⟩
    constructor
    · intro hconsume
      right
      obtain ⟨fresh, hfresh, -⟩ := fresh_of_consume hconsume
      rcases admitted_cases hfresh with
        ⟨_, _, _, hproven, -⟩ | ⟨_, _, generation', entry', hagain, -⟩
      · have hfirst := hproven.first
        rw [Option.some.inj (hproven.parsed.symm.trans hattributed.parsed)] at hfirst
        have hnil : pathFamily rt (afterwards snapshot request).bindings url = [] :=
          hexempted.uncovered
        rw [hnil] at hfirst
        contradiction
      · have hgrant := hagain.grantable
        have haffordable := hgrant.affordable
        rw [htable] at hgrant haffordable
        have hgeneration : generation' = generation := Option.some.inj
          (hgrant.navigation.symm.trans hexempted.grantable.navigation)
        have hentry : entry' = entry := Except.ok.inj
          (hgrant.resolved.symm.trans hexempted.grantable.resolved)
        subst hgeneration hentry
        refine ⟨generation', entry', hexempted.grantable, ?_⟩
        rw [BootstrapExemptionTable.exhausted, BootstrapExemptionTable.spend_counts_self]
          at haffordable
        exact haffordable
    · rintro (hcovered | ⟨generation', entry', hgrant, hleft⟩)
      · exact absurd huncovered hcovered
      · obtain ⟨rfl, rfl⟩ := grantable_unique hexempted.grantable hgrant
        have hgrantable : (afterwards snapshot request).bootstrap.Grantable
            (afterwards snapshot request).navigationGeneration
            (bootstrapRequest rt (reissued request transport)) generation entry := by
          rw [htable]
          refine ⟨hgrant.navigation, hgrant.named, hgrant.resolved, ?_⟩
          rw [BootstrapExemptionTable.exhausted, BootstrapExemptionTable.spend_counts_self]
          exact hleft
        have hagain : ExemptedBy (reissued request transport) (afterwards snapshot request) url id
            generation entry := ⟨hattributed, hexempted.uncovered, hgrantable⟩
        have hsecond := congrArg Prod.fst (hagain.evaluate.1 hactive)
        exact consume_of_fresh hsecond
          (agrees_with_transport (entryHandle request snapshot url generation entry) transport)

/-- With a budget of one, the issuing layer leaves nothing for the consuming one. -/
theorem single_unit_disagrees :
    ¬ ∀ (rt : Runtime) (request : AdmissionRequest) (snapshot : AdmissionSnapshot rt)
      (handle : AdmissionHandle) (transport : AdmissionTransport),
      (evaluateAdmission request snapshot).1 = .admitted handle →
      (consumeAdmission handle (reissued request transport) (afterwards snapshot request)).1 =
        .admitted { handle with transport := transport } := by
  intro h
  have hconsumed := h productRuntime (productRequest itemsText "dev".toList)
    (productSnapshot "dev".toList [] true) _ .cdpFetch rfl
  cases hconsumed

theorem consume_reissued_items :
    (consumeAdmission (productHandle itemsText "/items".toList "/items".toList)
      (reissued (productRequest itemsText "dev".toList) .cdpFetch)
      (afterwards (provenSnapshot "dev".toList "/items".toList)
        (productRequest itemsText "dev".toList))).1 =
    .admitted { productHandle itemsText "/items".toList "/items".toList with
      transport := .cdpFetch } :=
  (consume_reissued_iff .cdpFetch rfl).mpr (Or.inl (List.cons_ne_nil _ _))

theorem issued_fields (h : (evaluateAdmission request snapshot).1 = .admitted handle) :
    handle.schemaVersion = semanticAdmissionSchema ∧ handle.sourceSnapshot = "CURRENT".toList ∧
      handle.environment = snapshot.environment ∧ handle.transport = request.transport ∧
      (handle.classification = .provenRead ↔ routeFamily request snapshot ≠ []) := by
  rcases admitted_cases h with ⟨_, _, _, -, hcovered, rfl⟩ | ⟨_, _, _, _, -, -, huncovered, rfl⟩
  · exact ⟨rfl, rfl, rfl, rfl, iff_of_true rfl hcovered⟩
  · exact ⟨rfl, rfl, rfl, rfl, iff_of_false nofun (not_not.mpr huncovered)⟩

theorem classification_eq_iff {a b : AdmissionRequestClass} :
    a = b ↔ (a = .provenRead ↔ b = .provenRead) := by
  cases a <;> cases b <;> decide

/-- A consumption returns the fresh handle exactly when the old one was issued for the
same environment and under the same kind of authority: neither is compared. -/
theorem consumed_handle_eq_iff {request₀ : AdmissionRequest} {snapshot₀ : AdmissionSnapshot rt}
    {out : AdmissionHandle} (hissued : (evaluateAdmission request₀ snapshot₀).1 = .admitted handle)
    (hconsumed : (consumeAdmission handle request snapshot).1 = .admitted out) :
    ∃ fresh, (evaluateAdmission request snapshot).1 = .admitted fresh ∧
      (out = fresh ↔ handle.environment = snapshot.environment ∧
        (handle.classification = .provenRead ↔ routeFamily request snapshot ≠ [])) := by
  obtain ⟨hschema, hsource, -, -, -⟩ := issued_fields hissued
  obtain ⟨fresh, hfresh, hagrees, rfl⟩ := fresh_of_consume hconsumed
  obtain ⟨hschema', hsource', henvironment', htransport', hclass'⟩ := issued_fields hfresh
  simp only [agrees, Bool.and_eq_true, decide_eq_true_eq] at hagrees
  obtain ⟨⟨⟨⟨⟨hrule, hgeneration⟩, hmethod⟩, horigin⟩, hroute⟩, hproof⟩ := hagrees
  refine ⟨fresh, hfresh, ?_⟩
  rw [← hclass', ← classification_eq_iff, ← henvironment']
  constructor
  · rintro rfl
    exact ⟨rfl, rfl⟩
  · rintro ⟨henvironment, hclass⟩
    cases handle
    cases fresh
    simp only at *
    subst_vars
    rfl

/-- A handle issued for `dev` survives the check against a snapshot of `next`. -/
theorem environment_survives : ¬ ∀ (rt : Runtime) (request₀ request : AdmissionRequest)
      (snapshot₀ snapshot : AdmissionSnapshot rt) (handle out : AdmissionHandle),
      (evaluateAdmission request₀ snapshot₀).1 = .admitted handle →
      (consumeAdmission handle request snapshot).1 = .admitted out →
      (evaluateAdmission request snapshot).1 = .admitted out := by
  intro h
  have hout := h productRuntime (productRequest itemsText "dev".toList)
    (productRequest itemsText "next".toList) (provenSnapshot "dev".toList "/items".toList)
    (provenSnapshot "next".toList "/items".toList) _ _ rfl rfl
  cases hout

theorem consumed_handle_items :
    ∃ fresh, (evaluateAdmission (productRequest itemsText "dev".toList)
        (provenSnapshot "dev".toList "/items".toList)).1 = .admitted fresh ∧
      (productHandle itemsText "/items".toList "/items".toList = fresh ↔
        "dev".toList = "dev".toList ∧ (AdmissionRequestClass.provenRead = .provenRead ↔
          routeFamily (productRequest itemsText "dev".toList)
            (provenSnapshot "dev".toList "/items".toList) ≠ [])) :=
  @consumed_handle_eq_iff productRuntime (productRequest itemsText "dev".toList)
    (provenSnapshot "dev".toList "/items".toList) _ (productRequest itemsText "dev".toList)
    (provenSnapshot "dev".toList "/items".toList) _ rfl rfl

/-! ## The endpoint classifier -/

theorem exists_find?_iff {α : Type*} (p : α → Bool) (Q : α → Prop) (xs : List α) :
    (∃ x, xs.find? p = some x ∧ Q x) ↔
      ∃ before x after, xs = before ++ x :: after ∧ p x = true ∧ Q x ∧
        ∀ y ∈ before, p y = true → Q y := by
  constructor
  · rintro ⟨x, hfind, hx⟩
    obtain ⟨hpx, before, after, heq, hbefore⟩ := List.find?_eq_some_iff_append.mp hfind
    refine ⟨before, x, after, heq, hpx, hx, fun y hy hpy => ?_⟩
    have hnot := hbefore y hy
    simp [hpy] at hnot
  · rintro ⟨before, x, after, rfl, hpx, hx, hbefore⟩
    rw [List.find?_append]
    cases hfind : before.find? p with
    | some y =>
        exact ⟨y, rfl, hbefore y (List.mem_of_find?_eq_some hfind) (List.find?_some hfind)⟩
    | none => exact ⟨x, by simp [hpx], hx⟩

def ReadUnder (ruleId : JsString) (rule : EndpointSemanticRule) : Prop :=
  rule.id = ruleId ∧ rule.classification = .knownRead

/-- A known read called `ruleId` is the first rule to match the raw pathname and the untrimmed
method. -/
def RawRouteLeads (rt : Runtime) (request : AdmissionRequest)
    (registry : List EndpointSemanticRule) (ruleId : JsString) : Prop :=
  ∃ url before rule after, rt.parseUrl request.url = some url ∧
    registry = before ++ rule :: after ∧
      candidateMatches rt url request.method rule = true ∧ ReadUnder ruleId rule ∧
        ∀ earlier ∈ before, candidateMatches rt url request.method earlier = true →
          ReadUnder ruleId earlier

theorem matchRippleEndpoint_eq_iff {env : EnvironmentConfig}
    {registry : List EndpointSemanticRule} {ruleId : JsString}
    (hparsed : rt.parseUrl request.url = some url) (hapi : isApiHost rt url env = true) :
    matchRippleEndpoint rt request.url request.method env registry = some ⟨ruleId, .knownRead⟩ ↔
      ∃ rule, registry.find? (candidateMatches rt url request.method) = some rule ∧
        ReadUnder ruleId rule := by
  rw [matchRippleEndpoint, hparsed]
  simp only [hapi, Bool.not_true, Bool.false_eq_true, if_false]
  cases registry.find? (candidateMatches rt url request.method) with
  | none =>
      constructor
      · intro h
        cases Option.some.inj h
      · rintro ⟨rule, h, -⟩
        contradiction
  | some rule =>
      simp only [Option.some.injEq, EndpointSemanticMatch.mk.injEq, ReadUnder, exists_eq_left']

theorem mem_of_provenBy {binding : AdmissionRuleBinding}
    (h : ProvenBy request snapshot url id binding) :
    binding ∈ snapshot.bindings ∧ ruleHostMatches rt url binding.rule.host = true := by
  have hmem := List.mem_of_find?_eq_some h.first
  rw [pathFamily, List.mem_filter, Bool.and_eq_true] at hmem
  exact ⟨hmem.1, hmem.2.1⟩

theorem provenBy_of_admitted (hadmitted : (evaluateAdmission request snapshot).1 = .admitted handle)
    (hproven : handle.classification = .provenRead) :
    ∃ url id binding, ProvenBy request snapshot url id binding ∧ handle.ruleId = binding.rule.id := by
  rcases admitted_cases hadmitted with ⟨url, id, binding, h, -, rfl⟩ | ⟨_, _, _, _, -, -, -, rfl⟩
  · exact ⟨url, id, binding, h, rfl⟩
  · cases hproven

theorem provenBy_items :
    ProvenBy (productRequest itemsText "dev".toList) (provenSnapshot "dev".toList "/items".toList)
      (productUrl "/items".toList) "gen:000001".toList
      ⟨productRule "/items".toList, "contract".toList, true⟩ :=
  ⟨⟨rfl, rfl, rfl⟩, rfl, rfl, List.cons_ne_nil _ _, rfl, rfl⟩

theorem provenBy_escaped :
    ProvenBy (productRequest escapedText "dev".toList) (provenSnapshot "dev".toList "/a b".toList)
      (productUrl "/a%20b".toList) "gen:000001".toList
      ⟨productRule "/a b".toList, "contract".toList, true⟩ :=
  ⟨⟨rfl, rfl, rfl⟩, rfl, rfl, List.cons_ne_nil _ _, rfl, rfl⟩

end NightWatch.Safety.AdmissionAuthority
