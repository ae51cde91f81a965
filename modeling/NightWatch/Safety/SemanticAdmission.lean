import NightWatch.Safety.BootstrapExemptions
import NightWatch.Safety.CausalGenerations

/-!
The one decision on a deliberate product request. It is made from a snapshot:
bindings of reviewed rules to source proofs, the open generations, and the table of
bootstrap exemptions, which is the only part a decision can change.
-/

namespace NightWatch.Safety.SemanticAdmission

open Lib.JsText Lib.JsRuntime Lib.UriDecode Lib.WebUrl Safety.EndpointSemantics
  Safety.BootstrapExemptions Safety.CausalGenerations

def semanticAdmissionSchema : JsString := "nightwatch.semantic-admission.v1".toList

inductive AdmissionTransport where
  | playwrightRoute
  | cdpFetch
  | websocket
  | apiRelay
  | l5Proxy

inductive AdmissionRequestClass where
  | provenRead
  | bootstrapExemptRead
  deriving DecidableEq

inductive AdmissionRefusalCode where
  | unknown
  | mutation
  | missingProof
  | staleProof
  | ambiguous
  | methodMismatch
  | environmentMismatch
  | unboundGeneration
  | generationClosed
  | transportDisagreement
  | bootstrapUnregistered
  | bootstrapMismatch
  | bootstrapExhausted
  | bootstrapStale
  | unparseable
  deriving DecidableEq

def AdmissionRefusalCode.text : AdmissionRefusalCode → JsString
  | unknown => "ADMISSION_UNKNOWN".toList
  | mutation => "ADMISSION_MUTATION".toList
  | missingProof => "ADMISSION_MISSING_PROOF".toList
  | staleProof => "ADMISSION_STALE_PROOF".toList
  | ambiguous => "ADMISSION_AMBIGUOUS".toList
  | methodMismatch => "ADMISSION_METHOD_MISMATCH".toList
  | environmentMismatch => "ADMISSION_ENVIRONMENT_MISMATCH".toList
  | unboundGeneration => "ADMISSION_UNBOUND_GENERATION".toList
  | generationClosed => "ADMISSION_GENERATION_CLOSED".toList
  | transportDisagreement => "ADMISSION_TRANSPORT_DISAGREEMENT".toList
  | bootstrapUnregistered => "ADMISSION_BOOTSTRAP_UNREGISTERED".toList
  | bootstrapMismatch => "ADMISSION_BOOTSTRAP_MISMATCH".toList
  | bootstrapExhausted => "ADMISSION_BOOTSTRAP_EXHAUSTED".toList
  | bootstrapStale => "ADMISSION_BOOTSTRAP_STALE".toList
  | unparseable => "ADMISSION_UNPARSEABLE".toList

structure AdmissionHandle where
  schemaVersion : JsString
  environment : JsString
  origin : JsString
  method : JsString
  routeTemplate : JsString
  ruleId : JsString
  classification : AdmissionRequestClass
  sourceProof : JsString
  sourceSnapshot : JsString
  generationId : JsString
  transport : AdmissionTransport

structure AdmissionRefusal where
  schemaVersion : JsString
  code : AdmissionRefusalCode
  environment : JsString
  origin : JsString
  method : JsString
  ruleId : Option JsString
  attribution : JsString
  transport : AdmissionTransport

inductive AdmissionDecision where
  | admitted (handle : AdmissionHandle)
  | refused (refusal : AdmissionRefusal)

structure AdmissionRequest where
  method : JsString
  url : JsString
  environment : JsString
  transport : AdmissionTransport
  attribution : Attribution

structure AdmissionRuleBinding where
  rule : EndpointSemanticRule
  sourceProof : JsString
  sourceCurrent : Bool

structure AdmissionSnapshot (rt : Runtime) where
  environment : JsString
  bindings : List AdmissionRuleBinding
  isActiveGeneration : JsString → Bool
  bootstrap : BootstrapExemptionTable rt
  navigationGeneration : Option JsString

def attributionLabel : Attribution → JsString
  | .generation id => id
  | .none => "NONE".toList
  | .ambiguous _ => "AMBIGUOUS".toList

variable (rt : Runtime)

def refusal (code : AdmissionRefusalCode) (request : AdmissionRequest) (parsed : Option Url)
    (ruleId : Option JsString) : AdmissionDecision :=
  .refused {
    schemaVersion := semanticAdmissionSchema
    code := code
    environment := request.environment
    origin := (parsed.map (·.origin)).getD "unparseable:".toList
    method := normalizeMethod rt request.method
    ruleId := ruleId
    attribution := attributionLabel request.attribution
    transport := request.transport }

def pathOf (url : Url) : JsString := decodeURIComponentSafe url.pathname

def provenTemplate (rule : EndpointSemanticRule) : JsString :=
  rule.path.getD ((safeRuleMarker rule.id).getD "<UNKNOWN_ROUTE>".toList)

def pathFamily (bindings : List AdmissionRuleBinding) (url : Url) : List AdmissionRuleBinding :=
  bindings.filter fun binding =>
    ruleHostMatches rt url binding.rule.host && rulePathMatches rt binding.rule (pathOf url)

def sameMethod (request : AdmissionRequest) (binding : AdmissionRuleBinding) : Bool :=
  normalizeMethod rt binding.rule.method = normalizeMethod rt request.method

def bootstrapRequest (request : AdmissionRequest) : BootstrapRequest where
  method := normalizeMethod rt request.method
  url := request.url
  environment := request.environment

def bootstrapRefusalCode : BootstrapRefusalCode → AdmissionRefusalCode
  | .mismatch => .bootstrapMismatch
  | .exhausted => .bootstrapExhausted
  | .stale => .bootstrapStale
  | .unregistered => .bootstrapUnregistered

def refuseTwin (request : AdmissionRequest) (url : Url) (twin : AdmissionRuleBinding)
    (family : List AdmissionRuleBinding) : AdmissionDecision :=
  if family.any fun candidate => candidate.rule.classification = .knownMutation then
    refusal rt .mutation request (some url) (some twin.rule.id)
  else refusal rt .methodMismatch request (some url) (some twin.rule.id)

variable {rt}

def exemptHandle (request : AdmissionRequest) (snapshot : AdmissionSnapshot rt) (url : Url)
    (exemptionId navigationGeneration routeTemplate sourceProof : JsString) : AdmissionHandle where
  schemaVersion := semanticAdmissionSchema
  environment := snapshot.environment
  origin := url.origin
  method := normalizeMethod rt request.method
  routeTemplate := routeTemplate
  ruleId := exemptionId
  classification := .bootstrapExemptRead
  sourceProof := sourceProof
  sourceSnapshot := "CURRENT".toList
  generationId := navigationGeneration
  transport := request.transport

def provenHandle (request : AdmissionRequest) (snapshot : AdmissionSnapshot rt) (url : Url)
    (id : JsString) (binding : AdmissionRuleBinding) : AdmissionHandle where
  schemaVersion := semanticAdmissionSchema
  environment := snapshot.environment
  origin := url.origin
  method := normalizeMethod rt request.method
  routeTemplate := provenTemplate binding.rule
  ruleId := binding.rule.id
  classification := .provenRead
  sourceProof := binding.sourceProof
  sourceSnapshot := "CURRENT".toList
  generationId := id
  transport := request.transport

/-- No binding covers the path: only an exemption can admit. It is consumed before the generations
are looked at. -/
def admitBootstrap (request : AdmissionRequest) (snapshot : AdmissionSnapshot rt) (url : Url)
    (id : JsString) : AdmissionDecision × BootstrapExemptionTable rt :=
  match snapshot.bootstrap.consume snapshot.navigationGeneration (bootstrapRequest rt request) with
  | (.refused code, table) =>
      (refusal rt (bootstrapRefusalCode code) request (some url) none, table)
  | (.granted exemptionId generation _ routeTemplate _ sourceProof, table) =>
      if !snapshot.isActiveGeneration generation || !snapshot.isActiveGeneration id then
        (refusal rt .generationClosed request (some url) none, table)
      else
        (.admitted (exemptHandle request snapshot url exemptionId generation routeTemplate
          sourceProof), table)

def admitBinding (request : AdmissionRequest) (snapshot : AdmissionSnapshot rt) (url : Url)
    (id : JsString) (binding : AdmissionRuleBinding) : AdmissionDecision :=
  let refuse (code : AdmissionRefusalCode) :=
    refusal rt code request (some url) (some binding.rule.id)
  if binding.rule.classification = .knownMutation then refuse .mutation
  else if binding.rule.classification ≠ .knownRead then refuse .unknown
  else if binding.sourceProof = [] then refuse .missingProof
  else if !binding.sourceCurrent then refuse .staleProof
  else if !snapshot.isActiveGeneration id then refuse .generationClosed
  else .admitted (provenHandle request snapshot url id binding)

/-- The decision on a request of generation `id` for a parsed address. -/
def admitRoute (request : AdmissionRequest) (snapshot : AdmissionSnapshot rt) (url : Url)
    (id : JsString) : AdmissionDecision × BootstrapExemptionTable rt :=
  let family := pathFamily rt snapshot.bindings url
  match family.find? (sameMethod rt request) with
  | some binding => (admitBinding request snapshot url id binding, snapshot.bootstrap)
  | none =>
      match family with
      | twin :: _ => (refuseTwin rt request url twin family, snapshot.bootstrap)
      | [] => admitBootstrap request snapshot url id

def evaluateAdmission (request : AdmissionRequest) (snapshot : AdmissionSnapshot rt) :
    AdmissionDecision × BootstrapExemptionTable rt :=
  match rt.parseUrl request.url with
  | none => (refusal rt .unparseable request none none, snapshot.bootstrap)
  | some url =>
      if request.environment ≠ snapshot.environment then
        (refusal rt .environmentMismatch request (some url) none, snapshot.bootstrap)
      else
        match request.attribution with
        | .none => (refusal rt .unboundGeneration request (some url) none, snapshot.bootstrap)
        | .ambiguous _ => (refusal rt .ambiguous request (some url) none, snapshot.bootstrap)
        | .generation id => admitRoute request snapshot url id

def transportDisagreement (rt : Runtime) (handle : AdmissionHandle) (request : AdmissionRequest) :
    AdmissionDecision :=
  refusal rt .transportDisagreement request (rt.parseUrl request.url) (some handle.ruleId)

def agrees (fresh handle : AdmissionHandle) : Bool :=
  fresh.ruleId = handle.ruleId && fresh.generationId = handle.generationId &&
    fresh.method = handle.method && fresh.origin = handle.origin &&
    fresh.routeTemplate = handle.routeTemplate && fresh.sourceProof = handle.sourceProof

def consumeAdmission (handle : AdmissionHandle) (request : AdmissionRequest)
    (snapshot : AdmissionSnapshot rt) : AdmissionDecision × BootstrapExemptionTable rt :=
  match evaluateAdmission request snapshot with
  | (.refused refusal, table) =>
      if refusal.code = .unknown ||
          startsWith refusal.code.text "ADMISSION_BOOTSTRAP".toList then
        (transportDisagreement rt handle request, table)
      else (.refused refusal, table)
  | (.admitted fresh, table) =>
      if agrees fresh handle then
        (.admitted { handle with transport := request.transport }, table)
      else (transportDisagreement rt handle request, table)

/-! ## What a decision can be -/

/-- The request comes as far as route resolution, as `url` and under generation `id`. -/
structure Attributed (request : AdmissionRequest) (snapshot : AdmissionSnapshot rt) (url : Url)
    (id : JsString) : Prop where
  parsed : rt.parseUrl request.url = some url
  environment : request.environment = snapshot.environment
  attribution : request.attribution = .generation id

/-- The binding that decides is a current, proven read of an open generation. -/
structure ProvenBy (request : AdmissionRequest) (snapshot : AdmissionSnapshot rt) (url : Url)
    (id : JsString) (binding : AdmissionRuleBinding) : Prop extends
    Attributed request snapshot url id where
  first : (pathFamily rt snapshot.bindings url).find? (sameMethod rt request) = some binding
  read : binding.rule.classification = .knownRead
  proof : binding.sourceProof ≠ []
  current : binding.sourceCurrent = true
  active : snapshot.isActiveGeneration id = true

/-- No binding covers the path, and a unit of `entry` can be drawn. -/
structure ExemptedBy (request : AdmissionRequest) (snapshot : AdmissionSnapshot rt) (url : Url)
    (id generation : JsString) (entry : BootstrapExemption) : Prop extends
    Attributed request snapshot url id where
  uncovered : pathFamily rt snapshot.bindings url = []
  grantable : snapshot.bootstrap.Grantable snapshot.navigationGeneration
    (bootstrapRequest rt request) generation entry

def BothActive (snapshot : AdmissionSnapshot rt) (generation id : JsString) : Prop :=
  snapshot.isActiveGeneration generation = true ∧ snapshot.isActiveGeneration id = true

def entryHandle (request : AdmissionRequest) (snapshot : AdmissionSnapshot rt) (url : Url)
    (generation : JsString) (entry : BootstrapExemption) : AdmissionHandle :=
  exemptHandle request snapshot url entry.id generation
    ((safeRuleMarker entry.id).getD "<UNKNOWN_ROUTE>".toList) entry.sourceProof

section Cases

variable {request : AdmissionRequest} {snapshot : AdmissionSnapshot rt} {url : Url}
  {id generation : JsString} {binding : AdmissionRuleBinding} {entry : BootstrapExemption}

theorem Attributed.evaluate (h : Attributed request snapshot url id) :
    evaluateAdmission request snapshot = admitRoute request snapshot url id := by
  rw [evaluateAdmission, h.parsed]
  simp only [h.environment, ne_eq, not_true_eq_false, if_false, h.attribution]

theorem ProvenBy.evaluate (h : ProvenBy request snapshot url id binding) :
    evaluateAdmission request snapshot =
      (.admitted (provenHandle request snapshot url id binding), snapshot.bootstrap) := by
  rw [h.toAttributed.evaluate]
  simp only [admitRoute, h.first, admitBinding, h.read, h.proof, h.current, h.active,
    reduceCtorEq, if_false, ne_eq, not_true_eq_false, Bool.not_true, Bool.false_eq_true]

theorem Attributed.evaluate_uncovered (h : Attributed request snapshot url id)
    (huncovered : pathFamily rt snapshot.bindings url = []) :
    evaluateAdmission request snapshot = admitBootstrap request snapshot url id := by
  rw [h.evaluate]
  simp only [admitRoute, huncovered, List.find?_nil]

theorem ExemptedBy.evaluate (h : ExemptedBy request snapshot url id generation entry) :
    (BothActive snapshot generation id → evaluateAdmission request snapshot =
      (.admitted (entryHandle request snapshot url generation entry),
        snapshot.bootstrap.spend generation entry.id)) ∧
    (¬ BothActive snapshot generation id → evaluateAdmission request snapshot =
      (refusal rt .generationClosed request (some url) none,
        snapshot.bootstrap.spend generation entry.id)) := by
  rw [h.toAttributed.evaluate_uncovered h.uncovered]
  have hconsume := snapshot.bootstrap.consume_cases snapshot.navigationGeneration
    (bootstrapRequest rt request)
  rcases hconsume with ⟨generation', entry', hgrant, heq⟩ | ⟨hnone, -⟩
  · have hgeneration : generation' = generation :=
      Option.some.inj (hgrant.navigation.symm.trans h.grantable.navigation)
    have hentry : entry' = entry := Except.ok.inj (hgrant.resolved.symm.trans h.grantable.resolved)
    subst hgeneration hentry
    simp only [admitBootstrap, heq]
    constructor
    · rintro ⟨hnavigation, hid⟩
      simp only [hnavigation, hid, Bool.not_true, Bool.or_self, Bool.false_eq_true, if_false,
        entryHandle]
    · intro hclosed
      rw [if_pos]
      simp only [Bool.or_eq_true, Bool.not_eq_true']
      rw [BothActive, not_and_or, Bool.not_eq_true, Bool.not_eq_true] at hclosed
      exact hclosed
  · exact absurd ⟨generation, entry, h.grantable⟩ hnone

/-- Every decision: a proven read, an exempted read, an exemption spent on a refusal,
or a refusal that leaves the table alone. -/
inductive Outcome (request : AdmissionRequest) (snapshot : AdmissionSnapshot rt) :
    AdmissionDecision × BootstrapExemptionTable rt → Prop
  | proven {url : Url} {id : JsString} {binding : AdmissionRuleBinding}
      (h : ProvenBy request snapshot url id binding) : Outcome request snapshot
        (.admitted (provenHandle request snapshot url id binding), snapshot.bootstrap)
  | exempted {url : Url} {id generation : JsString} {entry : BootstrapExemption}
      (h : ExemptedBy request snapshot url id generation entry)
      (hactive : BothActive snapshot generation id) : Outcome request snapshot
        (.admitted (entryHandle request snapshot url generation entry),
          snapshot.bootstrap.spend generation entry.id)
  | burned {url : Url} {id generation : JsString} {entry : BootstrapExemption}
      (h : ExemptedBy request snapshot url id generation entry)
      (hclosed : ¬ BothActive snapshot generation id) : Outcome request snapshot
        (refusal rt .generationClosed request (some url) none,
          snapshot.bootstrap.spend generation entry.id)
  | refused (r : AdmissionRefusal) : Outcome request snapshot (.refused r, snapshot.bootstrap)

theorem outcome_admitBinding (h : Attributed request snapshot url id)
    (hfirst : (pathFamily rt snapshot.bindings url).find? (sameMethod rt request) = some binding) :
    Outcome request snapshot (admitBinding request snapshot url id binding, snapshot.bootstrap) := by
  simp only [admitBinding]
  split
  · exact .refused _
  · split
    · exact .refused _
    · rename_i hread
      split
      · exact .refused _
      · rename_i hproof
        split
        · exact .refused _
        · rename_i hcurrent
          split
          · exact .refused _
          · rename_i hactive
            exact .proven ⟨h, hfirst, not_not.mp hread, hproof, by simpa using hcurrent,
              by simpa using hactive⟩

theorem outcome_admitBootstrap (h : Attributed request snapshot url id)
    (huncovered : pathFamily rt snapshot.bindings url = []) :
    Outcome request snapshot (evaluateAdmission request snapshot) := by
  rcases snapshot.bootstrap.consume_cases snapshot.navigationGeneration
    (bootstrapRequest rt request) with ⟨generation, entry, hgrant, -⟩ | ⟨-, code, heq⟩
  · have hexempted : ExemptedBy request snapshot url id generation entry := ⟨h, huncovered, hgrant⟩
    rcases Classical.em (BothActive snapshot generation id) with hactive | hclosed
    · rw [hexempted.evaluate.1 hactive]
      exact .exempted hexempted hactive
    · rw [hexempted.evaluate.2 hclosed]
      exact .burned hexempted hclosed
  · rw [h.evaluate_uncovered huncovered]
    simp only [admitBootstrap, heq]
    exact .refused _

theorem outcome (request : AdmissionRequest) (snapshot : AdmissionSnapshot rt) :
    Outcome request snapshot (evaluateAdmission request snapshot) := by
  cases hparse : rt.parseUrl request.url with
  | none =>
      rw [evaluateAdmission, hparse]
      exact .refused _
  | some url =>
      rcases eq_or_ne request.environment snapshot.environment with henvironment | henvironment
      · cases hattribution : request.attribution with
        | none =>
            simp only [evaluateAdmission, hparse, henvironment, ne_eq, not_true_eq_false, if_false,
              hattribution]
            exact .refused _
        | ambiguous candidates =>
            simp only [evaluateAdmission, hparse, henvironment, ne_eq, not_true_eq_false, if_false,
              hattribution]
            exact .refused _
        | generation id =>
            have h : Attributed request snapshot url id := ⟨hparse, henvironment, hattribution⟩
            cases hfirst : (pathFamily rt snapshot.bindings url).find? (sameMethod rt request) with
            | some binding =>
                rw [h.evaluate]
                simp only [admitRoute, hfirst]
                exact outcome_admitBinding h hfirst
            | none =>
                cases hfamily : pathFamily rt snapshot.bindings url with
                | nil => exact outcome_admitBootstrap h hfamily
                | cons twin rest =>
                    rw [hfamily] at hfirst
                    rw [h.evaluate]
                    simp only [admitRoute, hfamily, hfirst, refuseTwin]
                    split
                    · exact .refused _
                    · exact .refused _
      · rw [evaluateAdmission, hparse]
        simp only [henvironment, ne_eq, not_false_eq_true, if_true]
        exact .refused _

end Cases

end NightWatch.Safety.SemanticAdmission
