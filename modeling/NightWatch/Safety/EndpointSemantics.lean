import NightWatch.Environment.Config

namespace NightWatch.Safety.EndpointSemantics

open Lib.JsText Lib.JsRuntime Lib.WebUrl Environment.Config

inductive EndpointSemanticClassification where
  | knownRead
  | knownMutation
  | unknown
  deriving DecidableEq

structure EndpointSemanticRule where
  id : JsString
  host : JsString
  method : JsString
  path : Option JsString
  pathPattern : Option JsString
  classification : EndpointSemanticClassification
  provenance : JsString

structure EndpointSemanticMatch where
  ruleId : JsString
  classification : EndpointSemanticClassification

def portText (url : Url) : JsString :=
  match url.port with
  | some port => decimal port
  | none => if url.protocol = "https:".toList then "443".toList else "80".toList

def hostMatches (rt : Runtime) (url : Url) (configuredHost : JsString) : Bool :=
  let normalized := rt.toLowerCase configuredHost
  let hostname := rt.toLowerCase url.hostname
  let configured := if ':' ∈ normalized then normalized else normalized ++ ':' :: portText url
  configured = hostname ++ ':' :: portText url || normalized = hostname

def isApiHost (rt : Runtime) (url : Url) (env : EnvironmentConfig) : Bool :=
  (env.apiHosts.getD []).any (hostMatches rt url)

def patternMatches (rt : Runtime) (pattern pathname : JsString) : Bool :=
  startsWith pattern "^".toList && endsWith pattern "$".toList &&
    (rt.regExp pattern).any fun test => test pathname

def pathMatches (rt : Runtime) (candidate : EndpointSemanticRule) (pathname : JsString) : Bool :=
  candidate.path = some pathname ||
    candidate.pathPattern.any fun pattern => patternMatches rt pattern pathname

def ruleHostMatches (rt : Runtime) (url : Url) (configuredHost : JsString) : Bool :=
  hostMatches rt url configuredHost

def rulePathMatches (rt : Runtime) (rule : EndpointSemanticRule) (pathname : JsString) : Bool :=
  pathMatches rt rule pathname

/-- The guard of `matchRippleEndpoint`'s search: raw pathname, untrimmed method. -/
def candidateMatches (rt : Runtime) (url : Url) (method : JsString)
    (candidate : EndpointSemanticRule) : Bool :=
  hostMatches rt url candidate.host &&
    rt.toUpperCase candidate.method = rt.toUpperCase method &&
    pathMatches rt candidate url.pathname

def matchRippleEndpoint (rt : Runtime) (rawUrl method : JsString) (env : EnvironmentConfig)
    (registry : List EndpointSemanticRule := []) : Option EndpointSemanticMatch :=
  match rt.parseUrl rawUrl with
  | none => some ⟨"invalid-url".toList, .unknown⟩
  | some url =>
      if !isApiHost rt url env then none
      else
        match registry.find? (candidateMatches rt url method) with
        | none => some ⟨"unreviewed-api-endpoint".toList, .unknown⟩
        | some rule => some ⟨rule.id, rule.classification⟩

def isApiUrl (rt : Runtime) (rawUrl : JsString) (env : EnvironmentConfig) : Bool :=
  match rt.parseUrl rawUrl with
  | none => true
  | some url => isApiHost rt url env

def classifyRippleEndpoint (rt : Runtime) (rawUrl method : JsString) (env : EnvironmentConfig)
    (registry : List EndpointSemanticRule := []) : Option EndpointSemanticClassification :=
  match matchRippleEndpoint rt rawUrl method env registry with
  | some found => some found.classification
  | none => if isApiUrl rt rawUrl env then some .unknown else none

def isSafeRuleIdChar (c : Char) : Bool :=
  c.isAlphanum || c = '.' || c = '_' || c = ':' || c = '-'

/-- `safeRuleMarker` of the proven-route table. -/
def safeRuleMarker (ruleId : JsString) : Option JsString :=
  if upTo 120 isSafeRuleIdChar ruleId && ruleId.head?.any Char.isAlphanum then
    some ("<RULE:".toList ++ ruleId ++ ">".toList)
  else none

theorem isApiHost_of_hostMatches {rt : Runtime} {url : Url} {env : EnvironmentConfig}
    {host : JsString} (hlisted : host ∈ env.apiHosts.getD [])
    (hhost : hostMatches rt url host = true) : isApiHost rt url env = true :=
  List.any_eq_true.mpr ⟨host, hlisted, hhost⟩

end NightWatch.Safety.EndpointSemantics
