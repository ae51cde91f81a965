import NightWatch.Environment.Config

namespace NightWatch.Safety.OutboundPolicy

open Lib.JsText Lib.JsRuntime Lib.WebUrl Safety.Hosts Safety.Types Environment.Config

def deny (host : JsString) (hostClass : HostClass) (reason : JsString) : OutboundDecision where
  verdict := .deny
  hostClass := hostClass
  classification := semanticClassificationForHostClass hostClass
  host := host
  reason := reason

def isSchemeChar (c : Char) : Bool :=
  c.isAlphanum || c = '+' || c = '.' || c = '-'

/-- The authority text of `/^[a-z][a-z0-9+.-]*:\/\/([^\/?#]*)/i`. -/
def rawAuthority (rawUrl : JsString) : Option JsString :=
  match splitFirst ':' rawUrl with
  | some (scheme, '/' :: '/' :: rest) =>
      if scheme.head?.any Char.isAlpha && scheme.all isSchemeChar then
        some (rest.takeWhile fun c => c ≠ '/' && c ≠ '?' && c ≠ '#')
      else none
  | _ => none

def hasUnsupportedTrailingDot (rawUrl : JsString) : Bool :=
  match rawAuthority rawUrl with
  | none => false
  | some authority =>
      if startsWith authority "[".toList then false
      else endsWith (stripPort authority) ".".toList

def isNetworkUrl (rt : Runtime) (rawUrl : JsString) : Bool :=
  (rt.parseUrl rawUrl).any fun url => networkProtocols.contains url.protocol

/-- A `*.` entry matches by suffix; any other entry is the hostname or the key of
hostname and explicit port. -/
def entryMatches (rt : Runtime) (hostname hostPortKey entry : JsString) : Bool :=
  let e := rt.toLowerCase entry
  if startsWith e "*.".toList then endsWith hostname (e.drop 1)
  else e = hostname || e = hostPortKey

def hostPortKey (hostname : JsString) : Option Nat → JsString
  | some port => hostname ++ ':' :: decimal port
  | none => hostname

def listMatches (rt : Runtime) (hostname key : JsString) (entries : List JsString) : Bool :=
  entries.any (entryMatches rt hostname key)

def browserBackground (rt : Runtime) (env : EnvironmentConfig) (hostname : JsString) :
    Option BrowserBackgroundHostConfig :=
  (env.browserBackgroundHosts.getD []).find? fun entry =>
    rt.toLowerCase entry.host = hostname && '*' ∉ entry.host

def decideUnlisted (rt : Runtime) (hostname : JsString) : OutboundDecision :=
  if isKnownProductionHost rt hostname then
    deny hostname .production "known Alphaus production host".toList
  else if isCloudRunHost hostname then
    deny hostname .production "GCP Cloud Run host (production-class)".toList
  else if hostname = "alphaus.cloud".toList || endsWith hostname ".alphaus.cloud".toList then
    deny hostname .unknownAlphaus "unknown Alphaus host — fail closed".toList
  else if hostname = "mobingi.com".toList || endsWith hostname ".mobingi.com".toList then
    deny hostname .production "legacy Alphaus domain".toList
  else if localHosts.contains hostname then
    deny hostname .localHost "localhost not allowed in this environment allowlist".toList
  else deny hostname .external "unexpected external host".toList

def decideByLists (rt : Runtime) (env : EnvironmentConfig) (hostname key : JsString) :
    OutboundDecision :=
  if listMatches rt hostname key env.allowedHosts then
    { verdict := .allow
      hostClass := match env.name with
        | .localEnv => .localHost
        | .dev => .dev
        | .next => .next
      classification := .expected
      host := hostname
      reason := "allowlisted host for ".toList ++ env.name.text ++ " environment".toList }
  else if listMatches rt hostname key env.staticAssetHosts then
    { verdict := .allow
      hostClass := .static
      classification := .expected
      host := hostname
      reason := "classified static asset host".toList }
  else if listMatches rt hostname key (env.optionalThirdPartySupportHosts.getD []) then
    { verdict := .blockOptionalSupport
      hostClass := .optionalThirdPartySupport
      classification := .optionalThirdPartySupport
      host := hostname
      reason := "optional third-party support widget — blocked, not failed".toList }
  else if listMatches rt hostname key env.telemetryHosts then
    { verdict := .blockTelemetry
      hostClass := .telemetry
      classification := .telemetry
      host := hostname
      reason := "telemetry host — blocked, not failed".toList }
  else decideUnlisted rt hostname

def decideParsed (rt : Runtime) (env : EnvironmentConfig) (rawUrl : JsString) (url : Url) :
    OutboundDecision :=
  if url.username ≠ [] || url.password ≠ [] then
    deny [] .external "embedded credentials in URL".toList
  else if hasUnsupportedTrailingDot rawUrl then
    deny [] .external "trailing-dot hostname unsupported".toList
  else
    let hostname := rt.toLowerCase url.hostname
    let key := hostPortKey hostname url.port
    if !networkProtocols.contains url.protocol then
      { verdict := .allow
        hostClass := .internal
        classification := .expected
        host := hostname
        reason := "non-network scheme".toList }
    else
      match browserBackground rt env hostname with
      | some entry =>
          { verdict := .blockBrowserBackground
            hostClass := browserBackgroundHostClass entry.classification
            classification := entry.classification.semantic
            host := hostname
            reason := entry.classification.semantic.text ++ " host — blocked, not failed".toList }
      | none => decideByLists rt env hostname key

/-- `OutboundPolicy.decide` of the policy bound to `env`. -/
def decide (rt : Runtime) (env : EnvironmentConfig) (rawUrl : JsString) : OutboundDecision :=
  match rt.parseUrl rawUrl with
  | none => deny [] .external "unparsable URL".toList
  | some url => decideParsed rt env rawUrl url

end NightWatch.Safety.OutboundPolicy
