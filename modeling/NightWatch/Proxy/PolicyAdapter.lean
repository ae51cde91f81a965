import NightWatch.Proxy.Types
import NightWatch.Safety.OutboundPolicy

namespace NightWatch.Proxy.PolicyAdapter

open Lib.JsText Lib.JsRuntime Lib.WebUrl Safety.Types Safety.OutboundPolicy Environment.Config
  Proxy.Types

structure ProxyTarget where
  url : Url
  protocol : ProxyProtocol
  hostname : JsString
  port : Nat
  path : JsString

structure ProxyClassification where
  target : Option ProxyTarget
  decision : OutboundDecision
  ruleId : JsString

def ruleId (decision : OutboundDecision) : JsString :=
  if includes decision.reason "unparsable".toList then "parse-failure".toList
  else if includes decision.reason "embedded credentials".toList then
    "embedded-credentials".toList
  else if includes decision.reason "allowlisted".toList then "environment-allowlist".toList
  else if includes decision.reason "static asset".toList then "static-assets".toList
  else if decision.classification = .browserBackgroundGoogle then
    "browser-background-google".toList
  else if decision.classification = .browserBackgroundUpdate then
    "browser-background-update".toList
  else if decision.classification = .browserBackgroundDownload then
    "browser-background-download".toList
  else if includes decision.reason "optional third-party support".toList then
    "optional-third-party-support".toList
  else if includes decision.reason "telemetry".toList then "telemetry".toList
  else if includes decision.reason "known Alphaus production".toList then
    "known-production".toList
  else if includes decision.reason "Cloud Run".toList then "cloud-run-production".toList
  else if includes decision.reason "unknown Alphaus".toList then "unknown-alphaus".toList
  else if includes decision.reason "legacy Alphaus".toList then "legacy-alphaus".toList
  else if includes decision.reason "localhost".toList then "localhost".toList
  else "external-default-deny".toList

def reject (rt : Runtime) (env : EnvironmentConfig) : ProxyClassification where
  target := none
  decision := Safety.OutboundPolicy.decide rt env "not a valid Nightwatch URL".toList
  ruleId := "parse-failure".toList

def portFor (url : Url) (protocol : JsString) : Nat :=
  match url.port with
  | some port => port
  | none => if protocol = "http:".toList || protocol = "ws:".toList then 80 else 443

def orSlash (pathname : JsString) : JsString := if pathname = [] then ['/'] else pathname

def makeTarget (rt : Runtime) (url : Url) (protocol : ProxyProtocol) : ProxyTarget where
  url := url
  protocol := protocol
  hostname := stripBrackets (rt.toLowerCase url.hostname)
  port := portFor url url.protocol
  path := orSlash url.pathname ++ url.search

def expectedProtocol : Option ProxyProtocol → Option JsString
  | some .http => some "http:".toList
  | some .ws => some "ws:".toList
  | _ => none

def protocolOf (protocol : JsString) : ProxyProtocol :=
  if protocol = "http:".toList then .http
  else if protocol = "https:".toList then .httpsConnect
  else if protocol = "ws:".toList then .ws
  else .wss

def classifyProxyUrl (rt : Runtime) (env : EnvironmentConfig) (rawUrl : JsString)
    (protocolHint : Option ProxyProtocol := none) : ProxyClassification :=
  match rt.parseUrl rawUrl with
  | none => reject rt env
  | some url =>
      let protocol := rt.toLowerCase url.protocol
      if url.username ≠ [] || url.password ≠ [] then reject rt env
      else if (expectedProtocol protocolHint).any (· ≠ protocol) then reject rt env
      else if !networkProtocols.contains protocol then reject rt env
      else if portFor url protocol < 1 || 65535 < portFor url protocol then reject rt env
      else
        let decision := Safety.OutboundPolicy.decide rt env rawUrl
        { target := some (makeTarget rt url (protocolOf protocol))
          decision := decision
          ruleId := ruleId decision }

inductive ConnectScheme where
  | https
  | wss

def ConnectScheme.text : ConnectScheme → JsString
  | https => "https".toList
  | wss => "wss".toList

/-- The host and port of `[host]:port` or `host:port`. -/
def authorityMatch (authority : JsString) : Option (JsString × JsString) :=
  let parts :=
    match authority with
    | '[' :: rest =>
        match splitFirst ']' rest with
        | some (host, ':' :: port) => some (host, port)
        | _ => none
    | _ => splitFirst ':' authority
  match parts with
  | some (host, port) => if host ≠ [] && allOf Char.isDigit port then some (host, port) else none
  | none => none

def forbiddenInAuthority (c : Char) : Bool := "\\/@?#".toList.contains c || isSpace c

def classifyProxyConnect (rt : Runtime) (env : EnvironmentConfig) (authority : JsString)
    (protocol : ConnectScheme := .https) : ProxyClassification :=
  if authority = [] || trim authority ≠ authority || authority.any forbiddenInAuthority then
    reject rt env
  else
    match authorityMatch authority with
    | none => reject rt env
    | some (host, portText) =>
        let explicitPort := decimalValue portText
        if endsWith host ".".toList then reject rt env
        else if explicitPort < 1 || 65535 < explicitPort then reject rt env
        else
          match rt.parseUrl (protocol.text ++ "://".toList ++ (authority ++ "/".toList)) with
          | none => reject rt env
          | some url =>
              if url.username ≠ [] || url.password ≠ [] || url.pathname ≠ "/".toList ||
                  url.search ≠ [] || url.hash ≠ [] then reject rt env
              else
                let decision := Safety.OutboundPolicy.decide rt env (protocol.text ++ "://".toList ++
                  url.hostname ++ ':' :: decimal explicitPort ++ "/".toList)
                { target := some {
                    url := url
                    protocol := match protocol with
                      | .wss => .wss
                      | .https => .httpsConnect
                    hostname := stripBrackets (rt.toLowerCase url.hostname)
                    port := explicitPort
                    path := "/".toList }
                  decision := decision
                  ruleId := ruleId decision }

def classifyForwardRequest (rt : Runtime) (env : EnvironmentConfig)
    (rawUrl hostHeader : Option JsString) : ProxyClassification :=
  match rawUrl.getD [] with
  | [] => reject rt env
  | '/' :: rest =>
      let host := hostHeader.getD []
      if host = [] || trim host ≠ host then reject rt env
      else classifyProxyUrl rt env ("http://".toList ++ host ++ '/' :: rest) (some .http)
  | absolute => classifyProxyUrl rt env absolute (some .http)

end NightWatch.Proxy.PolicyAdapter
