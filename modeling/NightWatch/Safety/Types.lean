import NightWatch.Lib.JsText

namespace NightWatch.Safety.Types

open Lib.JsText

inductive HostClass where
  | production
  | dev
  | next
  | localHost
  | unknownAlphaus
  | external
  | static
  | telemetry
  | optionalThirdPartySupport
  | browserBackgroundGoogle
  | browserBackgroundUpdate
  | browserBackgroundDownload
  | internal

inductive SemanticClassification where
  | expected
  | telemetry
  | browserBackgroundGoogle
  | browserBackgroundUpdate
  | browserBackgroundDownload
  | optionalThirdPartySupport
  | unknown
  | productionDenied
  deriving DecidableEq

inductive BrowserBackgroundClassification where
  | google
  | update
  | download

inductive Verdict where
  | allow
  | deny
  | blockTelemetry
  | blockOptionalSupport
  | blockBrowserBackground
  deriving DecidableEq

def HostClass.text : HostClass → JsString
  | production => "production".toList
  | dev => "dev".toList
  | next => "next".toList
  | localHost => "local".toList
  | unknownAlphaus => "unknown-alphaus".toList
  | external => "external".toList
  | static => "static".toList
  | telemetry => "telemetry".toList
  | optionalThirdPartySupport => "optional-third-party-support".toList
  | browserBackgroundGoogle => "browser-background-google".toList
  | browserBackgroundUpdate => "browser-background-update".toList
  | browserBackgroundDownload => "browser-background-download".toList
  | internal => "internal".toList

def SemanticClassification.text : SemanticClassification → JsString
  | expected => "EXPECTED".toList
  | telemetry => "TELEMETRY".toList
  | browserBackgroundGoogle => "BROWSER_BACKGROUND_GOOGLE".toList
  | browserBackgroundUpdate => "BROWSER_BACKGROUND_UPDATE".toList
  | browserBackgroundDownload => "BROWSER_BACKGROUND_DOWNLOAD".toList
  | optionalThirdPartySupport => "OPTIONAL_THIRD_PARTY_SUPPORT".toList
  | unknown => "UNKNOWN".toList
  | productionDenied => "PRODUCTION_DENIED".toList

def Verdict.text : Verdict → JsString
  | allow => "allow".toList
  | deny => "deny".toList
  | blockTelemetry => "block-telemetry".toList
  | blockOptionalSupport => "block-optional-support".toList
  | blockBrowserBackground => "block-browser-background".toList

def BrowserBackgroundClassification.semantic :
    BrowserBackgroundClassification → SemanticClassification
  | google => .browserBackgroundGoogle
  | update => .browserBackgroundUpdate
  | download => .browserBackgroundDownload

/-- `isBrowserBackgroundClassification`, returning the member it recognizes. -/
def browserBackgroundClassification (s : JsString) : Option BrowserBackgroundClassification :=
  if s = "BROWSER_BACKGROUND_GOOGLE".toList then some .google
  else if s = "BROWSER_BACKGROUND_UPDATE".toList then some .update
  else if s = "BROWSER_BACKGROUND_DOWNLOAD".toList then some .download
  else none

def browserBackgroundHostClass : BrowserBackgroundClassification → HostClass
  | .google => .browserBackgroundGoogle
  | .update => .browserBackgroundUpdate
  | .download => .browserBackgroundDownload

def semanticClassificationForHostClass : HostClass → SemanticClassification
  | .production => .productionDenied
  | .telemetry => .telemetry
  | .optionalThirdPartySupport => .optionalThirdPartySupport
  | .browserBackgroundGoogle => .browserBackgroundGoogle
  | .browserBackgroundUpdate => .browserBackgroundUpdate
  | .browserBackgroundDownload => .browserBackgroundDownload
  | .dev | .next | .localHost | .static | .internal => .expected
  | .unknownAlphaus | .external => .unknown

structure BrowserBackgroundHostConfig where
  host : JsString
  classification : BrowserBackgroundClassification

structure OutboundDecision where
  verdict : Verdict
  hostClass : HostClass
  classification : SemanticClassification
  host : JsString
  reason : JsString

end NightWatch.Safety.Types
