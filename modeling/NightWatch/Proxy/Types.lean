import NightWatch.Lib.JsText

namespace NightWatch.Proxy.Types

open Lib.JsText

inductive ProxyProtocol where
  | http
  | httpsConnect
  | ws
  | wss
  deriving DecidableEq

inductive ProxyResolutionOutcome where
  | notAttempted
  | admitted
  | denied
  | failed
  deriving DecidableEq

inductive ProxyConnectionOutcome where
  | notAttempted
  | attempted
  | connected
  | failed
  deriving DecidableEq

inductive ProxyContainmentViolation where
  | resolvedAddressPolicyDenied
  | resolutionFailed
  | exactAddressBindingFailed

inductive ProxyConnectionFailureReason where
  | connectionRefused
  | connectionTimeout
  | clientAborted
  | transportFailure
  | proxyShutdown

inductive EffectPhase where
  | prepared
  | terminal

def ProxyProtocol.text : ProxyProtocol → JsString
  | http => "http".toList
  | httpsConnect => "https-connect".toList
  | ws => "ws".toList
  | wss => "wss".toList

def ProxyResolutionOutcome.text : ProxyResolutionOutcome → JsString
  | notAttempted => "not-attempted".toList
  | admitted => "admitted".toList
  | denied => "denied".toList
  | failed => "failed".toList

def ProxyConnectionOutcome.text : ProxyConnectionOutcome → JsString
  | notAttempted => "not-attempted".toList
  | attempted => "attempted".toList
  | connected => "connected".toList
  | failed => "failed".toList

def ProxyContainmentViolation.text : ProxyContainmentViolation → JsString
  | resolvedAddressPolicyDenied => "RESOLVED_ADDRESS_POLICY_DENIED".toList
  | resolutionFailed => "RESOLUTION_FAILED".toList
  | exactAddressBindingFailed => "EXACT_ADDRESS_BINDING_FAILED".toList

def ProxyConnectionFailureReason.text : ProxyConnectionFailureReason → JsString
  | connectionRefused => "CONNECTION_REFUSED".toList
  | connectionTimeout => "CONNECTION_TIMEOUT".toList
  | clientAborted => "CLIENT_ABORTED".toList
  | transportFailure => "TRANSPORT_FAILURE".toList
  | proxyShutdown => "PROXY_SHUTDOWN".toList

def EffectPhase.text : EffectPhase → JsString
  | prepared => "PREPARED".toList
  | terminal => "TERMINAL".toList

inductive AddressBindingVersion where
  | exactAddress

def AddressBindingVersion.text : AddressBindingVersion → JsString
  | exactAddress => "phase-1.2-exact-address-binding-v1".toList

end NightWatch.Proxy.Types
