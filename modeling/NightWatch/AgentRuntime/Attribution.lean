import NightWatch.AgentProtocol.Actions

namespace NightWatch.AgentRuntime.Attribution

open Lib.JsText AgentProtocol.Actions

inductive ProviderTerminationClass where
  | validProviderRun
  | providerBlockedBeforeSourceAction
  | providerDegraded
  deriving DecidableEq

def callToolKind : JsString := "CALL_TOOL".toList

def reasonerCallKind : JsString := "REASONER_CALL".toList

def driverThrowClass : JsString := "DRIVER_THROW".toList

def failureClassStart : JsString := "REASONER_".toList

/-- `/^[A-Z][A-Z0-9_]{0,63}$/`. -/
def isClassKey (key : JsString) : Bool :=
  key.head?.any Char.isUpper && key.length ≤ 64 &&
    key.tail.all fun c => c.isUpper || c.isDigit || c == '_'

def failureClassOf (record : AgentActionRecord) : Option JsString :=
  if record.intentKind = reasonerCallKind then
    if record.resultClass = driverThrowClass then some driverThrowClass
    else if startsWith record.resultClass failureClassStart then
      (some (record.resultClass.drop failureClassStart.length)).filter isClassKey
    else none
  else none

structure ProviderFailureAttribution where
  totalCalls : Nat
  failures : Nat
  completedCalls : Nat
  sourceActions : Nat
  byClass : JsString → Nat
  terminationClass : ProviderTerminationClass

def attributedFailures (reasonerCalls providerFailures : Nat) : Nat :=
  min providerFailures reasonerCalls

def countSourceActions (actionLog : List AgentActionRecord) : Nat :=
  (actionLog.filter fun record => record.intentKind = callToolKind).length

def terminationClassOf (totalCalls failures sourceActions : Nat) : ProviderTerminationClass :=
  if failures = 0 then .validProviderRun
  else if sourceActions = 0 ∧ totalCalls = failures then .providerBlockedBeforeSourceAction
  else .providerDegraded

/-- The tally by class is sorted by name when it is written; here it is a function of the
class. -/
def attributeProviderFailures (actionLog : List AgentActionRecord)
    (reasonerCalls providerFailures : Nat) : ProviderFailureAttribution :=
  let failures := attributedFailures reasonerCalls providerFailures
  let sourceActions := countSourceActions actionLog
  { totalCalls := reasonerCalls
    failures := failures
    completedCalls := reasonerCalls - failures
    sourceActions := sourceActions
    byClass := fun failureClass => (actionLog.filterMap failureClassOf).count failureClass
    terminationClass := terminationClassOf reasonerCalls failures sourceActions }

end NightWatch.AgentRuntime.Attribution
