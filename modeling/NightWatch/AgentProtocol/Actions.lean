import NightWatch.AgentProtocol.Vocabulary

namespace NightWatch.AgentProtocol.Actions

open Lib.JsText AgentProtocol.Vocabulary

structure AgentActionRecord where
  turnId : JsString
  phase : AgentPhase
  intentKind : JsString
  toolId : Option JsString
  argumentDigest : Option JsString
  resultClass : JsString
  evidenceRefs : List JsString
  target : Option JsString
  salient : Option (List JsString)
  disposition : Option ActionFailureDisposition

structure ActionKey where
  intentKind : JsString
  toolId : Option JsString
  argumentDigest : Option JsString

def AgentActionRecord.key (record : AgentActionRecord) : ActionKey :=
  ⟨record.intentKind, record.toolId, record.argumentDigest⟩

def actionFingerprint (key : ActionKey) : JsString :=
  key.intentKind ++ '|' :: key.toolId.getD [] ++ '|' :: key.argumentDigest.getD []

def noProgressRepeatLimit : Nat := 3

def streak (history : List AgentActionRecord) (fingerprint : JsString) : Nat :=
  (history.reverse.takeWhile fun record => actionFingerprint record.key == fingerprint).length

def detectRepeatedAction (history : List AgentActionRecord) (next : ActionKey) : Bool :=
  noProgressRepeatLimit ≤ streak history (actionFingerprint next)

def transientActionRetryBudget : Nat := 2

def toolError : JsString := "TOOL_ERROR".toList

def dedupedRepeat : JsString := "DEDUPED_REPEAT".toList

/-- The loop of `detectExhaustedAction`, with the transient failures found so far. -/
def exhaustedFrom (fingerprint : JsString) : Nat → List AgentActionRecord → Bool
  | _, [] => false
  | transientFailures, record :: rest =>
      if actionFingerprint record.key = fingerprint then
        if record.resultClass = dedupedRepeat then true
        else if record.resultClass = toolError then
          match record.disposition.getD .deterministicTerminal with
          | .deterministicTerminal => true
          | .environmentBlocked => true
          | .transientRetryable =>
              if transientActionRetryBudget ≤ transientFailures + 1 then true
              else exhaustedFrom fingerprint (transientFailures + 1) rest
        else exhaustedFrom fingerprint transientFailures rest
      else exhaustedFrom fingerprint transientFailures rest

def detectExhaustedAction (history : List AgentActionRecord) (next : ActionKey) : Bool :=
  exhaustedFrom (actionFingerprint next) 0 history

def noProgressWindow : Nat := 6

def candidateProposed : JsString := "CANDIDATE_PROPOSED".toList

def candidateRejected : JsString := "CANDIDATE_REJECTED".toList

def producedEvidence (record : AgentActionRecord) : Bool :=
  !record.evidenceRefs.isEmpty || record.resultClass == candidateProposed ||
    record.resultClass == candidateRejected

def detectNoProgress (history : List AgentActionRecord) : Bool :=
  if history.length < noProgressWindow then false
  else
    let window := history.drop (history.length - noProgressWindow)
    if window.any producedEvidence then false
    else
      match window with
      | [] => true
      | first :: _ => window.all fun record =>
          actionFingerprint record.key == actionFingerprint first.key

end NightWatch.AgentProtocol.Actions
