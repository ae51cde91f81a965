import NightWatch.AgentRuntime.State

namespace NightWatch.WorkingMemory.Ledger

open Lib.JsText Lib.JsData AgentProtocol.Vocabulary AgentProtocol.Actions AgentProtocol.Validate

/-- `slice(0, max)` in code units. -/
def cutUnits : Nat → JsString → JsString
  | _, [] => []
  | max, c :: rest =>
      if utf16Length [c] ≤ max then c :: cutUnits (max - utf16Length [c]) rest else []

def trimmed (max : Nat) (s : JsString) : JsString := if max < utf16Length s then cutUnits max s else s

def boundedString (value : Option JsString) (max : Nat) : Option JsString :=
  value.bind fun s =>
    if s = [] then none else if hasSecret (trimmed max s) then none else some (trimmed max s)

def boundedListFrom (max charCap : Nat) : List JsString → List JsString → List JsString
  | out, [] => out
  | out, value :: rest =>
      if max ≤ out.length then out
      else
        match boundedString (some value) charCap with
        | none => boundedListFrom max charCap out rest
        | some bounded =>
            if bounded ∈ out then boundedListFrom max charCap out rest
            else boundedListFrom max charCap (out ++ [bounded]) rest

def boundedList (values : List JsString) (max charCap : Nat) : List JsString :=
  boundedListFrom max charCap [] values

/-- `if (!out.includes(value)) out.push(value)`. -/
def pushNew (out : List JsString) (value : JsString) : List JsString :=
  if value ∈ out then out else out ++ [value]

def targetChars : Nat := 200

def salientPerTarget : Nat := 4

def salientChars : Nat := 64

def evidenceRefChars : Nat := 512

structure TargetLedgerEntry where
  target : JsString
  evidenceRef : Option JsString
  timesInspected : Nat
  salient : List JsString
  reproductionAttempts : Nat
  lastResultClass : JsString
  reproducedHere : Bool
  ranWithoutReproducingHere : Bool
  dedupedHere : Bool
  currentFailureHere : Bool
  noExecutableTargetHere : Bool
  targetBlockedHere : Bool
  environmentRefusedHere : Bool
  deterministicRefusedHere : Bool
  /-- Failures with a retryable disposition by argument digest. -/
  transientDigests : List (JsString × Nat)

structure MemoryAction where
  turnOrdinal : Nat
  intentKind : JsString
  toolId : Option JsString
  target : Option JsString
  resultClass : JsString
  evidenceGained : Bool

structure MemoryReproduction where
  target : JsString
  resultClass : JsString

structure DerivedLedger where
  targets : List (JsString × TargetLedgerEntry)
  refToTarget : List (JsString × JsString)
  proposalCandidateIds : List JsString
  reproductions : List MemoryReproduction
  turnOrdinals : List (JsString × Nat)
  seenRefs : List JsString
  lastEvidenceGainOrdinal : Option Nat
  repeatedActionCount : Nat
  actions : List MemoryAction
  transientFailuresByDigest : List (JsString × Nat)

def DerivedLedger.empty : DerivedLedger := ⟨[], [], [], [], [], [], none, 0, [], []⟩

/-- The keys of `REPRODUCTION_VERDICTS`. -/
def reproductionVerdicts : List JsString :=
  ["REPRODUCED".toList, "NOT_REPRODUCED".toList, "ENVIRONMENT_BLOCKED".toList,
    "NOT_AVAILABLE".toList, "REPRODUCED_CURRENT_FAILURE".toList, "INCONCLUSIVE".toList]

def inspectTool : Option JsString := some AgentToolId.inspectSourceSurface.text

def rerunTool : Option JsString := some AgentToolId.rerunSafeReproduction.text

def proposalTool : Option JsString := some AgentToolId.requestFindingProposal.text

def countDigest (digest : JsString) (counts : List (JsString × Nat)) : List (JsString × Nat) :=
  mapSet digest ((counts.lookup digest).getD 0 + 1) counts

def newEntry (target resultClass : JsString) : TargetLedgerEntry where
  target := target
  evidenceRef := none
  timesInspected := 0
  salient := []
  reproductionAttempts := 0
  lastResultClass := resultClass
  reproducedHere := false
  ranWithoutReproducingHere := false
  dedupedHere := false
  currentFailureHere := false
  noExecutableTargetHere := false
  targetBlockedHere := false
  environmentRefusedHere := false
  deterministicRefusedHere := false
  transientDigests := []

def TargetLedgerEntry.seen (entry : TargetLedgerEntry) (resultClass : JsString) :
    TargetLedgerEntry :=
  { entry with
    lastResultClass := resultClass
    dedupedHere := entry.dedupedHere || resultClass = dedupedRepeat }

def addSalient : List JsString → List JsString → List JsString
  | salient, [] => salient
  | salient, symbol :: rest =>
      if salientPerTarget ≤ salient.length then salient
      else
        match boundedString (some symbol) salientChars with
        | none => addSalient salient rest
        | some bounded =>
            if bounded ∈ salient then addSalient salient rest
            else addSalient (salient ++ [bounded]) rest

def firstRef (record : AgentActionRecord) : Option JsString :=
  boundedString record.evidenceRefs.head? evidenceRefChars

def isSourceRead (record : AgentActionRecord) : Prop :=
  record.toolId = inspectTool ∧ record.resultClass = "SOURCE_FILE".toList

instance (record : AgentActionRecord) : Decidable (isSourceRead record) :=
  inferInstanceAs (Decidable (_ ∧ _))

def TargetLedgerEntry.inspected (entry : TargetLedgerEntry) (record : AgentActionRecord) :
    TargetLedgerEntry :=
  let counted := { entry with timesInspected := entry.timesInspected + 1 }
  if record.resultClass = "SOURCE_FILE".toList then
    { counted with
      evidenceRef := (firstRef record).orElse fun _ => entry.evidenceRef
      salient := addSalient entry.salient (record.salient.getD []) }
  else counted

/-- Whether a reproduction record tells of a failed attempt that can be retried. -/
def isTransientFailure (record : AgentActionRecord) : Prop :=
  record.resultClass ∉ reproductionVerdicts ∧ record.disposition = some .transientRetryable

instance (record : AgentActionRecord) : Decidable (isTransientFailure record) :=
  inferInstanceAs (Decidable (_ ∧ _))

def TargetLedgerEntry.reproduced (entry : TargetLedgerEntry) (record : AgentActionRecord) :
    TargetLedgerEntry :=
  let counted := { entry with reproductionAttempts := entry.reproductionAttempts + 1 }
  if record.resultClass ∉ reproductionVerdicts then
    match record.disposition with
    | some .transientRetryable =>
        { counted with
          transientDigests :=
            countDigest (record.argumentDigest.getD []) entry.transientDigests }
    | some .environmentBlocked => { counted with environmentRefusedHere := true }
    | _ => { counted with deterministicRefusedHere := true }
  else if record.resultClass = "REPRODUCED".toList then { counted with reproducedHere := true }
  else if record.resultClass = "REPRODUCED_CURRENT_FAILURE".toList then
    { counted with currentFailureHere := true }
  else if record.resultClass = "NOT_REPRODUCED".toList ∨
      record.resultClass = "INCONCLUSIVE".toList then
    { counted with ranWithoutReproducingHere := true }
  else if record.resultClass = "NOT_AVAILABLE".toList then
    { counted with noExecutableTargetHere := true }
  else { counted with targetBlockedHere := true }

def DerivedLedger.note (ledger : DerivedLedger) (record : AgentActionRecord) : DerivedLedger :=
  let turnOrdinals :=
    if (ledger.turnOrdinals.lookup record.turnId).isSome then ledger.turnOrdinals
    else mapSet record.turnId (ledger.turnOrdinals.length + 1) ledger.turnOrdinals
  let ordinal := (turnOrdinals.lookup record.turnId).getD 0
  let gained : Bool := record.evidenceRefs.any fun ref => ref ∉ ledger.seenRefs
  { ledger with
    turnOrdinals
    seenRefs := record.evidenceRefs.foldl pushNew ledger.seenRefs
    lastEvidenceGainOrdinal := if gained then some ordinal else ledger.lastEvidenceGainOrdinal
    repeatedActionCount :=
      if record.resultClass = dedupedRepeat then ledger.repeatedActionCount + 1
      else ledger.repeatedActionCount
    actions := ledger.actions ++ [⟨ordinal, record.intentKind, record.toolId,
      boundedString record.target targetChars, record.resultClass, gained⟩] }

def DerivedLedger.entryFor (ledger : DerivedLedger) (target resultClass : JsString) :
    TargetLedgerEntry :=
  ((ledger.targets.lookup target).getD (newEntry target resultClass)).seen resultClass

def DerivedLedger.setEntry (ledger : DerivedLedger) (target : JsString)
    (entry : TargetLedgerEntry) : DerivedLedger :=
  { ledger with targets := mapSet target entry ledger.targets }

def DerivedLedger.inspect (ledger : DerivedLedger) (target : JsString)
    (record : AgentActionRecord) : DerivedLedger :=
  let entered := ledger.setEntry target
    ((ledger.entryFor target record.resultClass).inspected record)
  if record.resultClass = "SOURCE_FILE".toList then
    match firstRef record with
    | none => entered
    | some ref => { entered with refToTarget := mapSet ref target ledger.refToTarget }
  else entered

def DerivedLedger.reproduce (ledger : DerivedLedger) (target : JsString)
    (record : AgentActionRecord) : DerivedLedger :=
  let entered := ledger.setEntry target
    ((ledger.entryFor target record.resultClass).reproduced record)
  { entered with
    transientFailuresByDigest :=
      if isTransientFailure record then
        countDigest (record.argumentDigest.getD []) ledger.transientFailuresByDigest
      else ledger.transientFailuresByDigest
    reproductions := ledger.reproductions ++ [⟨target, record.resultClass⟩] }

def DerivedLedger.step (ledger : DerivedLedger) (record : AgentActionRecord) : DerivedLedger :=
  let noted := ledger.note record
  match boundedString record.target targetChars with
  | none => noted
  | some target =>
      if record.toolId = proposalTool ∧ record.resultClass = "FINDING_PROPOSAL".toList then
        { noted with proposalCandidateIds := pushNew noted.proposalCandidateIds target }
      else if record.toolId = inspectTool then noted.inspect target record
      else if record.toolId = rerunTool then noted.reproduce target record
      else noted

/-- `deriveLedger(state)` reads the action log alone. -/
def deriveLedger (actionLog : List AgentActionRecord) : DerivedLedger :=
  actionLog.foldl DerivedLedger.step .empty

end NightWatch.WorkingMemory.Ledger
