import NightWatch.Lib.JsDocuments
import NightWatch.AgentProtocol.Actions
import NightWatch.AgentProtocol.Budget
import NightWatch.AgentRuntime.ToolResults

namespace NightWatch.AgentRuntime.State

open Lib.JsText Lib.JsData Lib.JsDocuments AgentProtocol.Vocabulary AgentProtocol.Actions
  AgentProtocol.Budget AgentRuntime.ToolResults

inductive AgentHypothesisStatus where
  | opened
  | supported
  | disproved
  deriving DecidableEq

def agentHypothesisStatuses : List AgentHypothesisStatus := [.opened, .supported, .disproved]

def AgentHypothesisStatus.text : AgentHypothesisStatus → JsString
  | opened => "OPEN".toList
  | supported => "SUPPORTED".toList
  | disproved => "DISPROVED".toList

structure AgentHypothesis where
  hypothesisId : JsString
  statement : JsString
  evidenceRefs : List JsString
  status : AgentHypothesisStatus

structure AgentRuntimeState where
  campaignId : JsString
  status : AgentRuntimeStatus
  phase : AgentPhase
  hypotheses : List AgentHypothesis
  actionLog : List AgentActionRecord
  evidenceRefs : List JsString
  candidateIds : List JsString
  knownTargets : List JsString
  reproductionSurface : List ReproductionSurfaceEntry
  byteLedger : AgentByteLedger
  policy : AgentBudgetPolicy
  usage : AgentBudgetUsage
  terminationReason : Option AgentTerminationReason

structure AgentCheckpoint where
  campaignId : JsString
  state : AgentRuntimeState
  resumeCursor : JsString

def agentRuntimeStateVersion : JsString := "nightwatch.agent-runtime-state.v1".toList

def agentCheckpointVersion : JsString := "nightwatch.agent-checkpoint.v1".toList

def agentBudgetVersion : JsString := "nightwatch.agent-budget.v2".toList

def agentBudgetVersionV1 : JsString := "nightwatch.agent-budget.v1".toList

abbrev Fields : Type := List (JsString × JsValue)

def writeTexts : List JsString → JsValue := writeList .str

def writeNullableText : Option JsString → JsValue := writeNullable .str

def writeMember {α : Type} (name : α → JsString) (a : α) : JsValue := .str (name a)

def hypothesisFields (hypothesis : AgentHypothesis) : Fields :=
  [("hypothesisId".toList, .str hypothesis.hypothesisId),
    ("statement".toList, .str hypothesis.statement),
    ("evidenceRefs".toList, writeTexts hypothesis.evidenceRefs),
    ("status".toList, .str hypothesis.status.text)]

def hypothesisDocument (hypothesis : AgentHypothesis) : JsValue :=
  .obj (hypothesisFields hypothesis)

def optionalField {α : Type} (name : JsString) (write : α → JsValue) : Option α → Fields
  | none => []
  | some a => [(name, write a)]

def recordFields (record : AgentActionRecord) : Fields :=
  [("turnId".toList, .str record.turnId), ("phase".toList, .str record.phase.text),
      ("intentKind".toList, .str record.intentKind),
      ("toolId".toList, writeNullableText record.toolId),
      ("argumentDigest".toList, writeNullableText record.argumentDigest),
      ("resultClass".toList, .str record.resultClass),
      ("evidenceRefs".toList, writeTexts record.evidenceRefs),
      ("target".toList, writeNullableText record.target)] ++
    optionalField "salient".toList writeTexts record.salient ++
    optionalField "disposition".toList (writeMember ActionFailureDisposition.text)
      record.disposition

def recordDocument (record : AgentActionRecord) : JsValue := .obj (recordFields record)

def surfaceFields (entry : ReproductionSurfaceEntry) : Fields :=
  [("sourcePath".toList, .str entry.sourcePath),
    ("readiness".toList, .str entry.readiness.text),
    ("executorClass".toList, writeNullable (writeMember OwnerLocalExecutorKind.text) entry.executorClass),
    ("refusal".toList, writeNullable (writeMember SurfaceRefusalClass.text) entry.refusal),
    ("targetId".toList, writeNullableText entry.targetId)]

def surfaceDocument (entry : ReproductionSurfaceEntry) : JsValue := .obj (surfaceFields entry)

def ledgerFields (ledger : AgentByteLedger) : Fields :=
  [("schemaVersion".toList, .str agentByteLedgerVersion),
    ("legacyInputBytes".toList, writeCount ledger.legacyInputBytes),
    ("legacyOutputBytes".toList, writeCount ledger.legacyOutputBytes),
    ("legacyToolPayloadBytes".toList, writeCount ledger.legacyToolPayloadBytes),
    ("renderedInputBytes".toList, writeCount ledger.renderedInputBytes),
    ("requestMemoryBytes".toList, writeCount ledger.requestMemoryBytes),
    ("requestUntrustedBytes".toList, writeCount ledger.requestUntrustedBytes),
    ("providerResponseBytes".toList, writeCount ledger.providerResponseBytes),
    ("providerStderrBytes".toList, writeCount ledger.providerStderrBytes),
    ("reasonerOutputBytes".toList, writeCount ledger.reasonerOutputBytes),
    ("toolResultBytes".toList, writeCount ledger.toolResultBytes),
    ("toolEnvelopeBytes".toList, writeCount ledger.toolEnvelopeBytes),
    ("checkpointBytes".toList, writeCount ledger.checkpointBytes)]

def ledgerDocument (ledger : AgentByteLedger) : JsValue := .obj (ledgerFields ledger)

def policyFields (policy : AgentBudgetPolicy) : Fields :=
  [("schemaVersion".toList, .str agentBudgetVersion),
    ("ceilingName".toList, .str policy.ceilingName),
    ("wallTimeMs".toList, writeCount policy.wallTimeMs),
    ("reasonerCalls".toList, writeCount policy.reasonerCalls),
    ("inputBytes".toList, writeCount policy.inputBytes),
    ("outputBytes".toList, writeCount policy.outputBytes),
    ("toolPayloadBytes".toList, writeCount policy.toolPayloadBytes),
    ("toolActions".toList, writeCount policy.toolActions),
    ("perActionTimeoutMs".toList, writeCount policy.perActionTimeoutMs),
    ("candidateCap".toList, writeCount policy.candidateCap),
    ("failures".toList, writeCount policy.failures),
    ("consecutiveFailures".toList, writeCount policy.consecutiveFailures),
    ("providerFailures".toList, writeCount policy.providerFailures)]

def usageFields (usage : AgentBudgetUsage) : Fields :=
  [("wallTimeMs".toList, writeInteger usage.wallTimeMs),
    ("reasonerCalls".toList, writeCount usage.reasonerCalls),
    ("inputBytes".toList, writeCount usage.inputBytes),
    ("outputBytes".toList, writeCount usage.outputBytes),
    ("toolPayloadBytes".toList, writeCount usage.toolPayloadBytes),
    ("toolActions".toList, writeCount usage.toolActions),
    ("candidateCount".toList, writeCount usage.candidateCount),
    ("failures".toList, writeCount usage.failures),
    ("consecutiveFailures".toList, writeCount usage.consecutiveFailures),
    ("providerFailures".toList, writeCount usage.providerFailures)]

def budgetDocument (policy : AgentBudgetPolicy) (usage : AgentBudgetUsage) : JsValue :=
  .obj [("policy".toList, .obj (policyFields policy)), ("usage".toList, .obj (usageFields usage))]

def stateFields (state : AgentRuntimeState) : Fields :=
  [("schemaVersion".toList, .str agentRuntimeStateVersion),
      ("campaignId".toList, .str state.campaignId), ("status".toList, .str state.status.text),
      ("phase".toList, .str state.phase.text),
      ("hypotheses".toList, writeList hypothesisDocument state.hypotheses),
      ("actionLog".toList, writeList recordDocument state.actionLog),
      ("evidenceRefs".toList, writeTexts state.evidenceRefs),
      ("candidateIds".toList, writeTexts state.candidateIds),
      ("knownTargets".toList, writeTexts state.knownTargets)] ++
    optionalField "reproductionSurface".toList (writeList surfaceDocument)
      (nonEmpty state.reproductionSurface) ++
    [("byteLedger".toList, ledgerDocument state.byteLedger),
      ("budget".toList, budgetDocument state.policy state.usage),
      ("terminationReason".toList,
        writeNullable (writeMember AgentTerminationReason.text) state.terminationReason)]

def checkpointFields (checkpoint : AgentCheckpoint) : Fields :=
  [("schemaVersion".toList, .str agentCheckpointVersion),
    ("campaignId".toList, .str checkpoint.campaignId),
    ("state".toList, .obj (stateFields checkpoint.state)),
    ("resumeCursor".toList, .str checkpoint.resumeCursor)]

def checkpointDocument (checkpoint : AgentCheckpoint) : JsValue :=
  .obj (checkpointFields checkpoint)

def readMember {α : Type} (members : List α) (name : α → JsString) (v : JsValue) : Option α :=
  (readText v).bind (memberNamed members name)

def readTexts : JsValue → Option (List JsString) := readList readText

def readNullishText : JsValue → Option (Option JsString) := readNullish readText

def readHypothesis : JsValue → Option AgentHypothesis
  | .obj fields => do
      let hypothesisId ← readText (JsValue.field fields "hypothesisId".toList)
      let statement ← readText (JsValue.field fields "statement".toList)
      let evidenceRefs ← readTexts (JsValue.field fields "evidenceRefs".toList)
      let status ← readMember agentHypothesisStatuses AgentHypothesisStatus.text
        (JsValue.field fields "status".toList)
      some ⟨hypothesisId, statement, evidenceRefs, status⟩
  | _ => none

def readRecord : JsValue → Option AgentActionRecord
  | .obj fields => do
      let turnId ← readText (JsValue.field fields "turnId".toList)
      let phase ← readMember agentPhases AgentPhase.text (JsValue.field fields "phase".toList)
      let intentKind ← readText (JsValue.field fields "intentKind".toList)
      let toolId ← readNullishText (JsValue.field fields "toolId".toList)
      let argumentDigest ← readNullishText (JsValue.field fields "argumentDigest".toList)
      let resultClass ← readText (JsValue.field fields "resultClass".toList)
      let evidenceRefs ← readTexts (JsValue.field fields "evidenceRefs".toList)
      let target ← readNullishText (JsValue.field fields "target".toList)
      let salient ← readNullish readTexts (JsValue.field fields "salient".toList)
      let disposition ← readNullish
        (readMember actionFailureDispositions ActionFailureDisposition.text)
        (JsValue.field fields "disposition".toList)
      some ⟨turnId, phase, intentKind, toolId, argumentDigest, resultClass, evidenceRefs, target,
        salient, disposition⟩
  | _ => none

def readLedger : JsValue → Option AgentByteLedger
  | .obj fields => do
      let legacyInputBytes ← readCount (JsValue.field fields "legacyInputBytes".toList)
      let legacyOutputBytes ← readCount (JsValue.field fields "legacyOutputBytes".toList)
      let legacyToolPayloadBytes ← readCount (JsValue.field fields "legacyToolPayloadBytes".toList)
      let renderedInputBytes ← readCount (JsValue.field fields "renderedInputBytes".toList)
      let requestMemoryBytes ← readCount (JsValue.field fields "requestMemoryBytes".toList)
      let requestUntrustedBytes ← readCount (JsValue.field fields "requestUntrustedBytes".toList)
      let providerResponseBytes ← readCount (JsValue.field fields "providerResponseBytes".toList)
      let providerStderrBytes ← readCount (JsValue.field fields "providerStderrBytes".toList)
      let reasonerOutputBytes ← readCount (JsValue.field fields "reasonerOutputBytes".toList)
      let toolResultBytes ← readCount (JsValue.field fields "toolResultBytes".toList)
      let toolEnvelopeBytes ← readCount (JsValue.field fields "toolEnvelopeBytes".toList)
      let checkpointBytes ← readCount (JsValue.field fields "checkpointBytes".toList)
      some ⟨legacyInputBytes, legacyOutputBytes, legacyToolPayloadBytes, renderedInputBytes,
        requestMemoryBytes, requestUntrustedBytes, providerResponseBytes, providerStderrBytes,
        reasonerOutputBytes, toolResultBytes, toolEnvelopeBytes, checkpointBytes⟩
  | _ => none

def readPolicy : JsValue → Option AgentBudgetPolicy
  | .obj fields => do
      let ceilingName ← readText (JsValue.field fields "ceilingName".toList)
      let wallTimeMs ← readCount (JsValue.field fields "wallTimeMs".toList)
      let reasonerCalls ← readCount (JsValue.field fields "reasonerCalls".toList)
      let inputBytes ← readCount (JsValue.field fields "inputBytes".toList)
      let outputBytes ← readCount (JsValue.field fields "outputBytes".toList)
      let toolPayloadBytes ← readCount (JsValue.field fields "toolPayloadBytes".toList)
      let toolActions ← readCount (JsValue.field fields "toolActions".toList)
      let perActionTimeoutMs ← readCount (JsValue.field fields "perActionTimeoutMs".toList)
      let candidateCap ← readCount (JsValue.field fields "candidateCap".toList)
      let failures ← readCount (JsValue.field fields "failures".toList)
      let consecutiveFailures ← readCount (JsValue.field fields "consecutiveFailures".toList)
      let providerFailures ← readCount (JsValue.field fields "providerFailures".toList)
      some ⟨ceilingName, wallTimeMs, reasonerCalls, inputBytes, outputBytes, toolPayloadBytes,
        toolActions, perActionTimeoutMs, candidateCap, failures, consecutiveFailures,
        providerFailures⟩
  | _ => none

def readUsage : JsValue → Option AgentBudgetUsage
  | .obj fields => do
      let wallTimeMs ← readInteger (JsValue.field fields "wallTimeMs".toList)
      let reasonerCalls ← readCount (JsValue.field fields "reasonerCalls".toList)
      let inputBytes ← readCount (JsValue.field fields "inputBytes".toList)
      let outputBytes ← readCount (JsValue.field fields "outputBytes".toList)
      let toolPayloadBytes ← readCount (JsValue.field fields "toolPayloadBytes".toList)
      let toolActions ← readCount (JsValue.field fields "toolActions".toList)
      let candidateCount ← readCount (JsValue.field fields "candidateCount".toList)
      let failures ← readCount (JsValue.field fields "failures".toList)
      let consecutiveFailures ← readCount (JsValue.field fields "consecutiveFailures".toList)
      let providerFailures ← readCount (JsValue.field fields "providerFailures".toList)
      some ⟨wallTimeMs, reasonerCalls, inputBytes, outputBytes, toolPayloadBytes, toolActions,
        candidateCount, failures, consecutiveFailures, providerFailures⟩
  | _ => none

def subfield (v : JsValue) (name : JsString) : JsValue :=
  match v with
  | .obj fields => JsValue.field fields name
  | _ => .undefined

def readState (fields : Fields) : Option AgentRuntimeState := do
  let campaignId ← readText (JsValue.field fields "campaignId".toList)
  let status ← readMember agentRuntimeStatuses AgentRuntimeStatus.text
    (JsValue.field fields "status".toList)
  let phase ← readMember agentPhases AgentPhase.text (JsValue.field fields "phase".toList)
  let hypotheses ← readList readHypothesis (JsValue.field fields "hypotheses".toList)
  let actionLog ← readList readRecord (JsValue.field fields "actionLog".toList)
  let evidenceRefs ← readTexts (JsValue.field fields "evidenceRefs".toList)
  let candidateIds ← readTexts (JsValue.field fields "candidateIds".toList)
  let knownTargets ← readNullish readTexts (JsValue.field fields "knownTargets".toList)
  let reproductionSurface ← readNullish (readList surfaceEntry)
    (JsValue.field fields "reproductionSurface".toList)
  let byteLedger ← readNullish readLedger (JsValue.field fields "byteLedger".toList)
  let policy ← readPolicy (subfield (JsValue.field fields "budget".toList) "policy".toList)
  let usage ← readUsage (subfield (JsValue.field fields "budget".toList) "usage".toList)
  let terminationReason ← readNullish
    (readMember agentTerminationReasons AgentTerminationReason.text)
    (JsValue.field fields "terminationReason".toList)
  some
    { campaignId, status, phase, hypotheses, actionLog, evidenceRefs, candidateIds
      knownTargets := knownTargets.getD []
      reproductionSurface := reproductionSurface.getD []
      byteLedger := byteLedger.getD
        (legacyAgentByteLedger usage.inputBytes usage.outputBytes usage.toolPayloadBytes)
      policy, usage, terminationReason }

/-- What the reading of a state takes from the fields of its document. -/
structure ReadsState (fields : Fields) (state : AgentRuntimeState) : Prop where
  phase : readMember agentPhases AgentPhase.text (JsValue.field fields "phase".toList) =
    some state.phase
  hypotheses : readList readHypothesis (JsValue.field fields "hypotheses".toList) =
    some state.hypotheses
  actionLog : readList readRecord (JsValue.field fields "actionLog".toList) = some state.actionLog
  evidenceRefs : readTexts (JsValue.field fields "evidenceRefs".toList) = some state.evidenceRefs
  candidateIds : readTexts (JsValue.field fields "candidateIds".toList) = some state.candidateIds
  knownTargets : ∀ targets,
    readNullish readTexts (JsValue.field fields "knownTargets".toList) = some (some targets) →
    state.knownTargets = targets
  byteLedger : ∀ ledger,
    readNullish readLedger (JsValue.field fields "byteLedger".toList) = some (some ledger) →
    state.byteLedger = ledger
  usage : readUsage (subfield (JsValue.field fields "budget".toList) "usage".toList) =
    some state.usage

theorem reads_of_readState {fields : Fields} {state : AgentRuntimeState}
    (h : readState fields = some state) : ReadsState fields state := by
  unfold readState at h
  obtain ⟨campaignId, -, h⟩ := Option.bind_eq_some_iff.mp h
  obtain ⟨status, -, h⟩ := Option.bind_eq_some_iff.mp h
  obtain ⟨phase, hphase, h⟩ := Option.bind_eq_some_iff.mp h
  obtain ⟨hypotheses, hhypotheses, h⟩ := Option.bind_eq_some_iff.mp h
  obtain ⟨actionLog, hlog, h⟩ := Option.bind_eq_some_iff.mp h
  obtain ⟨evidenceRefs, hrefs, h⟩ := Option.bind_eq_some_iff.mp h
  obtain ⟨candidateIds, hids, h⟩ := Option.bind_eq_some_iff.mp h
  obtain ⟨knownTargets, htargets, h⟩ := Option.bind_eq_some_iff.mp h
  obtain ⟨reproductionSurface, -, h⟩ := Option.bind_eq_some_iff.mp h
  obtain ⟨byteLedger, hbytes, h⟩ := Option.bind_eq_some_iff.mp h
  obtain ⟨policy, -, h⟩ := Option.bind_eq_some_iff.mp h
  obtain ⟨usage, husage, h⟩ := Option.bind_eq_some_iff.mp h
  obtain ⟨terminationReason, -, h⟩ := Option.bind_eq_some_iff.mp h
  obtain rfl := Option.some.inj h
  refine ⟨hphase, hhypotheses, hlog, hrefs, hids, ?_, ?_, husage⟩
  · intro targets hread
    obtain rfl := Option.some.inj (htargets.symm.trans hread)
    rfl
  · intro ledger hledger
    obtain rfl := Option.some.inj (hbytes.symm.trans hledger)
    rfl

theorem recovers_phase (phase : AgentPhase) :
    Recovers (readMember agentPhases AgentPhase.text) (writeMember AgentPhase.text) phase := by
  refine memberNamed_name ?_ ?_
  · decide
  · cases phase <;> decide

theorem recovers_texts (texts : List JsString) : Recovers readTexts writeTexts texts :=
  recovers_list fun s _ => recovers_text s

theorem recovers_nullableText (s : Option JsString) :
    Recovers readNullishText writeNullableText s := recovers_nullable recovers_text fun _ => rfl

theorem recovers_hypothesis (hypothesis : AgentHypothesis) :
    Recovers readHypothesis hypothesisDocument hypothesis := by
  have hrefs : JsValue.field (hypothesisFields hypothesis) "evidenceRefs".toList =
    writeTexts hypothesis.evidenceRefs := rfl
  have hstatus : readMember agentHypothesisStatuses AgentHypothesisStatus.text
      (JsValue.field (hypothesisFields hypothesis) "status".toList) = some hypothesis.status := by
    change memberNamed agentHypothesisStatuses AgentHypothesisStatus.text hypothesis.status.text = _
    cases hypothesis.status <;> decide
  rw [Recovers, hypothesisDocument, readHypothesis, hrefs, recovers_texts, hstatus]
  rfl

variable (record : AgentActionRecord)

theorem field_recordFields_salient : JsValue.field (recordFields record) "salient".toList =
      writeOptional writeTexts record.salient := by
  rcases hs : record.salient with _ | salient <;> rcases hd : record.disposition with _ | d <;>
    simp only [recordFields, hs, hd] <;> rfl

theorem field_recordFields_disposition : JsValue.field (recordFields record) "disposition".toList =
      writeOptional (writeMember ActionFailureDisposition.text) record.disposition := by
  rcases hs : record.salient with _ | salient <;> rcases hd : record.disposition with _ | d <;>
    simp only [recordFields, hs, hd] <;> rfl

theorem recovers_record : Recovers readRecord recordDocument record := by
  have hturn : JsValue.field (recordFields record) "turnId".toList = .str record.turnId := rfl
  have hphase : JsValue.field (recordFields record) "phase".toList =
    writeMember AgentPhase.text record.phase := rfl
  have hkind : JsValue.field (recordFields record) "intentKind".toList = .str record.intentKind := rfl
  have htool : JsValue.field (recordFields record) "toolId".toList =
    writeNullableText record.toolId := rfl
  have hdigest : JsValue.field (recordFields record) "argumentDigest".toList =
    writeNullableText record.argumentDigest := rfl
  have hclass : JsValue.field (recordFields record) "resultClass".toList =
    .str record.resultClass := rfl
  have hrefs : JsValue.field (recordFields record) "evidenceRefs".toList =
    writeTexts record.evidenceRefs := rfl
  have htarget : JsValue.field (recordFields record) "target".toList =
    writeNullableText record.target := rfl
  have hreadSalient : readNullish readTexts (writeOptional writeTexts record.salient) =
    some record.salient := recovers_optional recovers_texts fun _ => rfl
  have hreadDisposition : readNullish
      (readMember actionFailureDispositions ActionFailureDisposition.text)
      (writeOptional (writeMember ActionFailureDisposition.text) record.disposition) =
        some record.disposition := by
    refine recovers_optional (fun d => ?_) fun _ => rfl
    change memberNamed actionFailureDispositions ActionFailureDisposition.text d.text = _
    cases d <;> decide
  rw [Recovers, recordDocument, readRecord, hturn, hphase, hkind, htool, hdigest, hclass, hrefs,
    htarget, field_recordFields_salient, field_recordFields_disposition, hreadSalient,
    hreadDisposition, recovers_text, recovers_phase, recovers_text, recovers_nullableText,
    recovers_nullableText, recovers_text, recovers_texts, recovers_nullableText]
  rfl

theorem recovers_ledger (ledger : AgentByteLedger) : Recovers readLedger ledgerDocument ledger := by
  have hfield : ∀ (name : JsString) (n : Nat),
      JsValue.field (ledgerFields ledger) name = writeCount n →
        readCount (JsValue.field (ledgerFields ledger) name) = some n := by
    intro name n h
    rw [h, recovers_count]
  rw [Recovers, ledgerDocument, readLedger, hfield _ ledger.legacyInputBytes rfl,
    hfield _ ledger.legacyOutputBytes rfl, hfield _ ledger.legacyToolPayloadBytes rfl,
    hfield _ ledger.renderedInputBytes rfl, hfield _ ledger.requestMemoryBytes rfl,
    hfield _ ledger.requestUntrustedBytes rfl, hfield _ ledger.providerResponseBytes rfl,
    hfield _ ledger.providerStderrBytes rfl, hfield _ ledger.reasonerOutputBytes rfl,
    hfield _ ledger.toolResultBytes rfl, hfield _ ledger.toolEnvelopeBytes rfl,
    hfield _ ledger.checkpointBytes rfl]
  rfl

theorem recovers_usage (usage : AgentBudgetUsage) :
    readUsage (.obj (usageFields usage)) = some usage := by
  have hwall : JsValue.field (usageFields usage) "wallTimeMs".toList =
    writeInteger usage.wallTimeMs := rfl
  have hfield : ∀ (name : JsString) (n : Nat),
      JsValue.field (usageFields usage) name = writeCount n →
        readCount (JsValue.field (usageFields usage) name) = some n := by
    intro name n h
    rw [h, recovers_count]
  rw [readUsage, hwall, recovers_integer, hfield _ usage.reasonerCalls rfl,
    hfield _ usage.inputBytes rfl, hfield _ usage.outputBytes rfl,
    hfield _ usage.toolPayloadBytes rfl, hfield _ usage.toolActions rfl,
    hfield _ usage.candidateCount rfl, hfield _ usage.failures rfl,
    hfield _ usage.consecutiveFailures rfl, hfield _ usage.providerFailures rfl]
  rfl

theorem field_stateFields_ledger (state : AgentRuntimeState) :
    JsValue.field (stateFields state) "byteLedger".toList = ledgerDocument state.byteLedger := by
  rcases hs : nonEmpty state.reproductionSurface with _ | entries
  · simp only [stateFields, hs]
    rfl
  · simp only [stateFields, hs]
    rfl

theorem field_stateFields_budget (state : AgentRuntimeState) :
    JsValue.field (stateFields state) "budget".toList =
      budgetDocument state.policy state.usage := by
  rcases hs : nonEmpty state.reproductionSurface with _ | entries
  · simp only [stateFields, hs]
    rfl
  · simp only [stateFields, hs]
    rfl

end NightWatch.AgentRuntime.State
