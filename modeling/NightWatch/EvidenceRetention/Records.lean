import NightWatch.Lib.JsonLayout

namespace NightWatch.EvidenceRetention.Records

open Lib.JsText Lib.JsData Lib.JsonLayout

def retentionJournalVersion : JsString :=
  "nightwatch.evidence-retention-operation-journal.v1".toList

structure RetentionJournalCandidate where
  name : JsString
  bytes : Option ℤ

inductive TargetResult where
  | removed
  | preserved
  deriving DecidableEq

structure RetentionJournalTarget where
  name : JsString
  result : TargetResult
  reasonCode : JsString
  bytes : Option ℤ

inductive RetentionStatus where
  | prepared
  | applied
  | partlyApplied
  | preserved
  deriving DecidableEq

structure RetentionOperationIntent where
  operationId : JsString
  appliedAt : JsString
  gitHead : Option JsString
  keepRecent : ℤ
  planConfirmationDigest : JsString
  refusalSetDigest : JsString
  entryCount : ℤ
  refusedCount : ℤ
  candidateCount : ℤ
  reclaimableBytes : Option ℤ
  referenceScanComplete : Bool
  candidates : List RetentionJournalCandidate

structure RetentionOperationRecord where
  operationId : JsString
  terminal : Bool
  status : RetentionStatus
  appliedAt : JsString
  gitHead : Option JsString
  keepRecent : ℤ
  planConfirmationDigest : JsString
  refusalSetDigest : JsString
  entryCount : ℤ
  refusedCount : ℤ
  candidateCount : ℤ
  reclaimableBytes : Option ℤ
  referenceScanComplete : Bool
  candidates : List RetentionJournalCandidate
  deletedSet : List RetentionJournalCandidate
  deletedBytes : Option ℤ
  removedCount : Nat
  targets : List RetentionJournalTarget

def isLowerHex (c : Char) : Bool := c.isDigit || ('a' ≤ c && c ≤ 'f')

/-- `/^retention-[0-9a-f]{24}$/`. -/
def isOperationId (s : JsString) : Bool :=
  startsWith s "retention-".toList && (s.drop 10).length == 24 && (s.drop 10).all isLowerHex

def isAsciiAlphanumeric (c : Char) : Bool := c.isAlphanum

/-- `/^[A-Za-z0-9][A-Za-z0-9._-]{0,127}$/`. -/
def isSafeName (s : JsString) : Bool :=
  s.head?.any isAsciiAlphanumeric && s.length ≤ 128 &&
    s.tail.all fun c => isAsciiAlphanumeric c || c == '.' || c == '_' || c == '-'

def isSize (bytes : Option ℤ) : Bool := bytes.all fun n => n.natAbs ≤ 2 ^ 53 - 1

def assertCandidates (candidates : List RetentionJournalCandidate) : Bool :=
  !candidates.isEmpty && candidates.all fun c => isSafeName c.name && isSize c.bytes

def assertTargets (targets : List RetentionJournalTarget) : Bool :=
  targets.all fun t => isSafeName t.name && !t.reasonCode.isEmpty && isSize t.bytes

def RetentionJournalTarget.candidate (target : RetentionJournalTarget) :
    RetentionJournalCandidate := ⟨target.name, target.bytes⟩

def removedTargets (targets : List RetentionJournalTarget) : List RetentionJournalTarget :=
  targets.filter fun target => target.result = .removed

def totalBytes : List RetentionJournalCandidate → Option ℤ
  | [] => some 0
  | entry :: rest => do
      let bytes ← entry.bytes
      let total ← totalBytes rest
      some (bytes + total)

def outcomeStatus (targets : List RetentionJournalTarget) : RetentionStatus :=
  if (removedTargets targets).length = 0 then .preserved
  else if (removedTargets targets).length = targets.length then .applied
  else .partlyApplied

structure RetentionOutcome where
  status : RetentionStatus
  removedCount : Nat
  deletedSet : List RetentionJournalCandidate
  deletedBytes : Option ℤ

def retentionOutcomeFromTargets (targets : List RetentionJournalTarget) : RetentionOutcome :=
  let deletedSet := (removedTargets targets).map RetentionJournalTarget.candidate
  { status := outcomeStatus targets
    removedCount := (removedTargets targets).length
    deletedSet := deletedSet
    deletedBytes := totalBytes deletedSet }

def preparedRecord (intent : RetentionOperationIntent) : RetentionOperationRecord where
  operationId := intent.operationId
  terminal := false
  status := .prepared
  appliedAt := intent.appliedAt
  gitHead := intent.gitHead
  keepRecent := intent.keepRecent
  planConfirmationDigest := intent.planConfirmationDigest
  refusalSetDigest := intent.refusalSetDigest
  entryCount := intent.entryCount
  refusedCount := intent.refusedCount
  candidateCount := intent.candidateCount
  reclaimableBytes := intent.reclaimableBytes
  referenceScanComplete := intent.referenceScanComplete
  candidates := intent.candidates
  deletedSet := []
  deletedBytes := some 0
  removedCount := 0
  targets := []

def terminalRecord (intent : RetentionOperationIntent) (targets : List RetentionJournalTarget) :
    RetentionOperationRecord :=
  let outcome := retentionOutcomeFromTargets targets
  { preparedRecord intent with
    terminal := true
    status := outcome.status
    deletedSet := outcome.deletedSet
    deletedBytes := outcome.deletedBytes
    removedCount := outcome.removedCount
    targets := targets }

abbrev Fields := List (JsString × JsValue)

def integer (z : ℤ) : JsValue := .num (.finite z)

def orNull {α : Type} (value : α → JsValue) : Option α → JsValue
  | some a => value a
  | none => .null

def RetentionStatus.text : RetentionStatus → JsString
  | prepared => "PREPARED".toList
  | applied => "APPLIED".toList
  | partlyApplied => "PARTIAL".toList
  | preserved => "PRESERVED".toList

def TargetResult.text : TargetResult → JsString
  | removed => "REMOVED".toList
  | preserved => "PRESERVED".toList

def RetentionJournalCandidate.value (candidate : RetentionJournalCandidate) : JsValue :=
  .obj [("name".toList, .str candidate.name), ("bytes".toList, orNull integer candidate.bytes)]

def RetentionJournalTarget.value (target : RetentionJournalTarget) : JsValue :=
  .obj [("name".toList, .str target.name), ("result".toList, .str target.result.text),
    ("reasonCode".toList, .str target.reasonCode), ("bytes".toList, orNull integer target.bytes)]

def recordKeys : List JsString :=
  ["schemaVersion".toList, "operationId".toList, "terminal".toList, "status".toList,
    "appliedAt".toList, "gitHead".toList, "keepRecent".toList, "planConfirmationDigest".toList,
    "refusalSetDigest".toList, "entryCount".toList, "refusedCount".toList,
    "candidateCount".toList, "reclaimableBytes".toList, "referenceScanComplete".toList,
    "candidates".toList, "deletedSet".toList, "deletedBytes".toList, "removedCount".toList,
    "targets".toList]

def RetentionOperationRecord.fields (record : RetentionOperationRecord) : Fields :=
  [("schemaVersion".toList, .str retentionJournalVersion),
    ("operationId".toList, .str record.operationId),
    ("terminal".toList, .bool record.terminal),
    ("status".toList, .str record.status.text),
    ("appliedAt".toList, .str record.appliedAt),
    ("gitHead".toList, orNull .str record.gitHead),
    ("keepRecent".toList, integer record.keepRecent),
    ("planConfirmationDigest".toList, .str record.planConfirmationDigest),
    ("refusalSetDigest".toList, .str record.refusalSetDigest),
    ("entryCount".toList, integer record.entryCount),
    ("refusedCount".toList, integer record.refusedCount),
    ("candidateCount".toList, integer record.candidateCount),
    ("reclaimableBytes".toList, orNull integer record.reclaimableBytes),
    ("referenceScanComplete".toList, .bool record.referenceScanComplete),
    ("candidates".toList, .arr (record.candidates.map RetentionJournalCandidate.value)),
    ("deletedSet".toList, .arr (record.deletedSet.map RetentionJournalCandidate.value)),
    ("deletedBytes".toList, orNull integer record.deletedBytes),
    ("removedCount".toList, integer record.removedCount),
    ("targets".toList, .arr (record.targets.map RetentionJournalTarget.value))]

/-- `{ ...prepared, terminal: true, ... }`: the keys keep their places. -/
def finalFields (prepared : Fields) (targets : List RetentionJournalTarget) : Fields :=
  let outcome := retentionOutcomeFromTargets targets
  mapSet "targets".toList (.arr (targets.map RetentionJournalTarget.value)) <|
  mapSet "removedCount".toList (integer outcome.removedCount) <|
  mapSet "deletedBytes".toList (orNull integer outcome.deletedBytes) <|
  mapSet "deletedSet".toList (.arr (outcome.deletedSet.map RetentionJournalCandidate.value)) <|
  mapSet "status".toList (.str outcome.status.text) <|
  mapSet "terminal".toList (.bool true) prepared

theorem finalFields_preparedRecord (intent : RetentionOperationIntent)
    (targets : List RetentionJournalTarget) :
    finalFields (preparedRecord intent).fields targets = (terminalRecord intent targets).fields :=
  rfl

def recordText (record : Fields) : JsString := stringifyLines (.obj record) ++ ['\n']

def isTerminal (record : Fields) : Bool :=
  match JsValue.field record "terminal".toList with
  | .bool b => b
  | _ => false

/-- The checks of `parseRecord` on an object. -/
def acceptsRecord (record : Fields) : Bool :=
  record.length == recordKeys.length &&
    (recordKeys.all fun key => !(JsValue.field record key).isUndefined) &&
    (match JsValue.field record "schemaVersion".toList with
      | .str version => version == retentionJournalVersion
      | _ => false) &&
    (match JsValue.field record "operationId".toList with
      | .str operationId => isOperationId operationId
      | _ => false) &&
    (match JsValue.field record "terminal".toList with
      | .bool _ => true
      | _ => false) &&
    (match JsValue.field record "status".toList with
      | .str status =>
          status ∈ ["PREPARED".toList, "APPLIED".toList, "PARTIAL".toList, "PRESERVED".toList]
      | _ => false)

def parseRecord (bytes : JsString) : Option Fields :=
  match parseLaidOut bytes with
  | some (.obj record) => if acceptsRecord record then some record else none
  | _ => none

variable {α : Type} {record : RetentionOperationRecord}

variable {value : α → JsValue}

theorem isData_orNull (h : ∀ a, IsData (value a)) (x : Option α) : IsData (orNull value x) := by
  rcases x with _ | a
  · exact .null
  · exact h a

theorem isData_integer (z : ℤ) : IsData (integer z) := .num z

theorem isData_candidate (candidate : RetentionJournalCandidate) : IsData candidate.value := by
  refine .obj ?_
  intro v hv
  simp only [List.map_cons, List.map_nil, List.mem_cons, List.not_mem_nil, or_false] at hv
  rcases hv with rfl | rfl
  · exact .str _
  · exact isData_orNull isData_integer _

theorem isData_target (target : RetentionJournalTarget) : IsData target.value := by
  refine .obj ?_
  intro v hv
  simp only [List.map_cons, List.map_nil, List.mem_cons, List.not_mem_nil, or_false] at hv
  rcases hv with rfl | rfl | rfl | rfl
  · exact .str _
  · exact .str _
  · exact .str _
  · exact isData_orNull isData_integer _

theorem isData_map (h : ∀ a, IsData (value a)) (xs : List α) : IsData (.arr (xs.map value)) := by
  refine .arr ?_
  intro v hv
  obtain ⟨a, -, rfl⟩ := List.mem_map.mp hv
  exact h a

theorem isData_fields (record : RetentionOperationRecord) : IsData (.obj record.fields) := by
  refine .obj ?_
  intro v hv
  simp only [RetentionOperationRecord.fields, List.map_cons, List.map_nil, List.mem_cons,
    List.not_mem_nil, or_false] at hv
  rcases hv with rfl | rfl | rfl | rfl | rfl | rfl | rfl | rfl | rfl | rfl | rfl | rfl | rfl |
    rfl | rfl | rfl | rfl | rfl | rfl
  all_goals first
    | exact .str _
    | exact .bool _
    | exact isData_integer _
    | exact isData_orNull isData_integer _
    | exact isData_orNull IsData.str _
    | exact isData_map isData_candidate _
    | exact isData_map isData_target _

theorem isTerminal_fields (record : RetentionOperationRecord) :
    isTerminal record.fields = record.terminal := rfl

theorem isUndefined_orNull (h : ∀ a, (value a).isUndefined = false) (x : Option α) :
    (orNull value x).isUndefined = false := by
  rcases x with _ | a
  · rfl
  · exact h a

theorem isUndefined_fields (record : RetentionOperationRecord) :
    (recordKeys.all fun key => !(JsValue.field record.fields key).isUndefined) = true := by
  have hhead : (JsValue.field record.fields "gitHead".toList).isUndefined = false :=
    isUndefined_orNull (fun _ => rfl) record.gitHead
  have hreclaimable : (JsValue.field record.fields "reclaimableBytes".toList).isUndefined = false :=
    isUndefined_orNull (fun _ => rfl) record.reclaimableBytes
  have hdeleted : (JsValue.field record.fields "deletedBytes".toList).isUndefined = false :=
    isUndefined_orNull (fun _ => rfl) record.deletedBytes
  simp only [recordKeys, List.all_cons, List.all_nil, hhead, hreclaimable, hdeleted]
  rfl

theorem text_mem_statuses (status : RetentionStatus) : status.text ∈
    ["PREPARED".toList, "APPLIED".toList, "PARTIAL".toList, "PRESERVED".toList] := by
  rcases status with _ | _ | _ | _ <;> decide

theorem acceptsRecord_fields
    (hid : isOperationId record.operationId = true) : acceptsRecord record.fields = true := by
  have hversion : (match JsValue.field record.fields "schemaVersion".toList with
      | .str version => version == retentionJournalVersion
      | _ => false) = true := beq_self_eq_true retentionJournalVersion
  have hstatus : (match JsValue.field record.fields "status".toList with
      | .str status =>
          decide (status ∈ ["PREPARED".toList, "APPLIED".toList, "PARTIAL".toList,
            "PRESERVED".toList])
      | _ => false) = true := decide_eq_true (text_mem_statuses record.status)
  rw [acceptsRecord, isUndefined_fields, hversion, hstatus, Bool.and_true]
  show (true && true && true && isOperationId record.operationId && true) = true
  rw [hid]
  rfl

theorem parseRecord_recordText (hid : isOperationId record.operationId = true) :
    parseRecord (recordText record.fields) = some record.fields := by
  rw [parseRecord, recordText, parseLaidOut_stringifyLines (isData_fields record)]
  show (if acceptsRecord record.fields = true then some record.fields else none) = _
  rw [if_pos (acceptsRecord_fields hid)]

end NightWatch.EvidenceRetention.Records
