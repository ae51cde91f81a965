import NightWatch.Lib.Machine
import NightWatch.ReviewStore.Lifecycle

namespace NightWatch.ReviewStore.Store

open Lib.JsText Lib.JsData Lib.JsData.JsValue Lib.JsonLayout Lib.Machine Lib.JsRuntime
  ReviewStore.Lifecycle

section Names

variable (rt : Runtime) (sha256Hex : JsString → JsString)

def reviewIdentity (binding : FindingReviewBinding) : JsString :=
  (sha256Hex (stableJsonSorted rt binding.value)).take 24

def findingDiscoveryKey (findingId : JsString) : JsString := (sha256Hex findingId).take 12

def fileNameOf (discoveryKey identity : JsString) : JsString :=
  "review.".toList ++ discoveryKey ++ '.' :: identity ++ ".json".toList

def reviewFileName (binding : FindingReviewBinding) : JsString :=
  fileNameOf (findingDiscoveryKey sha256Hex binding.findingId) (reviewIdentity rt sha256Hex binding)

def reviewFileNamePrefix (findingId : JsString) : JsString :=
  "review.".toList ++ findingDiscoveryKey sha256Hex findingId ++ ['.']

def parseReviewFileName (fileName : JsString) : Option (JsString × JsString) :=
  let discoveryKey := (fileName.drop 7).take 12
  let identity := (fileName.drop 20).take 24
  if discoveryKey.length = 12 ∧ discoveryKey.all isLowerHex ∧ identity.length = 24 ∧
      identity.all isLowerHex ∧ fileName = fileNameOf discoveryKey identity then
    some (discoveryKey, identity)
  else none

end Names

section Envelopes

inductive ReviewStoreErrorCode where
  | corrupt
  | bindingInvalid
  | receiptTampered
  | identityMismatch
  | authorityInvalid
  | stateInvalid
  | recordReceiptMismatch
  | alreadyDecided

inductive VersionedField where
  | schemaVersion
  | lifecycleVersion
  | receiptSchemaVersion

inductive ReviewError where
  | plain (message : JsString)
  | store (code : ReviewStoreErrorCode) (detail : JsString)
  | unsupported (field : VersionedField) (foundVersion : JsString)

def schemaVersion : JsString := "nightwatch.review-store.v1".toList

def envelopeNames : List JsString :=
  ["findingId".toList, "record".toList, "receipt".toList, "reviewIdentity".toList,
    "schemaVersion".toList, "status".toList, "storedAt".toList]

def corruptIf (condition : Bool) (code : ReviewStoreErrorCode) (detail : JsString) :
    Except ReviewError Unit :=
  if condition then .error (.store code detail) else .ok ()

/-- The fields of an object that is neither `null` nor an array. -/
def objectFields (detail : String) : JsValue → Except ReviewError Fields
  | .obj fields => .ok fields
  | _ => .error (.store .corrupt detail.toList)

def isNonEmptyText : JsValue → Bool
  | .str s => !s.isEmpty
  | _ => false

def isTextValue : JsValue → Bool
  | .str _ => true
  | _ => false

def receiptError (message : JsString) : ReviewError :=
  if includes message "RECEIPT_TAMPERED".toList then .store .receiptTampered message
  else if includes message "AUTHORITY_INVALID".toList then .store .authorityInvalid message
  else if includes message "INVALID_BINDING".toList then .store .bindingInvalid message
  else .store .corrupt message

variable (rt : Runtime) (sha256Hex : JsString → JsString) (sentinel : JsString → Bool)

def checkVersion (versioned : VersionedField) (found : JsValue) (expected : JsString) :
    Except ReviewError Unit :=
  if isText found expected then .ok () else .error (.unsupported versioned (stringOf rt found))

def checkState (stored receipt : Fields) : Except ReviewError Unit :=
  match named FindingReviewState.text findingReviewStates (field stored "state".toList) with
  | none => .error (.plain "FINDING_REVIEW_INVALID_STATE".toList)
  | some state => do
      corruptIf (!isTerminalReviewState state) .stateInvalid state.text
      corruptIf (!isText (field receipt "resultingState".toList) state.text)
        .recordReceiptMismatch "state".toList

def isOne : JsValue → Bool
  | .num n => n = .ofNat 1
  | _ => false

def validateStoredReviewEnvelope (value : JsValue) (fileName : JsString) :
    Except ReviewError Fields := do
  let parsedName ← (match parseReviewFileName fileName with
    | some parsed => .ok parsed
    | none => .error (.store .identityMismatch ("file name ".toList ++ fileName)))
  let envelope ← objectFields "not an object" value
  checkVersion rt .schemaVersion (field envelope "schemaVersion".toList) schemaVersion
  corruptIf (sortedNames envelope ≠ envelopeNames.insertionSort textLe) .corrupt
    ("keys ".toList ++ join ',' (sortedNames envelope))
  corruptIf (!isText (field envelope "status".toList) "READY".toList) .corrupt "status".toList
  corruptIf (!isInstantValue (field envelope "storedAt".toList)) .corrupt "storedAt".toList
  corruptIf (!isNonEmptyText (field envelope "findingId".toList)) .corrupt "findingId".toList
  corruptIf (!isTextValue (field envelope "reviewIdentity".toList)) .corrupt "reviewIdentity".toList
  let stored ← objectFields "record" (field envelope "record".toList)
  let receipt ← objectFields "receipt" (field envelope "receipt".toList)
  let binding ← (verifyReceiptIntegrity rt sha256Hex sentinel receipt).mapError receiptError
  checkVersion rt .lifecycleVersion (field stored "lifecycleVersion".toList) lifecycleVersion
  checkVersion rt .receiptSchemaVersion (field receipt "schemaVersion".toList) receiptVersion
  let storedBinding ← (validateReviewBinding sentinel (field stored "binding".toList)).mapError
    (.store .bindingInvalid)
  checkState stored receipt
  corruptIf (stableJsonSorted rt storedBinding.value ≠ stableJsonSorted rt binding.value)
    .recordReceiptMismatch "binding".toList
  corruptIf (!isOne (field stored "transitionCount".toList)) .recordReceiptMismatch
    "transitionCount".toList
  let identity := reviewIdentity rt sha256Hex binding
  corruptIf (!isText (field envelope "reviewIdentity".toList) identity) .identityMismatch
    "envelope".toList
  corruptIf (parsedName.2 ≠ identity) .identityMismatch "file name".toList
  corruptIf (!isText (field envelope "findingId".toList) binding.findingId) .identityMismatch
    "findingId".toList
  corruptIf (parsedName.1 ≠ findingDiscoveryKey sha256Hex binding.findingId) .identityMismatch
    "discovery key".toList
  return envelope

structure PutReviewDecisionInput where
  binding : JsValue
  decision : FindingReviewDecision
  reviewedAt : JsString
  storedAt : JsString
  rationale : Option JsString
  reasonCode : Option JsString

/-- What `putDecision` is about to publish: the file and the stored envelope. -/
def prepareDecision (input : PutReviewDecisionInput) : Except ReviewError (JsString × Fields) := do
  let binding ← (validateReviewBinding sentinel input.binding).mapError .plain
  corruptIf (!isInstant input.storedAt) .corrupt "storedAt".toList
  let decided ← (decideReview rt sha256Hex sentinel binding input.decision input.reviewedAt
    input.rationale input.reasonCode).mapError .plain
  let envelope : Fields := [("schemaVersion".toList, .str schemaVersion),
    ("reviewIdentity".toList, .str (reviewIdentity rt sha256Hex binding)),
    ("findingId".toList, .str binding.findingId), ("receipt".toList, .obj decided.2),
    ("record".toList, .obj decided.1), ("storedAt".toList, .str input.storedAt),
    ("status".toList, .str "READY".toList)]
  let fileName := reviewFileName rt sha256Hex binding
  let checked ← validateStoredReviewEnvelope rt sha256Hex sentinel (.obj envelope) fileName
  return (fileName, checked)

end Envelopes

section Reading

inductive ReviewStoreReadState where
  | noReview
  | current
  | stale
  | versionUnsupported
  | corrupt

structure ReviewStoreReadResult where
  state : ReviewStoreReadState
  envelope : Option Fields
  staleReason : Option JsString
  corruption : List (JsString × ReviewStoreErrorCode × JsString)
  unsupported : List (JsString × VersionedField × JsString)
  generations : List Fields

/-- What `read` has found so far. -/
structure Findings where
  corruption : List (JsString × ReviewStoreErrorCode × JsString)
  unsupported : List (JsString × VersionedField × JsString)
  generations : List Fields
  currentEnvelope : Option Fields
  staleEnvelope : Option (Fields × JsString)

variable (rt : Runtime) (sha256Hex : JsString → JsString) (sentinel : JsString → Bool)
  (findingId : JsString) (current : CurrentReviewArtifacts)

def Findings.addCorrupt (found : Findings) (fileName : JsString) (code : ReviewStoreErrorCode)
    (detail : JsString) : Findings :=
  { found with corruption := found.corruption ++ [(fileName, code, detail)] }

def Findings.addInvalid (found : Findings) (fileName : JsString) : ReviewError → Findings
  | .plain message => found.addCorrupt fileName .corrupt message
  | .store code detail => found.addCorrupt fileName code detail
  | .unsupported versioned version =>
      { found with unsupported := found.unsupported ++ [(fileName, versioned, version)] }

def receiptOf (envelope : Fields) : Fields :=
  match field envelope "receipt".toList with
  | .obj receipt => receipt
  | _ => []

def Findings.addEnvelope (found : Findings) (fileName : JsString) (envelope : Fields) : Findings :=
  if !isText (field envelope "findingId".toList) findingId then
    found.addCorrupt fileName .identityMismatch "envelope belongs to another finding".toList
  else
    let found := { found with generations := found.generations ++ [envelope] }
    match verifyReviewCurrent rt sha256Hex sentinel (receiptOf envelope) current with
    | .ok () => { found with currentEnvelope := found.currentEnvelope.or (some envelope) }
    | .error message =>
        if startsWith message "FINDING_REVIEW_STALE".toList then
          { found with staleEnvelope := found.staleEnvelope.or (some (envelope, message)) }
        else found.addCorrupt fileName .corrupt message

def Findings.addFile (found : Findings) (file : JsString × Except JsString JsValue) : Findings :=
  match file.2 with
  | .error message => found.addCorrupt file.1 .corrupt message
  | .ok .null => found
  | .ok raw =>
      match validateStoredReviewEnvelope rt sha256Hex sentinel raw file.1 with
      | .ok envelope =>
          found.addEnvelope rt sha256Hex sentinel findingId current file.1 envelope
      | .error error => found.addInvalid file.1 error

def resultOf (found : Findings) : ReviewStoreReadResult :=
  match found.currentEnvelope, found.staleEnvelope with
  | some envelope, _ =>
      ⟨.current, some envelope, none, found.corruption, found.unsupported, found.generations⟩
  | none, some (envelope, reason) =>
      ⟨.stale, some envelope, some reason, found.corruption, found.unsupported, found.generations⟩
  | none, none =>
      ⟨if 0 < found.corruption.length then .corrupt
        else if 0 < found.unsupported.length then .versionUnsupported
        else .noReview,
        none, none, found.corruption, found.unsupported, found.generations⟩

/-- What `read` returns for the files it has read. -/
def readResult (files : List (JsString × Except JsString JsValue)) : ReviewStoreReadResult :=
  resultOf (files.foldl (Findings.addFile rt sha256Hex sentinel findingId current)
    ⟨[], [], [], none, none⟩)

end Reading

section Directory

inductive File where
  | plain (content : JsString)
  | unsafe_ (message : JsString)

structure Reading where
  findingId : JsString
  current : CurrentReviewArtifacts
  pending : List JsString
  files : List (JsString × Except JsString JsValue)

/-- Where a call of `putDecision` stands. -/
inductive Writing where
  | prepared (fileName : JsString) (envelope : Fields)
  | linked (fileName : JsString) (envelope : Fields)
  | ended

structure World where
  files : JsString → Option File
  names : List JsString
  published : List JsString
  writers : Nat → Option Writing
  readers : Nat → Option (Option Reading)

inductive Event where
  | prepared (writer : Nat) (input : PutReviewDecisionInput)
  | linked (writer : Nat) (fileName : JsString) (envelope : Fields)
  | alreadyDecided (writer : Nat)
  | threw (writer : Nat)
  | stored (writer : Nat) (fileName : JsString) (envelope : Fields)
  | changed (name : JsString) (file : Option File)
  | listed (reader : Nat) (findingId : JsString) (current : CurrentReviewArtifacts)
      (listing : Option (JsString → List JsString))
  | opened (reader : Nat)
  | returned (reader : Nat) (result : ReviewStoreReadResult)

def isArtifactName (name : JsString) : Bool :=
  endsWith name ".json".toList && !includes name "..".toList &&
    match (name.take (name.length - 5)) with
    | [] => false
    | first :: rest => first.isAlphanum && rest.length ≤ 160 && rest.all (isWord "._-")

variable (rt : Runtime) (sha256Hex : JsString → JsString) (sentinel : JsString → Bool)
  (parseJson : JsString → Option JsValue)

def payload (envelope : Fields) : JsString := stringifyLines (.obj envelope) ++ ['\n']

def readJson (files : JsString → Option File) (name : JsString) : Except JsString JsValue :=
  if !isArtifactName name then .error "PRIVATE_ARTIFACT_FILE_NAME_UNSAFE".toList
  else
    match files name with
    | none => .ok .null
    | some (.unsafe_ message) => .error message
    | some (.plain content) =>
        match parseJson content with
        | some value => .ok value
        | none => .error "PRIVATE_ARTIFACT_CORRUPT".toList

def listJson (world : World) (start : JsString) : List JsString :=
  (world.names.filter fun name => isArtifactName name && startsWith name start).insertionSort
    fun a b => rt.localeLe a b = true

def fileNamesFor (world : World) (findingId : JsString)
    (listing : Option (JsString → List JsString)) : List JsString :=
  match listing with
  | some byDiscoveryKey => byDiscoveryKey (findingDiscoveryKey sha256Hex findingId)
  | none => listJson rt world (reviewFileNamePrefix sha256Hex findingId)

def World.setWriter (world : World) (writer : Nat) (writing : Writing) : World :=
  { world with writers := Function.update world.writers writer (some writing) }

def World.setReader (world : World) (reader : Nat) (reading : Option Reading) : World :=
  { world with readers := Function.update world.readers reader (some reading) }

def World.setFile (world : World) (name : JsString) (file : Option File) : World :=
  { world with
    files := Function.update world.files name file
    names := if file.isSome then name :: world.names.filter (· ≠ name)
      else world.names.filter (· ≠ name) }

/-- Publishing is one atomic step that an existing file refuses; nothing but the store touches the
names it has published. -/
inductive Step : World → Event → World → Prop
  | prepared {world : World} {writer : Nat} {input : PutReviewDecisionInput} {fileName : JsString}
      {envelope : Fields} (hfresh : world.writers writer = none)
      (hprepared : prepareDecision rt sha256Hex sentinel input = .ok (fileName, envelope)) :
      Step world (.prepared writer input) (world.setWriter writer (.prepared fileName envelope))
  | linked {world : World} {writer : Nat} {fileName : JsString} {envelope : Fields}
      (hprepared : world.writers writer = some (.prepared fileName envelope))
      (hname : isArtifactName fileName = true) (habsent : world.files fileName = none) :
      Step world (.linked writer fileName envelope)
        { (world.setFile fileName (some (.plain (payload envelope)))).setWriter writer
            (.linked fileName envelope) with
          published := fileName :: world.published }
  | alreadyDecided {world : World} {writer : Nat} {fileName : JsString} {envelope : Fields}
      (hprepared : world.writers writer = some (.prepared fileName envelope))
      (hthere : (world.files fileName).isSome = true) :
      Step world (.alreadyDecided writer) (world.setWriter writer .ended)
  | threw {world : World} {writer : Nat} {writing : Writing}
      (hwriting : world.writers writer = some writing) :
      Step world (.threw writer) (world.setWriter writer .ended)
  | stored {world : World} {writer : Nat} {fileName : JsString} {envelope : Fields}
      (hlinked : world.writers writer = some (.linked fileName envelope)) :
      Step world (.stored writer fileName envelope) (world.setWriter writer .ended)
  | changed {world : World} {name : JsString} {file : Option File}
      (hother : name ∉ world.published) :
      Step world (.changed name file) (world.setFile name file)
  | listed {world : World} {reader : Nat} {findingId : JsString} {current : CurrentReviewArtifacts}
      {listing : Option (JsString → List JsString)} (hfresh : world.readers reader = none)
      (hfinding : findingId ≠ []) :
      Step world (.listed reader findingId current listing)
        (world.setReader reader (some
          ⟨findingId, current, fileNamesFor rt sha256Hex world findingId listing, []⟩))
  | opened {world : World} {reader : Nat} {reading : Reading} {name : JsString}
      {rest : List JsString} (hreading : world.readers reader = some (some reading))
      (hpending : reading.pending = name :: rest) :
      Step world (.opened reader) (world.setReader reader (some
        { reading with
          pending := rest
          files := reading.files ++ [(name, readJson parseJson world.files name)] }))
  | returned {world : World} {reader : Nat} {reading : Reading}
      (hreading : world.readers reader = some (some reading)) (hdone : reading.pending = []) :
      Step world (.returned reader (readResult rt sha256Hex sentinel reading.findingId
        reading.current reading.files)) (world.setReader reader none)

def start (files : List (JsString × File)) : World :=
  ⟨fun name => files.lookup name, (files.map Prod.fst).dedup, [], fun _ => none, fun _ => none⟩

def reviewStore (files : List (JsString × File)) : System World Event where
  start := start files
  step := Step rt sha256Hex sentinel parseJson

end Directory

end NightWatch.ReviewStore.Store
