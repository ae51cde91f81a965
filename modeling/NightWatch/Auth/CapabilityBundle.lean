import NightWatch.Lib.JsText

/-!
The authentication bundle of `auth/capabilityLifecycle.ts`: an artefact and its lifecycle
record, published together by two renames behind a journal, the recovery of an interrupted
publication, and the check that a lane makes before it uses the pair.
-/

namespace NightWatch.Auth.CapabilityBundle

open Lib.JsText

abbrev Path := JsString

inductive AuthCapabilityEnvironment where
  | dev
  | next
  | local
  deriving DecidableEq

structure AuthCapabilityRecord where
  /-- The parsed instant, in milliseconds. -/
  captureInstant : ℚ
  environment : AuthCapabilityEnvironment
  origin : JsString
  earliestCookieExpiry : Option ℚ
  validityWindowMs : ℚ
  artefactDigest : JsString

structure BundleJournal where
  artefactStaged : Path
  artefactFinal : Path
  artefactDigest : JsString
  recordStaged : Path
  recordFinal : Path
  recordDigest : JsString
  deriving DecidableEq

inductive Content where
  | bytes (b : JsString)
  | journal (j : BundleJournal)
  deriving DecidableEq

abbrev Files := Path → Option Content

/-- What `inspectStorageStateCookieApplicability` says about an artefact. -/
structure CookieApplicability where
  applicableExpired : Bool
  earliestApplicableExpiryEpochSeconds : Option ℚ

/-- What the module uses of others: the hash of bytes, the redacted text of a record (none where
refused), the strict reader of records, and the inspection of an artefact's cookies for an origin at
an instant in seconds (none where it throws). -/
structure Codec where
  sha256Hex : JsString → JsString
  serializeRedactedRecord : AuthCapabilityRecord → Option JsString
  parseAuthCapabilityRecord : JsString → Option AuthCapabilityRecord
  inspectArtefact : JsString → JsString → ℤ → Option CookieApplicability

def Codec.digest (codec : Codec) (b : JsString) : JsString :=
  "sha256:".toList ++ (codec.sha256Hex b).take 24

def authLifecycleRecordPath (artefactPath : Path) : Path :=
  artefactPath ++ ".auth-lifecycle.json".toList

def authBundleJournalPath (artefactPath : Path) : Path :=
  artefactPath ++ ".nightwatch-bundle-transaction".toList

/-- `path.dirname`. -/
def dirname (path : Path) : Path := ((splitLast '/' path).map Prod.fst).getD ['.']

theorem record_ne_artefact (p : Path) : authLifecycleRecordPath p ≠ p := by
  intro h
  simp [authLifecycleRecordPath] at h

theorem journal_ne_artefact (p : Path) : authBundleJournalPath p ≠ p := by
  intro h
  simp [authBundleJournalPath] at h

theorem journal_ne_record (p : Path) : authBundleJournalPath p ≠ authLifecycleRecordPath p := by
  intro h
  have hsuffix := List.append_cancel_left h
  revert hsuffix
  decide

section Publication

inductive FsStep where
  | write (path : Path) (content : Content)
  | chmod (path : Path)
  | rename (source target : Path)
  | unlink (path : Path)
  | syncDirectory (path : Path)
  deriving DecidableEq

def FsStep.perform (step : FsStep) (files : Files) : Files :=
  match step with
  | .write path content => Function.update files path (some content)
  | .chmod _ | .syncDirectory _ => files
  | .rename source target =>
      Function.update (Function.update files target (files source)) source none
  | .unlink path => Function.update files path none

/-- A call of `publishAuthCapabilityBundle`, its paths resolved. The staged artefact and the
random name of the staged record are none of the files of the bundle. -/
structure PublishAuthCapabilityBundleInput where
  stagedArtefactPath : Path
  outputPath : Path
  record : AuthCapabilityRecord
  recordStaged : Path
  resolved : ∀ path ∈ [stagedArtefactPath, outputPath, recordStaged], path.head? = some '/'
  artefact_fresh : stagedArtefactPath ∉
    [outputPath, authLifecycleRecordPath outputPath, authBundleJournalPath outputPath]
  record_fresh : recordStaged ∉ [outputPath, authLifecycleRecordPath outputPath,
    authBundleJournalPath outputPath, stagedArtefactPath]

variable (codec : Codec)

/-- `digestOfFile`; nothing where reading throws. -/
def digestOfFile (files : Files) (file : Path) : Option JsString :=
  match files file with
  | some (.bytes b) => some (codec.digest b)
  | _ => none

def bundleJournal (input : PublishAuthCapabilityBundleInput) (artefactDigest : JsString)
    (recordContent : JsString) : BundleJournal :=
  { artefactStaged := input.stagedArtefactPath
    artefactFinal := input.outputPath
    artefactDigest
    recordStaged := input.recordStaged
    recordFinal := authLifecycleRecordPath input.outputPath
    recordDigest := codec.digest recordContent }

def publishSteps (input : PublishAuthCapabilityBundleInput) (journal : BundleJournal)
    (recordContent : JsString) : List FsStep :=
  [.write input.recordStaged (.bytes recordContent),
    .write (authBundleJournalPath input.outputPath) (.journal journal),
    .chmod input.stagedArtefactPath,
    .rename input.stagedArtefactPath input.outputPath,
    .rename input.recordStaged (authLifecycleRecordPath input.outputPath),
    .unlink (authBundleJournalPath input.outputPath),
    .syncDirectory (dirname input.outputPath)]

/-- `publishAuthCapabilityBundle` up to its first write: the refusals, or the calls that it
makes. -/
def publishAuthCapabilityBundle (files : Files) (input : PublishAuthCapabilityBundleInput) :
    Except String (List FsStep) :=
  let artefactFinal := input.outputPath
  if dirname input.stagedArtefactPath ≠ dirname artefactFinal then
    throw "AUTH_BUNDLE_STAGING_DIRECTORY"
  else if dirname (authLifecycleRecordPath artefactFinal) ≠ dirname artefactFinal then
    throw "AUTH_BUNDLE_STAGING_DIRECTORY"
  else
    match digestOfFile codec files input.stagedArtefactPath with
    | none => throw "ENOENT"
    | some artefactDigest =>
        if artefactDigest ≠ input.record.artefactDigest then throw "AUTH_BUNDLE_DIGEST_MISMATCH"
        else
          match codec.serializeRedactedRecord input.record with
          | none => throw "AUTH_LIFECYCLE_RECORD_REDACTION_REFUSED"
          | some recordContent =>
              pure (publishSteps input (bundleJournal codec input artefactDigest recordContent)
                recordContent)

def holdsDigest (files : Files) (file : Path) (digest : JsString) : Bool :=
  digestOfFile codec files file = some digest

def completeSteps (artefactPath : Path) (journal : BundleJournal) : List FsStep :=
  [.chmod journal.artefactStaged, .rename journal.artefactStaged journal.artefactFinal,
    .rename journal.recordStaged journal.recordFinal,
    .unlink (authBundleJournalPath artefactPath)]

/-- `recoverAuthCapabilityBundle` up to its first call: nothing to do, the calls that it
makes, or its refusal. -/
def recoverAuthCapabilityBundle (files : Files) (artefactPath : Path) :
    Except String (List FsStep) :=
  match files (authBundleJournalPath artefactPath) with
  | none => pure []
  | some (.bytes _) => throw "AUTH_BUNDLE_RECOVERY_REFUSED:JOURNAL_MALFORMED"
  | some (.journal journal) =>
      if [journal.artefactStaged, journal.artefactFinal, journal.artefactDigest,
          journal.recordStaged, journal.recordFinal, journal.recordDigest].any
            (fun field => trim field = []) then
        throw "AUTH_BUNDLE_RECOVERY_REFUSED:JOURNAL_FIELD"
      else if holdsDigest codec files journal.artefactStaged journal.artefactDigest ∧
          holdsDigest codec files journal.recordStaged journal.recordDigest then
        pure (completeSteps artefactPath journal)
      else if holdsDigest codec files journal.artefactFinal journal.artefactDigest ∧
          holdsDigest codec files journal.recordFinal journal.recordDigest then
        pure [.unlink (authBundleJournalPath artefactPath)]
      else throw "AUTH_BUNDLE_RECOVERY_REFUSED:STAGED_BYTES_UNAVAILABLE"

end Publication

section Preflight

inductive AuthCapabilityState where
  | valid
  | expired
  | wrongEnvironment
  | unknownAge
  | missing
  | unreadable
  deriving DecidableEq

structure AuthCapabilityPreflightInput where
  artefactPath : Path
  environment : AuthCapabilityEnvironment
  targetOrigin : Option JsString
  /-- The clock, in milliseconds. -/
  now : ℤ

structure AuthCapabilityPreflightResult where
  state : AuthCapabilityState
  refusalDetail : Option JsString

def AuthCapabilityEnvironment.text : AuthCapabilityEnvironment → JsString
  | .dev => "dev".toList
  | .next => "next".toList
  | .local => "local".toList

def refusal (state : AuthCapabilityState) (detail : JsString) : AuthCapabilityPreflightResult :=
  ⟨state, some detail⟩

variable (codec : Codec)

def bytesOf : Content → Option JsString
  | .bytes b => some b
  | .journal _ => none

/-- The branches of `evaluateAuthCapabilityPreflight` after the record is read. -/
def evaluateRecord (artefact : Content) (record : AuthCapabilityRecord)
    (input : AuthCapabilityPreflightInput) : AuthCapabilityPreflightResult :=
  match (bytesOf artefact).bind fun b =>
      (codec.inspectArtefact b record.origin (input.now / 1000)).map fun found => (b, found) with
  | none => refusal .unreadable "the artefact is unreadable or not a storage state".toList
  | some (bytes, found) =>
      if codec.digest bytes ≠ record.artefactDigest then
        refusal .unknownAge
          "the artefact has changed since its lifecycle record was written".toList
      else if record.environment ≠ input.environment ∨
          (input.targetOrigin.isSome ∧ input.targetOrigin ≠ some record.origin) then
        refusal .wrongEnvironment
          (match input.targetOrigin with
          | none => "captured for ".toList ++ record.environment.text ++ ", required for ".toList ++
              input.environment.text
          | some targetOrigin => "captured for ".toList ++ record.environment.text ++
              " at ".toList ++ record.origin ++ ", required for ".toList ++
              input.environment.text ++ " at ".toList ++ targetOrigin)
      else
        let windowEndMs := record.captureInstant + record.validityWindowMs
        let cookieExpiryMs :=
          match found.earliestApplicableExpiryEpochSeconds with
          | none => record.earliestCookieExpiry.map (· * 1000)
          | some seconds => some (seconds * 1000)
        if windowEndMs ≤ input.now ∨ found.applicableExpired = true ∨
            (cookieExpiryMs.any fun ms => decide (ms ≤ (input.now : ℚ))) = true then
          refusal .expired
            "the declared validity window or an applicable cookie has elapsed".toList
        else ⟨.valid, none⟩

def evaluateAuthCapabilityPreflight (files : Files) (input : AuthCapabilityPreflightInput) :
    AuthCapabilityPreflightResult :=
  match files input.artefactPath with
  | none => refusal .missing "artefact file is absent".toList
  | some artefact =>
      match files (authLifecycleRecordPath input.artefactPath) with
      | none => refusal .unknownAge "no lifecycle record accompanies the artefact".toList
      | some recordFile =>
          match (bytesOf recordFile).bind codec.parseAuthCapabilityRecord with
          | none =>
              refusal .unreadable "the lifecycle record is malformed or unreadable".toList
          | some record => evaluateRecord codec artefact record input

def authBundleTransactionPending (files : Files) (artefactPath : Path) : Bool :=
  (files (authBundleJournalPath artefactPath)).isSome

/-- `requireValidAuthCapability`: the result where it is valid, a refusal where not. -/
def requireValidAuthCapability (files : Files) (input : AuthCapabilityPreflightInput) :
    Except JsString AuthCapabilityPreflightResult :=
  if authBundleTransactionPending files input.artefactPath then
    throw "AUTH_BUNDLE_TRANSACTION_PENDING".toList
  else
    let result := evaluateAuthCapabilityPreflight codec files input
    if result.state ≠ .valid then throw (result.refusalDetail.getD []) else pure result

end Preflight

end NightWatch.Auth.CapabilityBundle
