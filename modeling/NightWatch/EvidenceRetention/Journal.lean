import NightWatch.Lib.Threads
import NightWatch.EvidenceRetention.Records

namespace NightWatch.EvidenceRetention.Journal

open Lib.JsText Lib.Json Lib.Threads EvidenceRetention.Records

def preparedFileName (operationId : JsString) : JsString := operationId ++ ".prepared.json".toList

def terminalFileName (operationId : JsString) : JsString := operationId ++ ".terminal.json".toList

def temporaryName (stamp : JsString) : JsString :=
  ".retention-journal-".toList ++ stamp ++ ".tmp".toList

structure Node where
  owner : Nat
  bytes : JsString

/-- The names of the journal root, and the files they lead to. Linking gives a file a
second name; a file without names stays, unreachable. -/
structure Directory where
  names : JsString → Option Nat
  nodes : List Node

def Directory.empty : Directory := ⟨fun _ => none, []⟩

def Directory.setName (dir : Directory) (name : JsString) (target : Option Nat) : Directory :=
  { dir with names := Function.update dir.names name target }

def Directory.create (dir : Directory) (name : JsString) (owner : Nat) : Directory where
  names := Function.update dir.names name (some dir.nodes.length)
  nodes := dir.nodes ++ [⟨owner, []⟩]

def Directory.write (dir : Directory) (node : Nat) (bytes : JsString) : Directory :=
  { dir with nodes := dir.nodes.modify node fun file => { file with bytes := bytes } }

def Directory.node (dir : Directory) (name : JsString) : Option Node := do
  dir.nodes[← dir.names name]?

def Directory.content (dir : Directory) (name : JsString) : Option JsString :=
  (dir.node name).map Node.bytes

structure Stat where
  regularFile : Bool
  size : Nat

inductive LinkReply where
  | linked
  | exists
  | unsupported
  | failed

inductive FsOp where
  | ensureJournalRoot
  | openExclusive (name : JsString)
  | writeAndSync (node : Nat) (bytes : JsString)
  | close (node : Nat)
  | existsSync (name : JsString)
  | unlink (name : JsString)
  | lstat (name : JsString)
  | link (source destination : JsString)
  | readFile (name : JsString)
  | syncDirectory

abbrev FsOp.Reply : FsOp → Type
  | ensureJournalRoot => Bool
  | openExclusive _ => Option Nat
  | writeAndSync _ _ => Bool
  | close _ => Bool
  | existsSync _ => Bool
  | unlink _ => Bool
  | lstat _ => Option Stat
  | link _ _ => LinkReply
  | readFile _ => Option JsString
  | syncDirectory => Bool

/-- What an operation may report and leave. A write that fails may leave any bytes. -/
inductive Perform (thread : Nat) : (op : FsOp) → Directory → op.Reply → Directory → Prop
  | root (ok : Bool) (dir : Directory) : Perform thread .ensureJournalRoot dir ok dir
  | opened {dir : Directory} {name : JsString} (hfree : dir.names name = none) :
      Perform thread (.openExclusive name) dir (some dir.nodes.length) (dir.create name thread)
  | openFailed (dir : Directory) (name : JsString) :
      Perform thread (.openExclusive name) dir none dir
  | written (dir : Directory) (node : Nat) (bytes : JsString) :
      Perform thread (.writeAndSync node bytes) dir true (dir.write node bytes)
  | writeFailed (dir : Directory) (node : Nat) (bytes left : JsString) :
      Perform thread (.writeAndSync node bytes) dir false (dir.write node left)
  | closed (ok : Bool) (dir : Directory) (node : Nat) : Perform thread (.close node) dir ok dir
  | found {dir : Directory} {name : JsString} {node : Nat} (hname : dir.names name = some node) :
      Perform thread (.existsSync name) dir true dir
  | missing (dir : Directory) (name : JsString) : Perform thread (.existsSync name) dir false dir
  | unlinked (dir : Directory) (name : JsString) :
      Perform thread (.unlink name) dir true (dir.setName name none)
  | unlinkFailed (dir : Directory) (name : JsString) : Perform thread (.unlink name) dir false dir
  | measured {dir : Directory} {name : JsString} {file : Node} (hnode : dir.node name = some file) :
      Perform thread (.lstat name) dir (some ⟨true, byteLength file.bytes⟩) dir
  | unmeasured (dir : Directory) (name : JsString) : Perform thread (.lstat name) dir none dir
  | linked {dir : Directory} {source destination : JsString} {node : Nat}
      (hsource : dir.names source = some node) (hfree : dir.names destination = none) :
      Perform thread (.link source destination) dir .linked (dir.setName destination (some node))
  | linkExists {dir : Directory} {source destination : JsString} {node : Nat}
      (htaken : dir.names destination = some node) :
      Perform thread (.link source destination) dir .exists dir
  | linkUnsupported (dir : Directory) (source destination : JsString) :
      Perform thread (.link source destination) dir .unsupported dir
  | linkFailed (dir : Directory) (source destination : JsString) :
      Perform thread (.link source destination) dir .failed dir
  | read {dir : Directory} {name : JsString} {bytes : JsString}
      (hcontent : dir.content name = some bytes) :
      Perform thread (.readFile name) dir (some bytes) dir
  | unreadable (dir : Directory) (name : JsString) : Perform thread (.readFile name) dir none dir
  | synced (ok : Bool) (dir : Directory) : Perform thread .syncDirectory dir ok dir

def fileSystem : Effects Directory where
  Op := FsOp
  Reply := FsOp.Reply
  perform := Perform

def answer (thread : Nat) : (op : FsOp) → Directory → op.Reply × Directory
  | .ensureJournalRoot, dir => (true, dir)
  | .openExclusive name, dir =>
      match dir.names name with
      | none => (some dir.nodes.length, dir.create name thread)
      | some _ => (none, dir)
  | .writeAndSync node bytes, dir => (true, dir.write node bytes)
  | .close _, dir => (true, dir)
  | .existsSync name, dir => ((dir.names name).isSome, dir)
  | .unlink name, dir => (true, dir.setName name none)
  | .lstat name, dir => ((dir.node name).map fun file => ⟨true, byteLength file.bytes⟩, dir)
  | .link source destination, dir =>
      match dir.names source, dir.names destination with
      | some node, none => (.linked, dir.setName destination (some node))
      | _, some _ => (.exists, dir)
      | none, none => (.failed, dir)
  | .readFile name, dir => (dir.content name, dir)
  | .syncDirectory, dir => (true, dir)

abbrev Fs (α : Type) : Type := Program fileSystem α

def runAlone {α : Type} (thread : Nat) (p : Fs α) (dir : Directory) : α × Directory :=
  p.evaluate (answer thread) dir

theorem runAlone_bind {α β : Type} (thread : Nat) (p : Fs α) (f : α → Fs β) (dir : Directory) :
    runAlone thread (p >>= f) dir = runAlone thread (f (runAlone thread p dir).1)
      (runAlone thread p dir).2 :=
  Program.evaluate_bind p f dir

def ensureJournalRoot : Fs Bool := .call (E := fileSystem) .ensureJournalRoot .done

def openExclusive (name : JsString) : Fs (Option Nat) :=
  .call (E := fileSystem) (.openExclusive name) .done

def writeAndSync (node : Nat) (bytes : JsString) : Fs Bool :=
  .call (E := fileSystem) (.writeAndSync node bytes) .done

def close (node : Nat) : Fs Bool := .call (E := fileSystem) (.close node) .done

def existsSync (name : JsString) : Fs Bool := .call (E := fileSystem) (.existsSync name) .done

def unlink (name : JsString) : Fs Bool := .call (E := fileSystem) (.unlink name) .done

def lstat (name : JsString) : Fs (Option Stat) := .call (E := fileSystem) (.lstat name) .done

def link (source destination : JsString) : Fs LinkReply :=
  .call (E := fileSystem) (.link source destination) .done

def readFile (name : JsString) : Fs (Option JsString) :=
  .call (E := fileSystem) (.readFile name) .done

def syncDirectory : Fs Bool := .call (E := fileSystem) .syncDirectory .done

inductive RetentionJournalFailure where
  | operationIdInvalid
  | candidatesInvalid
  | targetsInvalid
  | rootUnusable
  | recordWriteFailed
  | recordVerificationFailed
  | operationNotFound
  | operationAlreadyPrepared
  | operationAlreadyTerminal

inductive PublishOutcome where
  | published
  | destinationExists
  | recordWriteFailed
  | commitUnsupported
  deriving DecidableEq

def discard (temporary : JsString) : Fs Unit := do
  if ← existsSync temporary then
    let _ ← unlink temporary
    pure ()
  else pure ()

def commitStaged (temporary destination : JsString) : Fs PublishOutcome := do
  match ← link temporary destination with
  | .linked =>
      discard temporary
      let _ ← syncDirectory
      pure .published
  | .exists =>
      discard temporary
      pure .destinationExists
  | .unsupported =>
      discard temporary
      pure .commitUnsupported
  | .failed =>
      discard temporary
      pure .recordWriteFailed

def checkStaged (temporary destination bytes : JsString) : Fs PublishOutcome := do
  let staged ← lstat temporary
  if staged.any fun stat => stat.regularFile && stat.size == byteLength bytes then
    let existing ← lstat destination
    if existing.all Stat.regularFile then
      commitStaged temporary destination
    else
      discard temporary
      pure .destinationExists
  else
    discard temporary
    pure .recordWriteFailed

def publishRecord (stamp fileName : JsString) (record : Fields) : Fs PublishOutcome := do
  match ← openExclusive (temporaryName stamp) with
  | none => pure .recordWriteFailed
  | some descriptor =>
      if ← writeAndSync descriptor (recordText record) then
        if ← close descriptor then
          checkStaged (temporaryName stamp) fileName (recordText record)
        else
          discard (temporaryName stamp)
          pure .recordWriteFailed
      else
        let _ ← close descriptor
        discard (temporaryName stamp)
        pure .recordWriteFailed

def readRecordFile (fileName : JsString) : Fs (Option Fields) := do
  let stat ← lstat fileName
  if stat.any Stat.regularFile then
    let bytes ← readFile fileName
    pure (bytes.bind parseRecord)
  else pure none

def prepareRetentionOperation (stamp : JsString) (intent : RetentionOperationIntent) :
    Fs (Except RetentionJournalFailure Fields) :=
  if isOperationId intent.operationId then
    if assertCandidates intent.candidates then do
      if ← ensureJournalRoot then
        let record := (preparedRecord intent).fields
        match ← publishRecord stamp (preparedFileName intent.operationId) record with
        | .published => pure (.ok record)
        | .destinationExists => pure (.error .operationAlreadyPrepared)
        | .recordWriteFailed => pure (.error .recordWriteFailed)
        | .commitUnsupported => pure (.error .recordWriteFailed)
      else pure (.error .rootUnusable)
    else pure (.error .candidatesInvalid)
  else pure (.error .operationIdInvalid)

def verifyRecord (fileName : JsString) (record : Fields) :
    Fs (Except RetentionJournalFailure Fields) := do
  let observed ← readRecordFile fileName
  if observed.any fun fields => text (.obj fields) == text (.obj record) then pure (.ok record)
  else pure (.error .recordVerificationFailed)

def finalizeRetentionOperation (stamp operationId : JsString)
    (targets : List RetentionJournalTarget) : Fs (Except RetentionJournalFailure Fields) :=
  if isOperationId operationId then
    if assertTargets targets then do
      match ← readRecordFile (preparedFileName operationId) with
      | none => pure (.error .operationNotFound)
      | some prepared =>
          if isTerminal prepared then pure (.error .operationAlreadyTerminal)
          else
            let record := finalFields prepared targets
            match ← publishRecord stamp (terminalFileName operationId) record with
            | .published => verifyRecord (terminalFileName operationId) record
            | .destinationExists => pure (.error .operationAlreadyTerminal)
            | .recordWriteFailed => pure (.error .recordWriteFailed)
            | .commitUnsupported => pure (.error .recordWriteFailed)
    else pure (.error .targetsInvalid)
  else pure (.error .operationIdInvalid)

def readRetentionOperation (operationId : JsString) : Fs (Option Fields) :=
  if isOperationId operationId then do
    match ← readRecordFile (terminalFileName operationId) with
    | some record => pure (some record)
    | none => readRecordFile (preparedFileName operationId)
  else pure none

def hasIncompleteRetentionOperation (operationId : JsString) : Fs Bool := do
  let record ← readRetentionOperation operationId
  pure (record.any fun fields => !isTerminal fields)

inductive Call where
  | prepare (stamp : JsString) (intent : RetentionOperationIntent)
  | finalize (stamp operationId : JsString) (targets : List RetentionJournalTarget)

def Call.program : Call → Fs (Except RetentionJournalFailure Fields)
  | prepare stamp intent => prepareRetentionOperation stamp intent
  | finalize stamp operationId targets => finalizeRetentionOperation stamp operationId targets

def journal : NightWatch.Lib.Machine.System
    (Pool fileSystem (Except RetentionJournalFailure Fields) Call) (Event Call) :=
  system Call.program Directory.empty

end NightWatch.EvidenceRetention.Journal
