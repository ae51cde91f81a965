import NightWatch.Auth.CapabilityBundle
import NightWatch.Lib.StepFunction

/-!
A publication of the bundle that may throw or be cut between any two of its calls, followed
by recoveries that may be cut as well. Every cut but the one between the two renames falls
in a state that the next recovery resolves.
-/

namespace NightWatch.Auth.BundleRuns

open Lib.JsText Lib.Machine Lib.StepFunction Auth.CapabilityBundle

inductive Activity where
  | idle
  | publishing (todo : List FsStep)
  | recovering (todo : List FsStep)

inductive Ending where
  | published
  | publishThrew (beforeRename : Bool)
  | recovered
  | recoverThrew
  deriving DecidableEq

structure World where
  files : Files
  activity : Activity
  called : Bool
  ending : Option Ending

inductive Event where
  | publish
  | recover
  | step
  | throws
  | crash
  | finish

structure OldPair where
  artefact : Option JsString
  record : Option JsString
  both : artefact.isSome = record.isSome

section Steps

variable (codec : Codec) (input : PublishAuthCapabilityBundleInput)

def artefactRename : FsStep := .rename input.stagedArtefactPath input.outputPath

def recordRename : FsStep :=
  .rename input.recordStaged (authLifecycleRecordPath input.outputPath)

def next (w : World) (event : Event) : Option World :=
  match event, w.activity with
  | .publish, .idle =>
      if w.called then none
      else
        match publishAuthCapabilityBundle codec w.files input with
        | .error _ => some { w with called := true, ending := some (.publishThrew true) }
        | .ok todo => some { w with called := true, activity := .publishing todo, ending := none }
  | .recover, .idle =>
      match recoverAuthCapabilityBundle codec w.files input.outputPath with
      | .error _ => some { w with ending := some .recoverThrew }
      | .ok todo => some { w with activity := .recovering todo, ending := none }
  | .step, .publishing (call :: todo) =>
      some { w with files := call.perform w.files, activity := .publishing todo }
  | .step, .recovering (call :: todo) =>
      some { w with files := call.perform w.files, activity := .recovering todo }
  | .throws, .publishing (call :: todo) =>
      some { w with
        activity := .idle
        ending := some (.publishThrew (artefactRename input ∈ call :: todo)) }
  | .crash, .publishing _ | .crash, .recovering _ =>
      some { w with activity := .idle, ending := none }
  | .finish, .publishing [] => some { w with activity := .idle, ending := some .published }
  | .finish, .recovering [] => some { w with activity := .idle, ending := some .recovered }
  | _, _ => none

def Activity.todo : Activity → List FsStep
  | .idle => []
  | .publishing todo | .recovering todo => todo

/-- Whether the old record is, byte for byte, the one that is published. -/
def SameRecord (old : OldPair) : Prop :=
  old.record.isSome ∧ codec.serializeRedactedRecord input.record = old.record

instance (old : OldPair) : Decidable (SameRecord codec input old) :=
  inferInstanceAs (Decidable (_ ∧ _))

/-- The second rename is the next call. -/
def BetweenRenames (w : World) : Prop := w.activity.todo.head? = some (recordRename input)

/-- The journal is written and the first rename is not made. -/
def JournalPending (w : World) : Prop :=
  w.activity.todo.head? = some (.chmod input.stagedArtefactPath) ∨
    w.activity.todo.head? = some (artefactRename input)

/-- What a history must not do: be cut, or have its publication throw, between the two renames,
unless both records are the same; or throw between the journal and the first rename. -/
def fits (old : OldPair) (w : World) : Event → Prop
  | .crash => BetweenRenames input w → SameRecord codec input old
  | .throws => ¬JournalPending input w ∧ (BetweenRenames input w → SameRecord codec input old)
  | _ => True

instance (old : OldPair) (w : World) (event : Event) :
    Decidable (fits codec input old w event) := by
  cases event
  case crash => exact inferInstanceAs (Decidable (_ = _ → _))
  case throws => exact inferInstanceAs (Decidable (¬(_ = _ ∨ _ = _) ∧ (_ = _ → _)))
  all_goals exact inferInstanceAs (Decidable True)

/-- A directory with the old pair and no journal. -/
structure Untouched (old : OldPair) (files : Files) : Prop where
  artefact : files input.outputPath = old.artefact.map .bytes
  record : files (authLifecycleRecordPath input.outputPath) = old.record.map .bytes
  journal : files (authBundleJournalPath input.outputPath) = none

def history (files : Files) : System World Event :=
  ofFunction ⟨files, .idle, false, none⟩ (next codec input)

end Steps

section Phases

variable (codec : Codec) (input : PublishAuthCapabilityBundleInput) (old : OldPair)

/-- The artefact and the record that are published. -/
structure NewPair (bytes recordContent : JsString) : Prop where
  digest : codec.digest bytes = input.record.artefactDigest
  serialized : codec.serializeRedactedRecord input.record = some recordContent

variable (bytes recordContent : JsString)

def publishedJournal : BundleJournal := bundleJournal codec input (codec.digest bytes) recordContent

/-- The staged files and the journal are written, the pair is the old one. -/
structure Staged (files : Files) : Prop where
  artefact : files input.outputPath = old.artefact.map .bytes
  record : files (authLifecycleRecordPath input.outputPath) = old.record.map .bytes
  journal : files (authBundleJournalPath input.outputPath) =
    some (.journal (publishedJournal codec input bytes recordContent))
  stagedArtefact : files input.stagedArtefactPath = some (.bytes bytes)
  stagedRecord : files input.recordStaged = some (.bytes recordContent)

/-- The artefact is the new one, the record the old one. -/
structure Half (files : Files) : Prop where
  artefact : files input.outputPath = some (.bytes bytes)
  record : files (authLifecycleRecordPath input.outputPath) = old.record.map .bytes
  journal : files (authBundleJournalPath input.outputPath) =
    some (.journal (publishedJournal codec input bytes recordContent))
  stagedArtefact : files input.stagedArtefactPath = none
  stagedRecord : files input.recordStaged = some (.bytes recordContent)

/-- Both renames are made and the journal is there. -/
structure Renamed (files : Files) : Prop where
  artefact : files input.outputPath = some (.bytes bytes)
  record : files (authLifecycleRecordPath input.outputPath) = some (.bytes recordContent)
  journal : files (authBundleJournalPath input.outputPath) =
    some (.journal (publishedJournal codec input bytes recordContent))
  stagedArtefact : files input.stagedArtefactPath = none

/-- The new pair without a journal. -/
structure Closed (files : Files) : Prop where
  artefact : files input.outputPath = some (.bytes bytes)
  record : files (authLifecycleRecordPath input.outputPath) = some (.bytes recordContent)
  journal : files (authBundleJournalPath input.outputPath) = none

end Phases

section Paths

variable {input : PublishAuthCapabilityBundleInput}

theorem staged_ne_output : input.stagedArtefactPath ≠ input.outputPath := by
  have h := input.artefact_fresh
  simp only [List.mem_cons, not_or] at h
  exact h.1

theorem staged_ne_record : input.stagedArtefactPath ≠ authLifecycleRecordPath input.outputPath := by
  have h := input.artefact_fresh
  simp only [List.mem_cons, not_or] at h
  exact h.2.1

theorem staged_ne_journal : input.stagedArtefactPath ≠ authBundleJournalPath input.outputPath := by
  have h := input.artefact_fresh
  simp only [List.mem_cons, not_or] at h
  exact h.2.2.1

theorem recordStaged_ne_output : input.recordStaged ≠ input.outputPath := by
  have h := input.record_fresh
  simp only [List.mem_cons, not_or] at h
  exact h.1

theorem recordStaged_ne_record : input.recordStaged ≠ authLifecycleRecordPath input.outputPath := by
  have h := input.record_fresh
  simp only [List.mem_cons, not_or] at h
  exact h.2.1

theorem recordStaged_ne_journal : input.recordStaged ≠ authBundleJournalPath input.outputPath := by
  have h := input.record_fresh
  simp only [List.mem_cons, not_or] at h
  exact h.2.2.1

theorem recordStaged_ne_staged : input.recordStaged ≠ input.stagedArtefactPath := by
  have h := input.record_fresh
  simp only [List.mem_cons, not_or] at h
  exact h.2.2.2.1

end Paths

section Calls

variable {codec : Codec} {input : PublishAuthCapabilityBundleInput} {old : OldPair}
  {bytes recordContent : JsString} {files : Files}

theorem untouched_writeRecord (h : Untouched input old files) (content : Content) :
    Untouched input old ((FsStep.write input.recordStaged content).perform files) where
  artefact := (Function.update_of_ne recordStaged_ne_output.symm _ _).trans h.artefact
  record := (Function.update_of_ne recordStaged_ne_record.symm _ _).trans h.record
  journal := (Function.update_of_ne recordStaged_ne_journal.symm _ _).trans h.journal

theorem staged_writeJournal (h : Untouched input old files)
    (hartefact : files input.stagedArtefactPath = some (.bytes bytes))
    (hrecord : files input.recordStaged = some (.bytes recordContent)) :
    Staged codec input old bytes recordContent
      ((FsStep.write (authBundleJournalPath input.outputPath)
        (.journal (publishedJournal codec input bytes recordContent))).perform files) where
  artefact := (Function.update_of_ne (journal_ne_artefact _).symm _ _).trans h.artefact
  record := (Function.update_of_ne (journal_ne_record _).symm _ _).trans h.record
  journal := Function.update_self _ _ _
  stagedArtefact := (Function.update_of_ne staged_ne_journal _ _).trans hartefact
  stagedRecord := (Function.update_of_ne recordStaged_ne_journal _ _).trans hrecord

theorem half_rename (h : Staged codec input old bytes recordContent files) :
    Half codec input old bytes recordContent ((artefactRename input).perform files) where
  artefact := by
    change Function.update (Function.update files _ _) _ _ _ = _
    rw [Function.update_of_ne staged_ne_output.symm, Function.update_self, h.stagedArtefact]
  record := by
    change Function.update (Function.update files _ _) _ _ _ = _
    rw [Function.update_of_ne staged_ne_record.symm, Function.update_of_ne (record_ne_artefact _),
      h.record]
  journal := by
    change Function.update (Function.update files _ _) _ _ _ = _
    rw [Function.update_of_ne staged_ne_journal.symm,
      Function.update_of_ne (journal_ne_artefact _), h.journal]
  stagedArtefact := Function.update_self _ _ _
  stagedRecord := by
    change Function.update (Function.update files _ _) _ _ _ = _
    rw [Function.update_of_ne recordStaged_ne_staged, Function.update_of_ne recordStaged_ne_output,
      h.stagedRecord]

theorem renamed_rename (h : Half codec input old bytes recordContent files) :
    Renamed codec input bytes recordContent ((recordRename input).perform files) where
  artefact := by
    change Function.update (Function.update files _ _) _ _ _ = _
    rw [Function.update_of_ne recordStaged_ne_output.symm,
      Function.update_of_ne (record_ne_artefact _).symm, h.artefact]
  record := by
    change Function.update (Function.update files _ _) _ _ _ = _
    rw [Function.update_of_ne recordStaged_ne_record.symm, Function.update_self, h.stagedRecord]
  journal := by
    change Function.update (Function.update files _ _) _ _ _ = _
    rw [Function.update_of_ne recordStaged_ne_journal.symm,
      Function.update_of_ne (journal_ne_record _), h.journal]
  stagedArtefact := by
    change Function.update (Function.update files _ _) _ _ _ = _
    rw [Function.update_of_ne recordStaged_ne_staged.symm, Function.update_of_ne staged_ne_record,
      h.stagedArtefact]

theorem closed_unlink (h : Renamed codec input bytes recordContent files) :
    Closed input bytes recordContent
      ((FsStep.unlink (authBundleJournalPath input.outputPath)).perform files) where
  artefact := (Function.update_of_ne (journal_ne_artefact _).symm _ _).trans h.artefact
  record := (Function.update_of_ne (journal_ne_record _).symm _ _).trans h.record
  journal := Function.update_self _ _ _

theorem Half.renamed (h : Half codec input old bytes recordContent files)
    (hnew : NewPair codec input bytes recordContent) (hsame : SameRecord codec input old) :
    Renamed codec input bytes recordContent files where
  artefact := h.artefact
  record := by
    rw [h.record, ← hsame.2, hnew.serialized]
    rfl
  journal := h.journal
  stagedArtefact := h.stagedArtefact

end Calls

section Decisions

variable {codec : Codec} {input : PublishAuthCapabilityBundleInput} {old : OldPair}
  {bytes recordContent : JsString} {files : Files}

theorem trim_ne_nil {s : JsString} {c : Char} (hhead : s.head? = some c)
    (hc : isSpace c = false) : trim s ≠ [] := by
  cases s with
  | nil => contradiction
  | cons c' rest =>
      obtain rfl := Option.some.inj hhead
      intro h
      have hdrop : (c' :: rest).dropWhile isSpace = c' :: rest := by
        rw [List.dropWhile_cons, hc, if_neg Bool.false_ne_true]
      rw [trim, hdrop] at h
      have hall := List.dropWhile_eq_nil_iff.mp (List.reverse_eq_nil_iff.mp h)
      have hspace := hall c' (List.mem_reverse.mpr List.mem_cons_self)
      rw [hc] at hspace
      contradiction

theorem head?_digest (b : JsString) : (codec.digest b).head? = some 's' := rfl

theorem fields_publishedJournal :
    let journal := publishedJournal codec input bytes recordContent
    ([journal.artefactStaged, journal.artefactFinal, journal.artefactDigest,
      journal.recordStaged, journal.recordFinal, journal.recordDigest].any
        fun field => trim field = []) = false := by
  have hslash : isSpace '/' = false := by decide
  have hs : isSpace 's' = false := by decide
  have hresolved := input.resolved
  simp only [List.mem_cons, List.not_mem_nil, or_false, forall_eq_or_imp, forall_eq] at hresolved
  obtain ⟨hstaged, houtput, hrecord⟩ := hresolved
  have hfinal : (authLifecycleRecordPath input.outputPath).head? = some '/' := by
    rw [authLifecycleRecordPath, List.head?_append, houtput]
    rfl
  apply List.any_eq_false.mpr
  intro field hfield
  rw [decide_eq_true_eq]
  simp only [publishedJournal, bundleJournal, List.mem_cons, List.not_mem_nil, or_false] at hfield
  rcases hfield with rfl | rfl | rfl | rfl | rfl | rfl
  · exact trim_ne_nil hstaged hslash
  · exact trim_ne_nil houtput hslash
  · exact trim_ne_nil (head?_digest bytes) hs
  · exact trim_ne_nil hrecord hslash
  · exact trim_ne_nil hfinal hslash
  · exact trim_ne_nil (head?_digest recordContent) hs

theorem recover_untouched (hjournal : files (authBundleJournalPath input.outputPath) = none) :
    recoverAuthCapabilityBundle codec files input.outputPath = .ok [] := by
  rw [recoverAuthCapabilityBundle, hjournal]
  rfl

theorem recover_staged (h : Staged codec input old bytes recordContent files) :
    recoverAuthCapabilityBundle codec files input.outputPath =
      .ok [.chmod input.stagedArtefactPath, artefactRename input, recordRename input,
        .unlink (authBundleJournalPath input.outputPath)] := by
  rw [recoverAuthCapabilityBundle, h.journal]
  dsimp only
  have hboth : holdsDigest codec files input.stagedArtefactPath (codec.digest bytes) ∧
      holdsDigest codec files input.recordStaged (codec.digest recordContent) := by
    simp [holdsDigest, digestOfFile, h.stagedArtefact, h.stagedRecord]
  rw [if_neg (by rw [fields_publishedJournal]; exact Bool.false_ne_true)]
  exact (if_pos hboth).trans rfl

theorem recover_renamed (h : Renamed codec input bytes recordContent files) :
    recoverAuthCapabilityBundle codec files input.outputPath =
      .ok [.unlink (authBundleJournalPath input.outputPath)] := by
  rw [recoverAuthCapabilityBundle, h.journal]
  dsimp only
  have hgone : ¬(holdsDigest codec files input.stagedArtefactPath (codec.digest bytes) ∧
      holdsDigest codec files input.recordStaged (codec.digest recordContent)) := by
    simp [holdsDigest, digestOfFile, h.stagedArtefact]
  have hfinal : holdsDigest codec files input.outputPath (codec.digest bytes) ∧
      holdsDigest codec files (authLifecycleRecordPath input.outputPath)
        (codec.digest recordContent) := by
    simp [holdsDigest, digestOfFile, h.artefact, h.record]
  rw [if_neg (by rw [fields_publishedJournal]; exact Bool.false_ne_true)]
  exact (if_neg hgone).trans ((if_pos hfinal).trans rfl)

theorem publish_eq_ok {todo : List FsStep}
    (h : publishAuthCapabilityBundle codec files input = .ok todo) :
    ∃ bytes recordContent, NewPair codec input bytes recordContent ∧
      files input.stagedArtefactPath = some (.bytes bytes) ∧
      todo = publishSteps input (publishedJournal codec input bytes recordContent)
        recordContent := by
  unfold publishAuthCapabilityBundle at h
  dsimp only at h
  split_ifs at h
  cases hdigest : digestOfFile codec files input.stagedArtefactPath with
  | none =>
      rw [hdigest] at h
      contradiction
  | some digest =>
      rw [hdigest] at h
      dsimp only at h
      split_ifs at h with hmismatch
      rw [not_not] at hmismatch
      cases hserialized : codec.serializeRedactedRecord input.record with
      | none =>
          rw [hserialized] at h
          contradiction
      | some recordContent =>
          rw [hserialized] at h
          obtain rfl := Except.ok.inj h
          unfold digestOfFile at hdigest
          split at hdigest
          · rename_i bytes hfile
            obtain rfl := Option.some.inj hdigest
            exact ⟨bytes, recordContent, ⟨hmismatch, hserialized⟩, hfile, rfl⟩
          · contradiction

end Decisions

section Invariant

variable (codec : Codec) (input : PublishAuthCapabilityBundleInput) (old : OldPair)

/-- The pair on disk is the old one, or the new one. -/
def WholePair (files : Files) : Prop :=
  (files input.outputPath = old.artefact.map .bytes ∧
    files (authLifecycleRecordPath input.outputPath) = old.record.map .bytes) ∨
  ∃ bytes recordContent, NewPair codec input bytes recordContent ∧
    files input.outputPath = some (.bytes bytes) ∧
    files (authLifecycleRecordPath input.outputPath) = some (.bytes recordContent)

/-- Where a publication and the recoveries after it can stand: what is left to do, and what
the directory holds. -/
inductive Stage (bytes recordContent : JsString) : Activity → Files → Prop
  | opened {files : Files} (h : Untouched input old files)
      (hstaged : files input.stagedArtefactPath = some (.bytes bytes)) :
      Stage bytes recordContent (.publishing (publishSteps input
        (publishedJournal codec input bytes recordContent) recordContent)) files
  | recordStaged {files : Files} (h : Untouched input old files)
      (hstaged : files input.stagedArtefactPath = some (.bytes bytes))
      (hrecord : files input.recordStaged = some (.bytes recordContent)) :
      Stage bytes recordContent (.publishing ((publishSteps input
        (publishedJournal codec input bytes recordContent) recordContent).drop 1)) files
  | journaled {files : Files} (h : Staged codec input old bytes recordContent files) :
      Stage bytes recordContent (.publishing ((publishSteps input
        (publishedJournal codec input bytes recordContent) recordContent).drop 2)) files
  | ready {files : Files} (h : Staged codec input old bytes recordContent files) :
      Stage bytes recordContent (.publishing ((publishSteps input
        (publishedJournal codec input bytes recordContent) recordContent).drop 3)) files
  | half {files : Files} (h : Half codec input old bytes recordContent files) :
      Stage bytes recordContent (.publishing ((publishSteps input
        (publishedJournal codec input bytes recordContent) recordContent).drop 4)) files
  | renamed {files : Files} (h : Renamed codec input bytes recordContent files) :
      Stage bytes recordContent (.publishing ((publishSteps input
        (publishedJournal codec input bytes recordContent) recordContent).drop 5)) files
  | closed {files : Files} (h : Closed input bytes recordContent files) :
      Stage bytes recordContent (.publishing ((publishSteps input
        (publishedJournal codec input bytes recordContent) recordContent).drop 6)) files
  | published {files : Files} (h : Closed input bytes recordContent files) :
      Stage bytes recordContent (.publishing []) files
  | cutStaged {files : Files} (h : Staged codec input old bytes recordContent files) :
      Stage bytes recordContent .idle files
  | cutRenamed {files : Files} (h : Renamed codec input bytes recordContent files) :
      Stage bytes recordContent .idle files
  | cutClosed {files : Files} (h : Closed input bytes recordContent files) :
      Stage bytes recordContent .idle files
  | recovering {files : Files} (h : Staged codec input old bytes recordContent files) :
      Stage bytes recordContent (.recovering (.chmod input.stagedArtefactPath ::
        [artefactRename input, recordRename input,
          .unlink (authBundleJournalPath input.outputPath)])) files
  | recoveringReady {files : Files} (h : Staged codec input old bytes recordContent files) :
      Stage bytes recordContent (.recovering (artefactRename input ::
        [recordRename input, .unlink (authBundleJournalPath input.outputPath)])) files
  | recoveringHalf {files : Files} (h : Half codec input old bytes recordContent files) :
      Stage bytes recordContent (.recovering (recordRename input ::
        [.unlink (authBundleJournalPath input.outputPath)])) files
  | recoveringRenamed {files : Files} (h : Renamed codec input bytes recordContent files) :
      Stage bytes recordContent
        (.recovering [.unlink (authBundleJournalPath input.outputPath)]) files
  | recovered {files : Files} (h : Closed input bytes recordContent files) :
      Stage bytes recordContent (.recovering []) files

/-- What the end of a call says about the directory. -/
def EndsWell (w : World) : Prop :=
  match w.ending with
  | some .recoverThrew => False
  | some .recovered => w.files (authBundleJournalPath input.outputPath) = none ∧
      WholePair codec input old w.files
  | some (.publishThrew true) => Untouched input old w.files
  | _ => True

/-- Nothing has been published yet, or the publication stands somewhere. -/
def Standing (w : World) : Prop :=
  (Untouched input old w.files ∧ (w.activity = .idle ∨ w.activity = .recovering [])) ∨
  (w.called = true ∧ ∃ bytes recordContent, NewPair codec input bytes recordContent ∧
    Stage codec input old bytes recordContent w.activity w.files)

structure Sound (w : World) : Prop where
  standing : Standing codec input old w
  ending : EndsWell codec input old w
  busy : w.activity ≠ .idle → w.ending = none

variable {codec input old} {bytes recordContent : JsString} {w : World} {call : FsStep}
  {todo : List FsStep}

theorem Stage.step {files : Files}
    (h : Stage codec input old bytes recordContent (.publishing (call :: todo)) files) :
    Stage codec input old bytes recordContent (.publishing todo) (call.perform files) := by
  generalize hactivity : Activity.publishing (call :: todo) = activity at h
  cases h with
  | opened h hstaged =>
      obtain ⟨rfl, rfl⟩ := List.cons.inj (Activity.publishing.inj hactivity)
      refine .recordStaged (untouched_writeRecord h _) ?_ (Function.update_self _ _ _)
      exact (Function.update_of_ne recordStaged_ne_staged.symm _ _).trans hstaged
  | recordStaged h hstaged hrecord =>
      obtain ⟨rfl, rfl⟩ := List.cons.inj (Activity.publishing.inj hactivity)
      exact .journaled (staged_writeJournal h hstaged hrecord)
  | journaled h =>
      obtain ⟨rfl, rfl⟩ := List.cons.inj (Activity.publishing.inj hactivity)
      exact .ready h
  | ready h =>
      obtain ⟨rfl, rfl⟩ := List.cons.inj (Activity.publishing.inj hactivity)
      exact .half (half_rename h)
  | half h =>
      obtain ⟨rfl, rfl⟩ := List.cons.inj (Activity.publishing.inj hactivity)
      exact .renamed (renamed_rename h)
  | renamed h =>
      obtain ⟨rfl, rfl⟩ := List.cons.inj (Activity.publishing.inj hactivity)
      exact .closed (closed_unlink h)
  | closed h =>
      obtain ⟨rfl, rfl⟩ := List.cons.inj (Activity.publishing.inj hactivity)
      exact .published h
  | published h => cases hactivity
  | cutStaged | cutRenamed | cutClosed => cases hactivity
  | recovering | recoveringReady | recoveringHalf | recoveringRenamed | recovered =>
      cases hactivity

theorem Stage.recoveryStep {files : Files}
    (h : Stage codec input old bytes recordContent (.recovering (call :: todo)) files) :
    Stage codec input old bytes recordContent (.recovering todo) (call.perform files) := by
  cases h with
  | recovering h => exact .recoveringReady h
  | recoveringReady h => exact .recoveringHalf (half_rename h)
  | recoveringHalf h => exact .recoveringRenamed (renamed_rename h)
  | recoveringRenamed h => exact .recovered (closed_unlink h)

theorem Stage.cut {activity : Activity} {files : Files}
    (h : Stage codec input old bytes recordContent activity files)
    (hnew : NewPair codec input bytes recordContent)
    (hfits : activity.todo.head? = some (recordRename input) → SameRecord codec input old) :
    Untouched input old files ∨ Stage codec input old bytes recordContent .idle files := by
  cases h with
  | opened h _ => exact .inl h
  | recordStaged h _ _ => exact .inl h
  | journaled h => exact .inr (.cutStaged h)
  | ready h => exact .inr (.cutStaged h)
  | half h => exact .inr (.cutRenamed (h.renamed hnew (hfits rfl)))
  | renamed h => exact .inr (.cutRenamed h)
  | closed h => exact .inr (.cutClosed h)
  | published h => exact .inr (.cutClosed h)
  | cutStaged h => exact .inr (.cutStaged h)
  | cutRenamed h => exact .inr (.cutRenamed h)
  | cutClosed h => exact .inr (.cutClosed h)
  | recovering h => exact .inr (.cutStaged h)
  | recoveringReady h => exact .inr (.cutStaged h)
  | recoveringHalf h => exact .inr (.cutRenamed (h.renamed hnew (hfits rfl)))
  | recoveringRenamed h => exact .inr (.cutRenamed h)
  | recovered h => exact .inr (.cutClosed h)

theorem Stage.untouched_of_throws {files : Files}
    (h : Stage codec input old bytes recordContent (.publishing (call :: todo)) files)
    (hbefore : artefactRename input ∈ call :: todo)
    (hpending : ¬(some call = some (.chmod input.stagedArtefactPath) ∨
      some call = some (artefactRename input))) : Untouched input old files := by
  have hnot {steps : List FsStep} (hsteps : call :: todo = steps)
      (habsent : artefactRename input ∉ steps) : False := habsent (hsteps ▸ hbefore)
  have hne : artefactRename input ≠ recordRename input := by
    intro heq
    exact recordStaged_ne_staged.symm (FsStep.rename.inj heq).1
  generalize hactivity : Activity.publishing (call :: todo) = activity at h
  cases h with
  | opened h _ => exact h
  | recordStaged h _ _ => exact h
  | journaled h =>
      obtain ⟨rfl, -⟩ := List.cons.inj (Activity.publishing.inj hactivity)
      exact absurd (.inl rfl) hpending
  | ready h =>
      obtain ⟨rfl, -⟩ := List.cons.inj (Activity.publishing.inj hactivity)
      exact absurd (.inr rfl) hpending
  | half h =>
      refine (hnot (Activity.publishing.inj hactivity) ?_).elim
      simp only [publishSteps, List.drop_succ_cons, List.drop_zero, List.mem_cons,
        List.not_mem_nil, or_false, not_or]
      exact ⟨hne, nofun, nofun⟩
  | renamed h =>
      refine (hnot (Activity.publishing.inj hactivity) ?_).elim
      simp [publishSteps, artefactRename]
  | closed h =>
      refine (hnot (Activity.publishing.inj hactivity) ?_).elim
      simp [publishSteps, artefactRename]
  | published h => cases hactivity
  | cutStaged | cutRenamed | cutClosed => cases hactivity
  | recovering | recoveringReady | recoveringHalf | recoveringRenamed | recovered =>
      cases hactivity

theorem Untouched.wholePair {files : Files} (h : Untouched input old files) :
    WholePair codec input old files := .inl ⟨h.artefact, h.record⟩

theorem Closed.wholePair {files : Files} (h : Closed input bytes recordContent files)
    (hnew : NewPair codec input bytes recordContent) : WholePair codec input old files :=
  .inr ⟨bytes, recordContent, hnew, h.artefact, h.record⟩

section

variable (h : Standing codec input old w)

include h

theorem recover_standing (hidle : w.activity = .idle) :
    ∃ todo, recoverAuthCapabilityBundle codec w.files input.outputPath = .ok todo ∧
      Standing codec input old { w with activity := .recovering todo, ending := none } := by
  rcases h with ⟨huntouched, -⟩ | ⟨hcalled, bytes, recordContent, hnew, hstage⟩
  · exact ⟨[], recover_untouched huntouched.journal, .inl ⟨huntouched, .inr rfl⟩⟩
  · rw [hidle] at hstage
    cases hstage with
    | cutStaged h =>
        exact ⟨_, recover_staged h, .inr ⟨hcalled, bytes, recordContent, hnew, .recovering h⟩⟩
    | cutRenamed h =>
        exact ⟨_, recover_renamed h,
          .inr ⟨hcalled, bytes, recordContent, hnew, .recoveringRenamed h⟩⟩
    | cutClosed h =>
        exact ⟨_, recover_untouched h.journal,
          .inr ⟨hcalled, bytes, recordContent, hnew, .recovered h⟩⟩

theorem Standing.untouched_of_not_called
    (hcalled : w.called = false) : Untouched input old w.files := by
  rcases h with ⟨huntouched, -⟩ | ⟨htrue, -⟩
  · exact huntouched
  · rw [hcalled] at htrue
    contradiction

theorem Standing.cut {ending : Option Ending}
    (hfits : BetweenRenames input w → SameRecord codec input old) :
    Standing codec input old { w with activity := .idle, ending } := by
  rcases h with ⟨huntouched, -⟩ | ⟨hcalled, bytes, recordContent, hnew, hstage⟩
  · exact .inl ⟨huntouched, .inl rfl⟩
  · rcases hstage.cut hnew hfits with huntouched | hidle
    · exact .inl ⟨huntouched, .inl rfl⟩
    · exact .inr ⟨hcalled, bytes, recordContent, hnew, hidle⟩

theorem Standing.resolved (hdone : w.activity = .recovering []) :
    w.files (authBundleJournalPath input.outputPath) = none ∧
      WholePair codec input old w.files := by
  rcases h with ⟨huntouched, -⟩ | ⟨-, bytes, recordContent, hnew, hstage⟩
  · exact ⟨huntouched.journal, huntouched.wholePair⟩
  · rw [hdone] at hstage
    cases hstage with
    | recovered h => exact ⟨h.journal, h.wholePair hnew⟩

end

theorem sound_next {event : Event} {w' : World} (h : Sound codec input old w)
    (hfits : fits codec input old w event) (hnext : next codec input w event = some w') :
    Sound codec input old w' := by
  obtain ⟨hstanding, hending, hbusy⟩ := h
  unfold next at hnext
  split at hnext
  · rename_i hidle
    split_ifs at hnext with hcalled
    have huntouched := hstanding.untouched_of_not_called (Bool.eq_false_iff.mpr hcalled)
    split at hnext
    · obtain rfl := Option.some.inj hnext
      exact ⟨.inl ⟨huntouched, .inl hidle⟩, huntouched, fun hne => absurd hidle hne⟩
    · rename_i todo hpublish
      obtain rfl := Option.some.inj hnext
      obtain ⟨bytes, recordContent, hnew, hstaged, rfl⟩ := publish_eq_ok hpublish
      exact ⟨.inr ⟨rfl, bytes, recordContent, hnew, .opened huntouched hstaged⟩, trivial,
        fun _ => rfl⟩
  · rename_i hidle
    obtain ⟨todo, hrecover, hstands⟩ := recover_standing hstanding hidle
    rw [hrecover] at hnext
    obtain rfl := Option.some.inj hnext
    exact ⟨hstands, trivial, fun _ => rfl⟩
  · rename_i call todo hactivity
    obtain rfl := Option.some.inj hnext
    have hnone := hbusy (by rw [hactivity]; exact Activity.noConfusion)
    rcases hstanding with ⟨-, hidle | hdone⟩ | ⟨hcalled, bytes, recordContent, hnew, hstage⟩
    · rw [hactivity] at hidle
      contradiction
    · rw [hactivity] at hdone
      contradiction
    · rw [hactivity] at hstage
      refine ⟨.inr ⟨hcalled, bytes, recordContent, hnew, hstage.step⟩, ?_, fun _ => hnone⟩
      simp only [EndsWell, hnone]
  · rename_i call todo hactivity
    obtain rfl := Option.some.inj hnext
    have hnone := hbusy (by rw [hactivity]; exact Activity.noConfusion)
    rcases hstanding with ⟨-, hidle | hdone⟩ | ⟨hcalled, bytes, recordContent, hnew, hstage⟩
    · rw [hactivity] at hidle
      contradiction
    · rw [hactivity] at hdone
      cases hdone
    · rw [hactivity] at hstage
      refine ⟨.inr ⟨hcalled, bytes, recordContent, hnew, hstage.recoveryStep⟩, ?_, fun _ => hnone⟩
      simp only [EndsWell, hnone]
  · rename_i call todo hactivity
    obtain rfl := Option.some.inj hnext
    obtain ⟨hpending, hbetween⟩ := hfits
    refine ⟨hstanding.cut hbetween, ?_, fun hne => absurd rfl hne⟩
    by_cases hbefore : artefactRename input ∈ call :: todo
    · simp only [EndsWell, hbefore, decide_true]
      rcases hstanding with ⟨huntouched, -⟩ | ⟨-, bytes, recordContent, -, hstage⟩
      · exact huntouched
      · rw [hactivity] at hstage
        refine hstage.untouched_of_throws hbefore ?_
        intro hhead
        apply hpending
        rw [JournalPending, hactivity]
        exact hhead
    · simp only [EndsWell, hbefore, decide_false]
  · obtain rfl := Option.some.inj hnext
    exact ⟨hstanding.cut hfits, trivial, fun hne => absurd rfl hne⟩
  · obtain rfl := Option.some.inj hnext
    exact ⟨hstanding.cut hfits, trivial, fun hne => absurd rfl hne⟩
  · rename_i hactivity
    obtain rfl := Option.some.inj hnext
    refine ⟨hstanding.cut ?_, trivial, fun hne => absurd rfl hne⟩
    intro hbetween
    rw [BetweenRenames, hactivity] at hbetween
    contradiction
  · rename_i hactivity
    obtain rfl := Option.some.inj hnext
    refine ⟨hstanding.cut ?_, hstanding.resolved hactivity, fun hne => absurd rfl hne⟩
    intro hbetween
    rw [BetweenRenames, hactivity] at hbetween
    contradiction
  · contradiction

theorem Standing.valid (h : Standing codec input old w)
    (hopen : authBundleTransactionPending w.files input.outputPath = false) :
    WholePair codec input old w.files := by
  have hnone : w.files (authBundleJournalPath input.outputPath) = none :=
    Option.not_isSome_iff_eq_none.mp (Bool.eq_false_iff.mp hopen)
  rcases h with ⟨huntouched, -⟩ | ⟨-, bytes, recordContent, hnew, hstage⟩
  · exact huntouched.wholePair
  · generalize w.activity = activity at hstage
    cases hstage with
    | opened h _ => exact h.wholePair
    | recordStaged h _ _ => exact h.wholePair
    | closed h | published h | cutClosed h | recovered h => exact h.wholePair hnew
    | journaled h | ready h | cutStaged h | recovering h | recoveringReady h =>
        rw [h.journal] at hnone
        contradiction
    | half h | recoveringHalf h =>
        rw [h.journal] at hnone
        contradiction
    | renamed h | cutRenamed h | recoveringRenamed h =>
        rw [h.journal] at hnone
        contradiction

end Invariant

section Transactions

variable (codec : Codec) (input : PublishAuthCapabilityBundleInput) (old : OldPair)

/-- The record was written for these bytes: the old pair, or the new one, whose record the
publication has checked against its artefact. -/
def WrittenFor (artefact record : JsString) : Prop :=
  (old.artefact = some artefact ∧ old.record = some record) ∨ NewPair codec input artefact record

/-- The publication is one transaction, in every state of its history. -/
structure OneTransaction (w : World) : Prop where
  /-- No recovery that runs to its end throws. -/
  recovers : w.ending ≠ some .recoverThrew
  /-- A recovery that has run to its end leaves a whole pair and no journal. -/
  resolved : w.ending = some .recovered →
    w.files (authBundleJournalPath input.outputPath) = none ∧ WholePair codec input old w.files
  /-- A publication that threw before its first rename left the old pair and no journal. -/
  refused : w.ending = some (.publishThrew true) → Untouched input old w.files
  /-- What a lane is allowed to use is an artefact with the record written for it. -/
  valid : ∀ (lane : AuthCapabilityPreflightInput) result, lane.artefactPath = input.outputPath →
    requireValidAuthCapability codec w.files lane = .ok result →
      ∃ artefact record, w.files input.outputPath = some (.bytes artefact) ∧
        w.files (authLifecycleRecordPath input.outputPath) = some (.bytes record) ∧
        WrittenFor codec input old artefact record

variable {codec input old} {w : World}

theorem found_of_requireValid {files : Files} {lane : AuthCapabilityPreflightInput}
    {result : AuthCapabilityPreflightResult}
    (h : requireValidAuthCapability codec files lane = .ok result) :
    authBundleTransactionPending files lane.artefactPath = false ∧
      files lane.artefactPath ≠ none := by
  unfold requireValidAuthCapability at h
  split_ifs at h with hpending
  refine ⟨Bool.eq_false_iff.mpr hpending, ?_⟩
  intro hnone
  rw [evaluateAuthCapabilityPreflight, hnone] at h
  contradiction

theorem WholePair.written {files : Files} (h : WholePair codec input old files)
    (hfound : files input.outputPath ≠ none) :
    ∃ artefact record, files input.outputPath = some (.bytes artefact) ∧
      files (authLifecycleRecordPath input.outputPath) = some (.bytes record) ∧
      WrittenFor codec input old artefact record := by
  rcases h with ⟨hartefact, hrecord⟩ | ⟨bytes, recordContent, hnew, hartefact, hrecord⟩
  · have hboth := old.both
    cases holdArtefact : old.artefact with
    | none =>
        rw [holdArtefact] at hartefact
        exact absurd hartefact hfound
    | some artefact =>
        rw [holdArtefact] at hboth hartefact
        obtain ⟨record, holdRecord⟩ := Option.isSome_iff_exists.mp hboth.symm
        rw [holdRecord] at hrecord
        exact ⟨artefact, record, hartefact, hrecord, .inl ⟨holdArtefact, holdRecord⟩⟩
  · exact ⟨bytes, recordContent, hartefact, hrecord, .inr hnew⟩

theorem Sound.oneTransaction (h : Sound codec input old w) : OneTransaction codec input old w where
  recovers := by
    intro hthrew
    have hending := h.ending
    rw [EndsWell, hthrew] at hending
    exact hending
  resolved := by
    intro hrecovered
    have hending := h.ending
    rw [EndsWell, hrecovered] at hending
    exact hending
  refused := by
    intro hthrew
    have hending := h.ending
    rw [EndsWell, hthrew] at hending
    exact hending
  valid := by
    rintro lane result hpath hresult
    obtain ⟨hopen, hfound⟩ := found_of_requireValid hresult
    rw [hpath] at hopen hfound
    exact (h.standing.valid hopen).written hfound

/-- The bundle is one transaction in every history that is not cut between the two renames
and whose publication does not throw between the journal and the first rename. -/
theorem publication_is_one_transaction {files : Files} {events : List Event}
    (hstart : Untouched input old files)
    (hrun : Run ((history codec input files).guarded (fits codec input old)) events w) :
    OneTransaction codec input old w := by
  have hsound : Sound codec input old w := by
    refine hrun.state_invariant (P := Sound codec input old) ?_ ?_
    · exact ⟨.inl ⟨hstart, .inl rfl⟩, trivial, fun hne => absurd rfl hne⟩
    · rintro w event w' h ⟨hnext, hfits⟩
      exact sound_next h hfits hnext
  exact hsound.oneTransaction

end Transactions

def sampleCodec : Codec where
  sha256Hex b := b
  serializeRedactedRecord _ := some "new record".toList
  parseAuthCapabilityRecord _ := none
  inspectArtefact _ _ _ := none

def sampleInput : PublishAuthCapabilityBundleInput where
  stagedArtefactPath := "/a/.staged".toList
  outputPath := "/a/state".toList
  record := ⟨0, .dev, "https://app".toList, none, 3600000, "sha256:new".toList⟩
  recordStaged := "/a/.record".toList
  resolved := by decide
  artefact_fresh := by decide
  record_fresh := by decide

def sampleOld : OldPair := ⟨some "old".toList, some "old record".toList, rfl⟩

def sampleFiles (path : Path) : Option Content :=
  if path = sampleInput.outputPath then some (.bytes "old".toList)
  else if path = authLifecycleRecordPath sampleInput.outputPath then
    some (.bytes "old record".toList)
  else if path = sampleInput.stagedArtefactPath then some (.bytes "new".toList)
  else none

theorem sampleFiles_untouched : Untouched sampleInput sampleOld sampleFiles where
  artefact := by decide
  record := by decide
  journal := by decide

/-- A publication cut after its journal, and a recovery that runs to its end. -/
theorem publication_is_one_transaction_sample : ∃ w,
    Run ((history sampleCodec sampleInput sampleFiles).guarded
      (fits sampleCodec sampleInput sampleOld))
      [.publish, .step, .step, .crash, .recover, .step, .step, .step, .step, .finish] w ∧
    w.ending = some .recovered ∧ OneTransaction sampleCodec sampleInput sampleOld w := by
  have hending : (evaluate (restrict (next sampleCodec sampleInput)
      (fits sampleCodec sampleInput sampleOld)) ⟨sampleFiles, .idle, false, none⟩
      [.publish, .step, .step, .crash, .recover, .step, .step, .step, .step, .finish]).map
        World.ending = some (some .recovered) := by decide
  obtain ⟨w, hw, hrecovered⟩ := Option.map_eq_some_iff.mp hending
  have hrun := guarded_run_of_evaluate hw
  exact ⟨w, hrun, hrecovered, publication_is_one_transaction sampleFiles_untouched hrun⟩

/-- Cut between its two renames, a publication is not recovered: the recovery throws, with
the new artefact beside the old record. -/
theorem cut_between_renames_not_recovered : ∃ w, Run (history sampleCodec sampleInput sampleFiles)
      [.publish, .step, .step, .step, .step, .crash, .recover] w ∧
    Untouched sampleInput sampleOld sampleFiles ∧
    ¬OneTransaction sampleCodec sampleInput sampleOld w := by
  have hending : (evaluate (next sampleCodec sampleInput) ⟨sampleFiles, .idle, false, none⟩
      [.publish, .step, .step, .step, .step, .crash, .recover]).map World.ending =
        some (some .recoverThrew) := by decide
  obtain ⟨w, hw, hthrew⟩ := Option.map_eq_some_iff.mp hending
  exact ⟨w, run_of_evaluate hw, sampleFiles_untouched, fun h => h.recovers hthrew⟩

end NightWatch.Auth.BundleRuns
