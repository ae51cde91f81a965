import NightWatch.EvidenceRetention.JournalRules

namespace NightWatch.EvidenceRetention.JournalRuns

open Lib.JsText Lib.Json Lib.Machine Lib.Threads EvidenceRetention.Records EvidenceRetention.Journal
  EvidenceRetention.JournalRules

section Programs

variable {i : Nat} {P : Directory → Prop} {temporary : JsString} {K : Directory → Prop}

theorem triple_discard (htemporary : IsTemporary temporary) :
    Triple agreement i (Owned i temporary) (discard temporary) fun _ _ => True := by
  refine Triple.bind (triple_existsSync stable_owned temporary) ?_
  intro found
  by_cases hfound : found = true
  · rw [if_pos hfound]
    refine Triple.bind (triple_unlink htemporary) ?_
    intro _
    exact Triple.done (fun _ _ h => h) fun _ _ h => h
  · rw [if_neg hfound]
    exact Triple.done (fun _ _ h => h) fun _ _ _ => trivial

theorem triple_discard_pure (htemporary : IsTemporary temporary) (hK : Lasts K)
    (outcome : PublishOutcome) : Triple agreement i (fun dir => Owned i temporary dir ∧ K dir)
      (discard temporary >>= fun _ => pure outcome) fun r dir => r = outcome ∧ K dir := by
  refine Triple.bind ((triple_discard htemporary).frame (hK.lasting i)) ?_
  intro _
  refine Triple.done ?_ ?_
  · rintro dir dir' - h ⟨heq, hk⟩
    exact ⟨heq, hK.keeps h hk⟩
  · rintro dir - ⟨-, hk⟩
    exact ⟨rfl, hk⟩

theorem triple_refuse {name bytes : JsString} (htemporary : IsTemporary temporary)
    {outcome : PublishOutcome} (houtcome : outcome ≠ .published)
    (hP : ∀ dir, WellFormed dir → P dir → Owned i temporary dir) :
    Triple agreement i P (discard temporary >>= fun _ => pure outcome)
      fun r dir => r = .published → Landed i name bytes dir := by
  refine (triple_discard_pure htemporary (lasts_const True) outcome).imp ?_ ?_
  · intro dir hinv hdir
    exact ⟨hP dir hinv hdir, trivial⟩
  · rintro r dir - ⟨rfl, -⟩ hr
    exact absurd hr houtcome

variable {name bytes : JsString} {node : Nat}

theorem triple_commitStaged (htemporary : IsTemporary temporary) (hname : ¬ IsTemporary name) :
    Triple agreement i (fun dir => Staged i temporary node bytes dir ∧ Published dir name bytes)
      (commitStaged temporary name) fun r dir => r = .published → Landed i name bytes dir := by
  refine Triple.bind (triple_link hname) ?_
  intro reply
  rcases reply with _ | _ | _ | _
  · have hlanded := lasts_landed (i := i) hname bytes
    refine Triple.bind (Triple.imp ((triple_discard htemporary).frame (hlanded.lasting i))
      (fun dir _ h => ⟨h.1, h.2 rfl⟩) fun _ _ _ h => h.2) ?_
    intro _
    refine Triple.bind (triple_syncDirectory (hlanded.stable i)) ?_
    intro _
    exact Triple.done (hlanded.imp.stable i) fun _ _ h _ => h
  · exact triple_refuse htemporary (by decide) fun _ _ h => h.1
  · exact triple_refuse htemporary (by decide) fun _ _ h => h.1
  · exact triple_refuse htemporary (by decide) fun _ _ h => h.1

theorem triple_checkStaged (htemporary : IsTemporary temporary) (hname : ¬ IsTemporary name) :
    Triple agreement i (fun dir => Staged i temporary node bytes dir ∧ Published dir name bytes)
      (checkStaged temporary name bytes) fun r dir => r = .published → Landed i name bytes dir := by
  have hstable : Stable agreement i
      fun dir => Staged i temporary node bytes dir ∧ Published dir name bytes := by
    rintro dir dir' hinv h ⟨hstaged, hpublished⟩
    exact ⟨stable_staged hinv h hstaged, (lasts_published _ _).keeps h hpublished⟩
  refine Triple.bind (triple_lstat hstable temporary) ?_
  intro staged
  by_cases hstaged : (staged.any fun stat => stat.regularFile && stat.size == byteLength bytes) = true
  · rw [if_pos hstaged]
    refine Triple.bind (triple_lstat hstable name) ?_
    intro existing
    by_cases hexisting : existing.all Stat.regularFile = true
    · rw [if_pos hexisting]
      exact triple_commitStaged htemporary hname
    · rw [if_neg hexisting]
      exact triple_refuse htemporary (by decide) fun _ _ h => h.1.owned
  · rw [if_neg hstaged]
    exact triple_refuse htemporary (by decide) fun _ _ h => h.1.owned

theorem triple_publishRecord {stamp : JsString} (record : Fields) (hname : ¬ IsTemporary name) :
    Triple agreement i (fun dir => Published dir name (recordText record))
      (publishRecord stamp name record)
      fun r dir => r = .published → Landed i name (recordText record) dir := by
  have htemporary := isTemporary_temporaryName stamp
  have hK := lasts_published name (recordText record)
  refine Triple.bind (Triple.imp ((triple_openExclusive htemporary).frame (hK.lasting i))
    (fun dir _ h => ⟨trivial, h⟩) fun _ _ _ h => h) ?_
  intro reply
  rcases reply with _ | node
  · exact Triple.done (((lasts_landed hname _).imp).stable i) nofun
  refine Triple.bind (Triple.imp ((triple_writeAndSync htemporary).frame (hK.lasting i))
    (fun dir _ h => ⟨h.1 node rfl, h.2⟩) fun _ _ _ h => h) ?_
  intro written
  have howned : Stable agreement i (Owned i (temporaryName stamp)) := stable_owned
  by_cases hwritten : written = true
  · rw [if_pos hwritten]
    have hstable : Stable agreement i fun dir =>
        Staged i (temporaryName stamp) node (recordText record) dir ∧
          Published dir name (recordText record) := by
      rintro dir dir' hinv h ⟨hstaged, hpublished⟩
      exact ⟨stable_staged hinv h hstaged, hK.keeps h hpublished⟩
    refine Triple.bind (Triple.imp (triple_close hstable node)
      (fun dir _ h => ⟨h.1.2 hwritten, h.2⟩) fun _ _ _ h => h) ?_
    intro closed
    by_cases hclosed : closed = true
    · rw [if_pos hclosed]
      exact triple_checkStaged htemporary hname
    · rw [if_neg hclosed]
      exact triple_refuse htemporary (by decide) fun _ _ h => h.1.owned
  · rw [if_neg hwritten]
    refine Triple.bind (Triple.imp (triple_close howned node)
      (fun dir _ h => h.1.1) fun _ _ _ h => h) ?_
    intro _
    exact triple_refuse htemporary (by decide) fun _ _ h => h

theorem triple_readRecordFile (hname : ¬ IsTemporary name) :
    Triple agreement i (fun _ => True) (readRecordFile name) fun r dir => ∀ fields, r = some fields →
      ∃ bytes, dir.content name = some bytes ∧ parseRecord bytes = some fields := by
  have hpost : ∀ r : Option Fields, Lasts fun dir => ∀ fields, r = some fields →
      ∃ bytes, dir.content name = some bytes ∧ parseRecord bytes = some fields :=
    fun r => Lasts.forall fun fields => Lasts.imp <| Lasts.exists fun bytes =>
      (lasts_content hname bytes).and (lasts_const _)
  refine Triple.bind (triple_lstat (fun _ _ h => h) name) ?_
  intro stat
  by_cases hstat : stat.any Stat.regularFile = true
  · rw [if_pos hstat]
    refine Triple.bind (triple_readFile hname) ?_
    intro bytes
    refine Triple.done ((hpost _).stable i) ?_
    intro dir _ hbytes fields hfields
    obtain ⟨content, rfl, hparse⟩ := Option.bind_eq_some_iff.mp hfields
    exact ⟨content, hbytes content rfl, hparse⟩
  · rw [if_neg hstat]
    exact Triple.done ((hpost _).stable i) nofun

end Programs

section Calls

variable {i : Nat} {K : Directory → Prop}

structure Prepared (operationId : JsString) (intent : RetentionOperationIntent) (dir : Directory) :
    Prop where
  id_eq : intent.operationId = operationId
  valid : isOperationId operationId = true
  candidates : assertCandidates intent.candidates = true
  content : dir.content (preparedFileName operationId) =
    some (recordText (preparedRecord intent).fields)

theorem lasts_prepared (operationId : JsString) (intent : RetentionOperationIntent) :
    Lasts (Prepared operationId intent) :=
  ⟨fun h hprepared =>
    { hprepared with
      content := (lasts_content (not_isTemporary_prepared _) _).keeps h hprepared.content }⟩

variable {operationId bytes : JsString} {dir : Directory}

theorem exists_prepared (hinv : WellFormed dir)
    (hcontent : dir.content (preparedFileName operationId) = some bytes) :
    ∃ intent, Prepared operationId intent dir ∧
      bytes = recordText (preparedRecord intent).fields := by
  obtain ⟨node, file, hentry, rfl⟩ := exists_entry_of_content hcontent
  have hpublished := hinv.published hentry (not_isTemporary_prepared operationId)
  generalize hname : preparedFileName operationId = name at hpublished
  generalize hbytes : file.bytes = bytes at hpublished hcontent
  rcases hpublished with ⟨hid, hcandidates⟩ | ⟨targets, hid, hprepared⟩
  · obtain rfl := preparedFileName_inj hname
    exact ⟨_, ⟨rfl, hid, hcandidates, hcontent⟩, rfl⟩
  · exact absurd hname (preparedFileName_ne_terminalFileName _ _)

theorem exists_terminal (hinv : WellFormed dir)
    (hcontent : dir.content (terminalFileName operationId) = some bytes) :
    ∃ intent targets, isOperationId operationId = true ∧ intent.operationId = operationId ∧
      dir.content (preparedFileName operationId) = some (recordText (preparedRecord intent).fields) ∧
      bytes = recordText (terminalRecord intent targets).fields := by
  obtain ⟨node, file, hentry, rfl⟩ := exists_entry_of_content hcontent
  have hpublished := hinv.published hentry (not_isTemporary_terminal operationId)
  generalize hname : terminalFileName operationId = name at hpublished
  generalize hbytes : file.bytes = bytes at hpublished
  rcases hpublished with ⟨hid, hcandidates⟩ | ⟨targets, hid, hprepared⟩
  · exact absurd hname.symm (preparedFileName_ne_terminalFileName _ _)
  · obtain rfl := terminalFileName_inj hname
    exact ⟨_, targets, hid, rfl, hprepared, rfl⟩

abbrev Result : Type := Except RetentionJournalFailure Fields

/-- What a call that returned a record has left on file. -/
def Outcome : Call → Nat → Result → Directory → Prop
  | .prepare _ intent, i, r, dir => ∀ record, r = .ok record →
      record = (preparedRecord intent).fields ∧ Prepared intent.operationId intent dir ∧
        Landed i (preparedFileName intent.operationId) (recordText record) dir
  | .finalize _ operationId targets, i, r, dir => ∀ record, r = .ok record →
      ∃ intent, Prepared operationId intent dir ∧ assertTargets targets = true ∧
        record = (terminalRecord intent targets).fields ∧
        Landed i (terminalFileName operationId) (recordText record) dir

theorem lasts_outcome (call : Call) (i : Nat) (r : Result) : Lasts (Outcome call i r) := by
  rcases call with ⟨stamp, intent⟩ | ⟨stamp, operationId, targets⟩
  · refine Lasts.forall fun record => Lasts.imp ?_
    exact (lasts_const _).and <| (lasts_prepared _ _).and <|
      lasts_landed (not_isTemporary_prepared _) _
  · refine Lasts.forall fun record => Lasts.imp <| Lasts.exists fun intent => ?_
    exact (lasts_prepared _ _).and <| (lasts_const _).and <| (lasts_const _).and <|
      lasts_landed (not_isTemporary_terminal _) _

theorem triple_fail {P : Directory → Prop} (call : Call) (failure : RetentionJournalFailure) :
    Triple agreement i P (pure (.error failure) : Fs Result) (Outcome call i) := by
  refine Triple.done ((lasts_outcome call i _).stable i) ?_
  intro dir _ _
  rcases call with _ | _
  · exact nofun
  · exact nofun

theorem triple_prepareRetentionOperation (stamp : JsString) (intent : RetentionOperationIntent) :
    Triple agreement i (fun _ => True) (prepareRetentionOperation stamp intent)
      (Outcome (.prepare stamp intent) i) := by
  rw [prepareRetentionOperation]
  by_cases hid : isOperationId intent.operationId = true
  · rw [if_pos hid]
    by_cases hcandidates : assertCandidates intent.candidates = true
    · rw [if_pos hcandidates]
      refine Triple.bind (triple_ensureJournalRoot fun _ _ h => h) ?_
      intro ready
      by_cases hready : ready = true
      · rw [if_pos hready]
        refine Triple.bind (Triple.imp
          (triple_publishRecord (preparedRecord intent).fields
            (not_isTemporary_prepared intent.operationId))
          (fun dir _ _ => .prepared hid hcandidates) fun _ _ _ h => h) ?_
        intro outcome
        rcases outcome with _ | _ | _ | _
        · refine Triple.done ((lasts_outcome _ i _).stable i) ?_
          rintro dir - hlanded record ⟨⟩
          have hlanded := hlanded rfl
          exact ⟨rfl, ⟨rfl, hid, hcandidates, hlanded.content⟩, hlanded⟩
        · exact triple_fail _ _
        · exact triple_fail _ _
        · exact triple_fail _ _
      · rw [if_neg hready]
        exact triple_fail _ _
    · rw [if_neg hcandidates]
      exact triple_fail _ _
  · rw [if_neg hid]
    exact triple_fail _ _

theorem triple_verifyRecord (hK : Lasts K) {name : JsString} (hname : ¬ IsTemporary name)
    (record : Fields) : Triple agreement i K (verifyRecord name record)
      fun r dir => K dir ∧ ∀ fields, r = .ok fields → fields = record := by
  refine Triple.bind (Triple.imp ((triple_readRecordFile hname).frame (hK.lasting i))
    (fun _ _ h => ⟨trivial, h⟩) fun _ _ _ h => h.2) ?_
  intro observed
  by_cases hobserved : (observed.any fun fields => text (.obj fields) == text (.obj record)) = true
  · rw [if_pos hobserved]
    refine Triple.done ((hK.and (lasts_const _)).stable i) ?_
    intro dir _ hk
    refine ⟨hk, ?_⟩
    rintro fields ⟨⟩
    rfl
  · rw [if_neg hobserved]
    exact Triple.done ((hK.and (lasts_const _)).stable i) fun _ _ hk => ⟨hk, nofun⟩

theorem eq_of_parse_prepared (hinv : WellFormed dir)
    {prepared : Fields} (h : ∃ bytes, dir.content (preparedFileName operationId) = some bytes ∧
      parseRecord bytes = some prepared) :
    ∃ intent, prepared = (preparedRecord intent).fields ∧ Prepared operationId intent dir := by
  obtain ⟨bytes, hcontent, hparse⟩ := h
  obtain ⟨intent, hprepared, rfl⟩ := exists_prepared hinv hcontent
  have hid : isOperationId (preparedRecord intent).operationId = true :=
    (congrArg isOperationId hprepared.id_eq).trans hprepared.valid
  rw [parseRecord_recordText hid] at hparse
  exact ⟨intent, (Option.some.inj hparse).symm, hprepared⟩

theorem triple_finalizeRetentionOperation (stamp operationId : JsString)
    (targets : List RetentionJournalTarget) :
    Triple agreement i (fun _ => True) (finalizeRetentionOperation stamp operationId targets)
      (Outcome (.finalize stamp operationId targets) i) := by
  rw [finalizeRetentionOperation]
  by_cases hid : isOperationId operationId = true
  · rw [if_pos hid]
    by_cases htargets : assertTargets targets = true
    · rw [if_pos htargets]
      refine Triple.bind (triple_readRecordFile (not_isTemporary_prepared operationId)) ?_
      intro read
      rcases read with _ | prepared
      · exact triple_fail _ _
      by_cases hterminal : isTerminal prepared = true
      · refine Triple.imp (?_ : Triple agreement i (fun _ => True) _ _) (fun _ _ _ => trivial)
          fun _ _ _ h => h
        show Triple agreement i (fun _ => True) (if isTerminal prepared = true then _ else _) _
        rw [if_pos hterminal]
        exact triple_fail _ _
      show Triple agreement i _ (if isTerminal prepared = true then _ else _) _
      rw [if_neg hterminal]
      refine Triple.imp (P := fun dir => ∃ intent, prepared = (preparedRecord intent).fields ∧
        Prepared operationId intent dir) (Triple.exists fun intent => Triple.fact ?_)
        (fun dir hinv h => eq_of_parse_prepared hinv (h prepared rfl)) fun _ _ _ h => h
      rintro rfl
      rw [finalFields_preparedRecord]
      have hK := lasts_prepared operationId intent
      have hname := not_isTemporary_terminal operationId
      refine Triple.bind (Triple.imp ((triple_publishRecord
        (terminalRecord intent targets).fields hname).frame (hK.lasting i)) ?_
        fun _ _ _ h => h) ?_
      · rintro dir - hprepared
        refine ⟨?_, hprepared⟩
        obtain rfl := hprepared.id_eq
        exact .terminal targets hid hprepared.content
      intro outcome
      rcases outcome with _ | _ | _ | _
      · have hlasts := (hK.and (lasts_landed (i := i) hname
          (recordText (terminalRecord intent targets).fields)))
        refine Triple.imp (triple_verifyRecord hlasts hname _) (fun dir _ h => ⟨h.2, h.1 rfl⟩) ?_
        rintro r dir - ⟨⟨hprepared, hlanded⟩, hr⟩ record hrecord
        obtain rfl := hr record hrecord
        exact ⟨intent, hprepared, htargets, rfl, hlanded⟩
      · exact triple_fail _ _
      · exact triple_fail _ _
      · exact triple_fail _ _
    · rw [if_neg htargets]
      exact triple_fail _ _
  · rw [if_neg hid]
    exact triple_fail _ _

def contract : Contract agreement Call.program where
  Q := Outcome
  triple
    | .prepare stamp intent, _ => triple_prepareRetentionOperation stamp intent
    | .finalize stamp operationId targets, _ =>
        triple_finalizeRetentionOperation stamp operationId targets

end Calls

section Readers

variable (thread : Nat) {dir : Directory}

theorem runAlone_readRecordFile (name : JsString) (dir : Directory) :
    runAlone thread (readRecordFile name) dir = ((dir.content name).bind parseRecord, dir) := by
  rw [readRecordFile, runAlone_bind]
  show runAlone thread (if ((dir.node name).map fun file =>
    (⟨true, byteLength file.bytes⟩ : Stat)).any Stat.regularFile = true then _ else _) dir = _
  rcases hnode : dir.node name with _ | file
  · rw [Directory.content, hnode]
    rfl
  · have hregular : ((some file).map fun file =>
        (⟨true, byteLength file.bytes⟩ : Stat)).any Stat.regularFile = true := rfl
    rw [if_pos hregular]
    rfl

variable {operationId : JsString}

theorem runAlone_hasIncomplete (hid : isOperationId operationId = true) :
    (runAlone thread (hasIncompleteRetentionOperation operationId) dir).1 =
      (((dir.content (terminalFileName operationId)).bind parseRecord).or
        ((dir.content (preparedFileName operationId)).bind parseRecord)).any
        fun fields => !isTerminal fields := by
  rw [hasIncompleteRetentionOperation, runAlone_bind, readRetentionOperation, if_pos hid,
    runAlone_bind, runAlone_readRecordFile]
  rcases (dir.content (terminalFileName operationId)).bind parseRecord with _ | record
  · show (runAlone thread (pure ((runAlone thread
      (readRecordFile (preparedFileName operationId)) dir).1.any _)) _).1 = _
    rw [runAlone_readRecordFile]
    rfl
  · rfl

theorem content_eq_none_iff (hinv : WellFormed dir) {name : JsString} :
    dir.content name = none ↔ dir.names name = none := by
  constructor
  · intro hcontent
    by_contra hname
    obtain ⟨node, hnode⟩ := Option.ne_none_iff_exists'.mp hname
    obtain ⟨file, hentry⟩ := hinv.exists_entry hnode
    rw [hentry.content] at hcontent
    cases hcontent
  · intro hname
    rw [Directory.content, Directory.node, hname]
    rfl

theorem hasIncomplete_iff (hinv : WellFormed dir)
    {intent : RetentionOperationIntent} (hprepared : Prepared operationId intent dir) :
    (runAlone thread (hasIncompleteRetentionOperation operationId) dir).1 = true ↔
      dir.names (terminalFileName operationId) = none := by
  have hid : isOperationId (preparedRecord intent).operationId = true :=
    (congrArg isOperationId hprepared.id_eq).trans hprepared.valid
  rw [runAlone_hasIncomplete thread hprepared.valid, hprepared.content,
    ← content_eq_none_iff hinv, Option.bind_some, parseRecord_recordText hid]
  rcases hcontent : dir.content (terminalFileName operationId) with _ | bytes
  · exact iff_of_true rfl rfl
  · obtain ⟨intent', targets, hvalid, hid', -, rfl⟩ := exists_terminal hinv hcontent
    have hterminal : isOperationId (terminalRecord intent' targets).operationId = true :=
      (congrArg isOperationId hid').trans hvalid
    rw [Option.bind_some, parseRecord_recordText hterminal]
    exact iff_of_false (by simp [isTerminal_fields, terminalRecord]) (by simp)

end Readers

section Runs

variable {history : List (Event Call)} {pool : Pool fileSystem Result Call}

theorem wellFormed_of_run (hrun : Run journal history pool) : WellFormed pool.shared :=
  (contract.kept_of_run wellFormed_empty hrun).1

theorem outcome_of_run (hrun : Run journal history pool) {i : Nat} {call : Call} {r : Result}
    (hdone : pool.threads[i]? = some (call, some (.done r))) : Outcome call i r pool.shared :=
  contract.result_of_run wellFormed_empty hrun hdone

abbrev Later : Pool fileSystem Result Call → Pool fileSystem Result Call → Prop :=
  Relation.ReflTransGen fun a b => ∃ e, journal.step a e b

variable {bytes : JsString}

theorem content_of_later (hrun : Run journal history pool) {later : Pool fileSystem Result Call}
    (hlater : Later pool later) {name : JsString} (hname : ¬ IsTemporary name)
    (hcontent : pool.shared.content name = some bytes) : later.shared.content name = some bytes :=
  contract.shared_steps (fun _ h => (lasts_content hname bytes).keeps h)
    (contract.kept_of_run wellFormed_empty hrun) hlater hcontent

theorem owner_unique {dir : Directory} {i j : Nat} {name bytes' : JsString}
    (hi : Landed i name bytes dir) (hj : Landed j name bytes' dir) : i = j := by
  obtain ⟨node, hentry⟩ := hi
  obtain ⟨node', hentry'⟩ := hj
  have hfile := hentry.node.symm.trans hentry'.node
  exact congrArg Node.owner (Option.some.inj hfile)

end Runs

section Alone

variable (thread : Nat) {dir : Directory} {stamp name : JsString}

def publish (dir : Directory) (thread : Nat) (stamp name bytes : JsString) : Directory :=
  let staged := (dir.create (temporaryName stamp) thread).write dir.nodes.length bytes
  (staged.setName name (some dir.nodes.length)).setName (temporaryName stamp) none

variable {temporary : JsString}

theorem runAlone_discard {node : Nat} (hname : dir.names temporary = some node) :
    runAlone thread (discard temporary) dir = ((), dir.setName temporary none) := by
  rw [Journal.discard, runAlone_bind]
  show runAlone thread (if (dir.names temporary).isSome = true then _ else _) dir = _
  rw [hname, if_pos (Option.isSome_some)]
  rfl

theorem runAlone_commitStaged {node : Nat}
    (hsource : dir.names temporary = some node) (hfree : dir.names name = none) :
    runAlone thread (commitStaged temporary name) dir =
      (.published, (dir.setName name (some node)).setName temporary none) := by
  have hlink : runAlone thread (link temporary name) dir =
      (.linked, dir.setName name (some node)) := by
    show answer thread (.link temporary name) dir = _
    rw [answer, hsource, hfree]
  have hne : temporary ≠ name := by
    rintro rfl
    rw [hfree] at hsource
    cases hsource
  have hkept : (dir.setName name (some node)).names temporary = some node :=
    (Function.update_of_ne hne _ _).trans hsource
  rw [commitStaged, runAlone_bind, hlink]
  show runAlone thread
    (discard temporary >>= fun _ => syncDirectory >>= fun _ => pure PublishOutcome.published) (dir.setName name (some node)) = _
  rw [runAlone_bind, runAlone_discard thread hkept]
  rfl

theorem runAlone_publishRecord (record : Fields) (hname : ¬ IsTemporary name)
    (htemporary : dir.names (temporaryName stamp) = none) (hfree : dir.names name = none) :
    runAlone thread (publishRecord stamp name record) dir =
      (.published, publish dir thread stamp name (recordText record)) := by
  have hopen : runAlone thread (openExclusive (temporaryName stamp)) dir =
      (some dir.nodes.length, dir.create (temporaryName stamp) thread) := by
    show answer thread (.openExclusive (temporaryName stamp)) dir = _
    rw [answer, htemporary]
  rw [publishRecord, runAlone_bind, hopen]
  let staged := (dir.create (temporaryName stamp) thread).write dir.nodes.length (recordText record)
  show runAlone thread (checkStaged (temporaryName stamp) name (recordText record)) staged = _
  have hsource : staged.names (temporaryName stamp) = some dir.nodes.length :=
    Function.update_self ..
  have hne : name ≠ temporaryName stamp := by
    rintro rfl
    exact hname (isTemporary_temporaryName stamp)
  have hfree' : staged.names name = none := (Function.update_of_ne hne _ _).trans hfree
  have hnode : staged.node (temporaryName stamp) = some ⟨thread, recordText record⟩ := by
    rw [Directory.node, hsource]
    show ((dir.nodes ++ [(⟨thread, []⟩ : Node)]).modify dir.nodes.length _)[dir.nodes.length]? = _
    rw [List.getElem?_modify_eq, List.getElem?_concat_length]
    rfl
  rw [checkStaged, runAlone_bind]
  show runAlone thread (if (((staged.node (temporaryName stamp)).map fun file =>
    (⟨true, byteLength file.bytes⟩ : Stat)).any fun stat => stat.regularFile &&
      stat.size == byteLength (recordText record)) = true then _ else _) staged = _
  rw [hnode, if_pos (by simp), runAlone_bind]
  show runAlone thread (if ((staged.node name).map fun file =>
    (⟨true, byteLength file.bytes⟩ : Stat)).all Stat.regularFile = true then _ else _) staged = _
  have habsent : staged.node name = none := by
    rw [Directory.node, hfree']
    rfl
  rw [habsent, Option.map_none, Option.all_none, if_pos rfl]
  exact runAlone_commitStaged thread hsource hfree'

theorem content_publish (hname : ¬ IsTemporary name) (bytes : JsString) :
    (publish dir thread stamp name bytes).content name = some bytes := by
  have hne : name ≠ temporaryName stamp := by
    rintro rfl
    exact hname (isTemporary_temporaryName stamp)
  have hentry : Entry (publish dir thread stamp name bytes) name dir.nodes.length
      ⟨thread, bytes⟩ := by
    refine ⟨(Function.update_of_ne hne _ _).trans (Function.update_self ..), ?_⟩
    show ((dir.nodes ++ [(⟨thread, []⟩ : Node)]).modify dir.nodes.length _)[dir.nodes.length]? = _
    rw [List.getElem?_modify_eq, List.getElem?_concat_length]
    rfl
  exact hentry.content

theorem names_publish {other : JsString} (hne : other ≠ name)
    (htemporary : dir.names (temporaryName stamp) = none) (bytes : JsString) :
    (publish dir thread stamp name bytes).names other = dir.names other := by
  by_cases hother : other = temporaryName stamp
  · rw [hother, htemporary]
    exact Function.update_self ..
  · calc
      _ = _ := Function.update_of_ne hother _ _
      _ = _ := Function.update_of_ne hne _ _
      _ = _ := Function.update_of_ne hother _ _

variable {intent : RetentionOperationIntent} {operationId : JsString}
  {targets : List RetentionJournalTarget}

theorem runAlone_prepare (hid : isOperationId intent.operationId = true)
    (hcandidates : assertCandidates intent.candidates = true)
    (htemporary : dir.names (temporaryName stamp) = none)
    (hfree : dir.names (preparedFileName intent.operationId) = none) :
    runAlone thread (prepareRetentionOperation stamp intent) dir =
      (.ok (preparedRecord intent).fields, publish dir thread stamp
        (preparedFileName intent.operationId) (recordText (preparedRecord intent).fields)) := by
  rw [prepareRetentionOperation, if_pos hid, if_pos hcandidates, runAlone_bind]
  show runAlone thread (publishRecord stamp (preparedFileName intent.operationId)
    (preparedRecord intent).fields >>= _) dir = _
  rw [runAlone_bind, runAlone_publishRecord thread _ (not_isTemporary_prepared _) htemporary hfree]
  rfl

theorem runAlone_verifyRecord {record : Fields} {bytes : JsString}
    (hcontent : dir.content name = some bytes) (hparse : parseRecord bytes = some record) :
    runAlone thread (verifyRecord name record) dir = (.ok record, dir) := by
  rw [verifyRecord, runAlone_bind, runAlone_readRecordFile, hcontent, Option.bind_some, hparse]
  have hsame : ((some record).any fun fields => text (.obj fields) == text (.obj record)) = true :=
    beq_self_eq_true _
  rw [if_pos hsame]
  rfl

theorem runAlone_finalize_of_read {prepared : Fields} (hid : isOperationId operationId = true)
    (htargets : assertTargets targets = true)
    (hread : (dir.content (preparedFileName operationId)).bind parseRecord = some prepared)
    (hterminal : isTerminal prepared = false)
    (hparse : parseRecord (recordText (finalFields prepared targets)) =
      some (finalFields prepared targets)) (htemporary : dir.names (temporaryName stamp) = none)
    (hfree : dir.names (terminalFileName operationId) = none) :
    runAlone thread (finalizeRetentionOperation stamp operationId targets) dir =
      (.ok (finalFields prepared targets), publish dir thread stamp
        (terminalFileName operationId) (recordText (finalFields prepared targets))) := by
  have hname := not_isTemporary_terminal operationId
  rw [finalizeRetentionOperation, if_pos hid, if_pos htargets, runAlone_bind,
    runAlone_readRecordFile, hread]
  show runAlone thread (if isTerminal prepared = true then _ else
    publishRecord stamp (terminalFileName operationId) (finalFields prepared targets) >>= _) dir = _
  rw [hterminal, if_neg Bool.false_ne_true, runAlone_bind,
    runAlone_publishRecord thread _ hname htemporary hfree]
  show runAlone thread (verifyRecord (terminalFileName operationId) (finalFields prepared targets)) _ = _
  exact runAlone_verifyRecord thread (content_publish thread hname _) hparse

theorem runAlone_finalize (hprepared : Prepared operationId intent dir)
    (htargets : assertTargets targets = true) (htemporary : dir.names (temporaryName stamp) = none)
    (hfree : dir.names (terminalFileName operationId) = none) :
    runAlone thread (finalizeRetentionOperation stamp operationId targets) dir =
      (.ok (terminalRecord intent targets).fields, publish dir thread stamp
        (terminalFileName operationId) (recordText (terminalRecord intent targets).fields)) := by
  have hid : isOperationId intent.operationId = true :=
    (congrArg isOperationId hprepared.id_eq).trans hprepared.valid
  have hprepared' : parseRecord (recordText (preparedRecord intent).fields) =
      some (preparedRecord intent).fields :=
    parseRecord_recordText (show isOperationId (preparedRecord intent).operationId = true from hid)
  have hfinal : parseRecord (recordText (terminalRecord intent targets).fields) =
      some (terminalRecord intent targets).fields :=
    parseRecord_recordText
      (show isOperationId (terminalRecord intent targets).operationId = true from hid)
  have hread : (dir.content (preparedFileName operationId)).bind parseRecord =
      some (preparedRecord intent).fields := by
    rw [hprepared.content, Option.bind_some, hprepared']
  have hterminal : isTerminal (preparedRecord intent).fields = false :=
    isTerminal_fields (preparedRecord intent)
  rw [← finalFields_preparedRecord] at hfinal ⊢
  exact runAlone_finalize_of_read thread hprepared.valid htargets hread hterminal hfinal htemporary
    hfree

theorem perform_answer (i : Nat) (op : FsOp) (dir : Directory) :
    Perform i op dir (answer i op dir).1 (answer i op dir).2 := by
  rcases op with _ | name | ⟨node, bytes⟩ | node | name | name | name | ⟨source, destination⟩ |
    name | _
  · exact .root true dir
  · rcases hname : dir.names name with _ | node
    · simp only [answer, hname]
      exact .opened hname
    · simp only [answer, hname]
      exact .openFailed dir name
  · exact .written dir node bytes
  · exact .closed true dir node
  · rcases hname : dir.names name with _ | node
    · simp only [answer, hname]
      exact .missing dir name
    · simp only [answer, hname]
      exact .found hname
  · exact .unlinked dir name
  · rcases hnode : dir.node name with _ | file
    · simp only [answer, hnode]
      exact .unmeasured dir name
    · simp only [answer, hnode]
      exact .measured hnode
  · rcases hsource : dir.names source with _ | node
    · rcases hdestination : dir.names destination with _ | other
      · simp only [answer, hsource, hdestination]
        exact .linkFailed dir source destination
      · simp only [answer, hsource, hdestination]
        exact .linkExists hdestination
    · rcases hdestination : dir.names destination with _ | other
      · simp only [answer, hsource, hdestination]
        exact .linked hsource hdestination
      · simp only [answer, hsource, hdestination]
        exact .linkExists hdestination
  · rcases hcontent : dir.content name with _ | bytes
    · simp only [answer, hcontent]
      exact .unreadable dir name
    · simp only [answer, hcontent]
      exact .read hcontent
  · exact .synced true dir

theorem exists_run_of_call {history : List (Event Call)} {pool : Pool fileSystem Result Call}
    (hrun : Run journal history pool) (call : Call) : ∃ history', Run journal history'
      ⟨(runAlone pool.threads.length call.program pool.shared).2, pool.threads ++
        [(call, some (.done (runAlone pool.threads.length call.program pool.shared).1))]⟩ := by
  have hstep : journal.step pool (.start call) ⟨pool.shared, pool.threads ++
    [(call, some call.program)]⟩ := .start call
  obtain ⟨more, hmore⟩ := exists_run_of_evaluate perform_answer (hrun.step hstep)
    (List.getElem?_concat_length (l := pool.threads) (a := (call, some call.program)))
  refine ⟨history ++ [.start call] ++ more, ?_⟩
  simpa [runAlone, journal] using hmore

theorem exists_run_operation (stamp : JsString) {intent : RetentionOperationIntent}
    (hid : isOperationId intent.operationId = true)
    (hcandidates : assertCandidates intent.candidates = true)
    {targets : List RetentionJournalTarget} (htargets : assertTargets targets = true) :
    ∃ history pool, Run journal history pool ∧ Prepared intent.operationId intent pool.shared ∧
      pool.threads = [ (.prepare stamp intent, some (.done (.ok (preparedRecord intent).fields))),
        (.finalize stamp intent.operationId targets,
          some (.done (.ok (terminalRecord intent targets).fields)))] := by
  obtain ⟨history, hrun⟩ := exists_run_of_call Run.start (.prepare stamp intent)
  have hprepare : runAlone 0 (prepareRetentionOperation stamp intent) Directory.empty = _ :=
    runAlone_prepare 0 hid hcandidates rfl rfl
  have hprepare' : runAlone 0 (Call.prepare stamp intent).program Directory.empty = _ := hprepare
  change Run journal history ⟨(runAlone 0 (Call.prepare stamp intent).program Directory.empty).2,
    [(Call.prepare stamp intent, some (.done
      (runAlone 0 (Call.prepare stamp intent).program Directory.empty).1))]⟩ at hrun
  rw [hprepare'] at hrun
  obtain ⟨-, hprepared, -⟩ := outcome_of_run hrun List.getElem?_cons_zero _ rfl
  have hterminal : (publish Directory.empty 0 stamp (preparedFileName intent.operationId)
      (recordText (preparedRecord intent).fields)).names (terminalFileName intent.operationId) =
        none :=
    names_publish 0 (preparedFileName_ne_terminalFileName _ _).symm rfl _
  have htemporary : (publish Directory.empty 0 stamp (preparedFileName intent.operationId)
      (recordText (preparedRecord intent).fields)).names (temporaryName stamp) = none :=
    Function.update_self ..
  have hfinalize : runAlone 1 (Call.finalize stamp intent.operationId targets).program _ = _ :=
    runAlone_finalize 1 hprepared htargets htemporary hterminal
  obtain ⟨history', hrun'⟩ := exists_run_of_call hrun (.finalize stamp intent.operationId targets)
  change Run journal history' ⟨(runAlone 1 (Call.finalize stamp intent.operationId targets).program
    _).2, [(Call.prepare stamp intent, some (.done (.ok (preparedRecord intent).fields))),
      (Call.finalize stamp intent.operationId targets, some (.done
        (runAlone 1 (Call.finalize stamp intent.operationId targets).program _).1))]⟩ at hrun'
  rw [hfinalize] at hrun'
  obtain ⟨-, hprepared', -⟩ := outcome_of_run hrun' List.getElem?_cons_zero _ rfl
  exact ⟨history', _, hrun', hprepared', rfl⟩

end Alone

/-- Over every interleaving of prepare and finalize calls, crashes included: a terminal
record stays as it is; one call at most has made it; it has its prepared record; and a
prepared operation reads as incomplete exactly until it is linked. -/
theorem journal_consistent (hrun : Run journal history pool) (operationId : JsString) :
    (∀ bytes later, pool.shared.content (terminalFileName operationId) = some bytes →
      Later pool later → later.shared.content (terminalFileName operationId) = some bytes) ∧
    (∀ (i j : Nat) (stamp stamp' : JsString) (targets targets' : List RetentionJournalTarget)
      (record record' : Fields),
      pool.threads[i]? = some (.finalize stamp operationId targets, some (.done (.ok record))) →
      pool.threads[j]? = some (.finalize stamp' operationId targets', some (.done (.ok record'))) →
      i = j) ∧ (pool.shared.names (terminalFileName operationId) ≠ none →
      ∃ intent, Prepared operationId intent pool.shared) ∧
    (∀ (i : Nat) (stamp : JsString) (intent : RetentionOperationIntent) (record : Fields),
      intent.operationId = operationId →
      pool.threads[i]? = some (.prepare stamp intent, some (.done (.ok record))) →
      ∀ reader, (runAlone reader (hasIncompleteRetentionOperation operationId) pool.shared).1 =
        true ↔ pool.shared.names (terminalFileName operationId) = none) := by
  have hinv := wellFormed_of_run hrun
  refine ⟨?_, ?_, ?_, ?_⟩
  · intro bytes later hcontent hlater
    exact content_of_later hrun hlater (not_isTemporary_terminal operationId) hcontent
  · intro i j stamp stamp' targets targets' record record' hi hj
    obtain ⟨intent, -, -, -, hlanded⟩ := outcome_of_run hrun hi record rfl
    obtain ⟨intent', -, -, -, hlanded'⟩ := outcome_of_run hrun hj record' rfl
    exact owner_unique hlanded hlanded'
  · intro hname
    obtain ⟨bytes, hcontent⟩ := Option.ne_none_iff_exists'.mp (mt (content_eq_none_iff hinv).mp hname)
    obtain ⟨intent, -, -, -, hprepared, -⟩ := exists_terminal hinv hcontent
    obtain ⟨intent', hprepared', -⟩ := exists_prepared hinv hprepared
    exact ⟨intent', hprepared'⟩
  · rintro i stamp intent record rfl hi reader
    obtain ⟨-, hprepared, -⟩ := outcome_of_run hrun hi record rfl
    exact hasIncomplete_iff reader hinv hprepared

def oneCandidate : RetentionOperationIntent where
  operationId := "retention-000000000000000000000001".toList
  appliedAt := "2026-01-01T00:00:00.000Z".toList
  gitHead := none
  keepRecent := 1
  planConfirmationDigest := "plan".toList
  refusalSetDigest := "none".toList
  entryCount := 2
  refusedCount := 0
  candidateCount := 1
  reclaimableBytes := some 10
  referenceScanComplete := true
  candidates := [⟨"old".toList, some 10⟩]

theorem isOperationId_oneCandidate : isOperationId oneCandidate.operationId = true := by decide

theorem assertCandidates_oneCandidate : assertCandidates oneCandidate.candidates = true := by decide

theorem journal_consistent_prepared : ∃ history pool, Run journal history pool ∧
    pool.threads.length = 2 ∧ ∀ reader, (runAlone reader
      (hasIncompleteRetentionOperation oneCandidate.operationId) pool.shared).1 = true ↔
        pool.shared.names (terminalFileName oneCandidate.operationId) = none := by
  obtain ⟨history, pool, hrun, -, hthreads⟩ := exists_run_operation [] isOperationId_oneCandidate
    assertCandidates_oneCandidate (show assertTargets [] = true from rfl)
  refine ⟨history, pool, hrun, congrArg List.length hthreads, ?_⟩
  have hfirst := congrArg (fun threads => threads[0]?) hthreads
  exact (journal_consistent hrun _).2.2.2 0 [] oneCandidate _ rfl hfirst

end NightWatch.EvidenceRetention.JournalRuns
