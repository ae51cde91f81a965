import NightWatch.ReviewStore.Store

/-!
What holds in every interleaving of calls of the review store: a decision is published once,
it is found as long as its artifacts are those of today, and nothing else passes for it.
-/

namespace NightWatch.ReviewStore.StoreRuns

open Lib.JsText Lib.JsData Lib.JsData.JsValue Lib.JsonLayout Lib.Guard Lib.Machine Lib.JsRuntime
  ReviewStore.Lifecycle ReviewStore.Store

variable {rt : Runtime} {sha256Hex : JsString → JsString} {sentinel : JsString → Bool}
  {parseJson : JsString → Option JsValue}

theorem corruptIf_eq_ok {condition : Bool} {code : ReviewStoreErrorCode} {detail : JsString} :
    corruptIf condition code detail = .ok () ↔ condition = false := by
  cases condition with
  | false => simp [corruptIf]
  | true => simp [corruptIf]

variable {value : JsValue} {fileName : JsString} {envelope : Fields}
  {binding : FindingReviewBinding} {world world' : World} {event : Event} {reader : Nat}
  {files : List (JsString × File)} {history : List Event}

theorem objectFields_eq_ok {detail : String} {fields : Fields}
    (h : objectFields detail value = .ok fields) : value = .obj fields := by
  cases value with
  | obj fields' => exact congrArg JsValue.obj (Except.ok.inj h)
  | _ => contradiction

theorem mapError_eq_ok {ε ε' α : Type} {f : ε → ε'} {x : Except ε α} {a : α} :
    x.mapError f = .ok a ↔ x = .ok a := by
  cases x with
  | error e => simp [Except.mapError]
  | ok b => simp [Except.mapError]

theorem parseReviewFileName_eq_some {discoveryKey identity : JsString}
    (h : parseReviewFileName fileName = some (discoveryKey, identity)) :
    fileName = fileNameOf discoveryKey identity := by
  dsimp only [parseReviewFileName] at h
  split_ifs at h with hparts
  obtain ⟨hkey, hidentity⟩ := Prod.mk.inj (Option.some.inj h)
  obtain ⟨-, -, -, -, hname⟩ := hparts
  rw [hkey, hidentity] at hname
  exact hname

/-- An envelope whose receipt is intact, and whose identity, finding, record and file name the
receipt binds. -/
structure Authentic (rt : Runtime) (sha256Hex : JsString → JsString) (sentinel : JsString → Bool)
    (fileName : JsString) (envelope : Fields) (binding : FindingReviewBinding) : Prop where
  receipt : verifyReceiptIntegrity rt sha256Hex sentinel (receiptOf envelope) = .ok binding
  identity : field envelope "reviewIdentity".toList = .str (reviewIdentity rt sha256Hex binding)
  finding : field envelope "findingId".toList = .str binding.findingId
  record : ∃ stored storedBinding, field envelope "record".toList = .obj stored ∧
    validateReviewBinding sentinel (field stored "binding".toList) = .ok storedBinding ∧
    stableJsonSorted rt storedBinding.value = stableJsonSorted rt binding.value
  name : fileName = reviewFileName rt sha256Hex binding

theorem authentic_of_validate
    (h : validateStoredReviewEnvelope rt sha256Hex sentinel value fileName = .ok envelope) :
    value = .obj envelope ∧
      ∃ binding, Authentic rt sha256Hex sentinel fileName envelope binding := by
  simp only [validateStoredReviewEnvelope, bind_eq_ok] at h
  obtain ⟨⟨discoveryKey, identity⟩, hparsed, fields, hfields, -, -, -, -, -, -, -, -, -, -, -, -,
    stored, hstored, receipt, hreceipt, binding, hbinding, -, -, -, -, storedBinding,
    hstoredBinding, -, -, ⟨⟩, hsame, -, -, ⟨⟩, hidentity, ⟨⟩, hname, ⟨⟩, hfinding, ⟨⟩, hkey, h⟩ := h
  obtain rfl := Except.ok.inj h
  simp only [corruptIf_eq_ok, Bool.not_eq_false', isText_iff, ne_eq, decide_not,
    decide_eq_true_eq] at hsame hidentity hname hfinding hkey
  refine ⟨objectFields_eq_ok hfields, binding, ?_, hidentity, hfinding, ?_, ?_⟩
  · rw [receiptOf, objectFields_eq_ok hreceipt]
    exact mapError_eq_ok.mp hbinding
  · exact ⟨stored, storedBinding, objectFields_eq_ok hstored, mapError_eq_ok.mp hstoredBinding, hsame⟩
  · have hparsed : parseReviewFileName fileName = some (discoveryKey, identity) := by
      split at hparsed
      · rename_i parsed hsome
        rw [hsome, Except.ok.inj hparsed]
      · contradiction
    rw [parseReviewFileName_eq_some hparsed, reviewFileName, ← hname, ← hkey]

variable {fileName' : JsString} {a b : FindingReviewBinding}

theorem Authentic.unique (ha : Authentic rt sha256Hex sentinel fileName envelope a)
    (hb : Authentic rt sha256Hex sentinel fileName' envelope b) : a = b :=
  Except.ok.inj (ha.receipt.symm.trans hb.receipt)

variable {fileName : JsString} {envelope envelope' : Fields}

theorem reviewFileName_congr (hcollates : Collates rt)
    (ha : Authentic rt sha256Hex sentinel fileName envelope a)
    (hb : Authentic rt sha256Hex sentinel fileName' envelope' b) (hfields : a.fields = b.fields) :
    fileName = fileName' := by
  have hidentity : reviewIdentity rt sha256Hex a = reviewIdentity rt sha256Hex b := by
    have hvalid := (verifyReceiptIntegrity_eq_ok ha.receipt).1
    have hvalid' := (verifyReceiptIntegrity_eq_ok hb.receipt).1
    rw [reviewIdentity, reviewIdentity, (validateReviewBinding_eq_ok hvalid).1,
      (validateReviewBinding_eq_ok hvalid').1, stable_binding hcollates hvalid,
      stable_binding hcollates hvalid', hfields]
  have hfinding : a.findingId = b.findingId := by
    have hhead := congrArg List.head? hfields
    rw [FindingReviewBinding.fields, FindingReviewBinding.fields, List.head?_cons,
      List.head?_cons] at hhead
    exact JsValue.str.inj (Prod.mk.inj (Option.some.inj hhead)).2
  rw [ha.name, hb.name, reviewFileName, reviewFileName, hidentity, hfinding]

section Reads

variable {findingId : JsString} {current : CurrentReviewArtifacts}

def currentOf (rt : Runtime) (sha256Hex : JsString → JsString) (sentinel : JsString → Bool)
    (findingId : JsString) (current : CurrentReviewArtifacts)
    (file : JsString × Except JsString JsValue) : Option Fields :=
  match file.2 with
  | .error _ => none
  | .ok raw =>
      match validateStoredReviewEnvelope rt sha256Hex sentinel raw file.1 with
      | .error _ => none
      | .ok envelope =>
          if isText (field envelope "findingId".toList) findingId then
            match verifyReviewCurrent rt sha256Hex sentinel (receiptOf envelope) current with
            | .ok () => some envelope
            | .error _ => none
          else none

variable {found : Findings} {fileName : JsString} {envelope : Fields}

theorem currentEnvelope_addEnvelope :
    (found.addEnvelope rt sha256Hex sentinel findingId current fileName envelope).currentEnvelope =
      found.currentEnvelope.or
        (if isText (field envelope "findingId".toList) findingId then
          match verifyReviewCurrent rt sha256Hex sentinel (receiptOf envelope) current with
          | .ok () => some envelope
          | .error _ => none
        else none) := by
  unfold Findings.addEnvelope
  generalize isText (field envelope "findingId".toList) findingId = belongs
  generalize verifyReviewCurrent rt sha256Hex sentinel (receiptOf envelope) current = verified
  cases belongs with
  | false =>
      rw [if_pos (by rfl), if_neg (by decide), Option.or_none]
      rfl
  | true =>
      rw [if_neg (by decide), if_pos rfl]
      cases verified with
      | error message =>
          dsimp only
          rw [Option.or_none]
          split
          · rfl
          · rfl
      | ok verified => rfl

theorem currentEnvelope_addInvalid {error : ReviewError} :
    (found.addInvalid fileName error).currentEnvelope = found.currentEnvelope := by
  cases error with
  | plain message => rfl
  | store code detail => rfl
  | unsupported versioned version => rfl

variable {file : JsString × Except JsString JsValue}

theorem currentEnvelope_addFile :
    (found.addFile rt sha256Hex sentinel findingId current file).currentEnvelope =
      found.currentEnvelope.or (currentOf rt sha256Hex sentinel findingId current file) := by
  obtain ⟨fileName, content⟩ := file
  rcases content with message | raw
  · have hnone : currentOf rt sha256Hex sentinel findingId current (fileName, .error message) =
        none := rfl
    rw [hnone, Option.or_none]
    rfl
  · rcases hvalid : validateStoredReviewEnvelope rt sha256Hex sentinel raw fileName with
      error | envelope
    · have hnone : currentOf rt sha256Hex sentinel findingId current (fileName, .ok raw) = none := by
        simp only [currentOf, hvalid]
      rw [hnone, Option.or_none]
      unfold Findings.addFile
      split
      · contradiction
      · rfl
      · rename_i raw' _ hraw
        obtain rfl := Except.ok.inj hraw
        rw [hvalid]
        exact currentEnvelope_addInvalid
    · obtain ⟨rfl, -⟩ := authentic_of_validate hvalid
      simp only [Findings.addFile, currentOf, hvalid]
      exact currentEnvelope_addEnvelope

theorem currentEnvelope_foldl (files : List (JsString × Except JsString JsValue))
    (found : Findings) :
    (files.foldl (Findings.addFile rt sha256Hex sentinel findingId current) found).currentEnvelope =
      found.currentEnvelope.or
        (files.filterMap (currentOf rt sha256Hex sentinel findingId current)).head? := by
  induction files generalizing found with
  | nil => simp
  | cons file rest ih =>
      rw [List.foldl_cons, ih, currentEnvelope_addFile, List.filterMap_cons]
      rcases currentOf rt sha256Hex sentinel findingId current file with _ | envelope
      · simp
      · cases found.currentEnvelope with
        | none => simp
        | some first => simp

theorem readResult_current_iff {files : List (JsString × Except JsString JsValue)} :
    (readResult rt sha256Hex sentinel findingId current files).state = .current ∧
        (readResult rt sha256Hex sentinel findingId current files).envelope = some envelope ↔
      (files.filterMap (currentOf rt sha256Hex sentinel findingId current)).head? =
        some envelope := by
  have hfound : (files.foldl (Findings.addFile rt sha256Hex sentinel findingId current)
      ⟨[], [], [], none, none⟩).currentEnvelope = _ := currentEnvelope_foldl files _
  simp only [Option.none_or] at hfound
  rw [← hfound, readResult]
  generalize files.foldl _ _ = found
  unfold resultOf
  split
  · rename_i first _ hfirst
    simp [hfirst]
  · rename_i hnone _
    simp [hnone]
  · rename_i hnone _
    simp only [hnone, reduceCtorEq, and_false]

theorem currentOf_eq_some
    (h : currentOf rt sha256Hex sentinel findingId current file = some envelope) :
    ∃ binding, Authentic rt sha256Hex sentinel file.1 envelope binding ∧
      binding.findingId = findingId ∧ Binds rt sha256Hex binding current ∧
      file.2 = .ok (.obj envelope) := by
  unfold currentOf at h
  split at h
  · contradiction
  · rename_i raw hraw
    split at h
    · contradiction
    · rename_i valid hvalid
      split_ifs at h with hfinding
      split at h
      · rename_i hcurrent
        obtain rfl := Option.some.inj h
        obtain ⟨rfl, binding, hauthentic⟩ := authentic_of_validate hvalid
        obtain ⟨binding', hreceipt, hbinds⟩ := verifyReviewCurrent_eq_ok.mp hcurrent
        obtain rfl := Except.ok.inj (hauthentic.receipt.symm.trans hreceipt)
        refine ⟨binding, hauthentic, ?_, hbinds, hraw⟩
        exact JsValue.str.inj (hauthentic.finding.symm.trans (isText_iff.mp hfinding))
      · contradiction

theorem currentOf_of_binds {binding : FindingReviewBinding}
    (hvalid : validateStoredReviewEnvelope rt sha256Hex sentinel (.obj envelope) fileName =
      .ok envelope) (hauthentic : Authentic rt sha256Hex sentinel fileName envelope binding)
    (hfinding : binding.findingId = findingId) (hbinds : Binds rt sha256Hex binding current) :
    currentOf rt sha256Hex sentinel findingId current (fileName, .ok (.obj envelope)) =
      some envelope := by
  have hcurrent := verifyReviewCurrent_eq_ok.mpr ⟨binding, hauthentic.receipt, hbinds⟩
  have htext : isText (field envelope "findingId".toList) findingId = true := by
    rw [isText_iff, hauthentic.finding, hfinding]
  simp only [currentOf, hvalid, htext, if_true, hcurrent]

end Reads

theorem isData_binding
    (h : validateReviewBinding sentinel value = .ok binding) : IsData binding.value := by
  obtain ⟨hvalue, fields, rfl, hperm⟩ := validateReviewBinding_eq_ok h
  rw [hvalue]
  refine .obj ?_
  intro v hmem
  obtain ⟨entry, hentry, rfl⟩ := List.mem_map.mp hmem
  have hentry := hperm.mem_iff.mp hentry
  simp only [FindingReviewBinding.fields, List.mem_cons, List.not_mem_nil, or_false] at hentry
  rcases hentry with rfl | rfl | rfl | rfl | rfl | rfl | rfl | rfl
  · exact .str _
  · exact .str _
  · exact .str _
  · cases binding.handoffDigest with
    | none => exact .null
    | some digest => exact .str digest
  · exact .str _
  · exact .str _
  · exact .str _
  · exact .str _

theorem isData_obj_nil : IsData (.obj []) := .obj fun v hmem => by contradiction

variable {name : JsString} {writer : Nat} {past : List Event} {dossier : String}

theorem isData_obj_cons {rest : Fields} (hvalue : IsData value)
    (hrest : IsData (.obj rest)) : IsData (.obj ((name, value) :: rest)) := by
  refine .obj ?_
  intro v hmem
  rcases List.mem_cons.mp hmem with rfl | hmem
  · exact hvalue
  · cases hrest with
    | obj hvalues => exact hvalues v hmem

theorem isData_texts (texts : List JsString) : IsData (.arr (texts.map .str)) := by
  refine .arr ?_
  intro v hmem
  obtain ⟨text, -, rfl⟩ := List.mem_map.mp hmem
  exact .str text

theorem isData_decided {decision : FindingReviewDecision}
    {reviewedAt : JsString} {rationale reasonCode : Option JsString} {decided : Fields × Fields}
    (hbinding : IsData binding.value)
    (h : decideReview rt sha256Hex sentinel binding decision reviewedAt rationale reasonCode =
      .ok decided) : IsData (.obj decided.1) ∧ IsData (.obj decided.2) := by
  obtain ⟨_, -, h⟩ := bind_eq_ok.mp h
  obtain ⟨_, -, h⟩ := bind_eq_ok.mp h
  obtain ⟨_, -, h⟩ := bind_eq_ok.mp h
  obtain rfl := Except.ok.inj h
  have hreason : IsData ((reasonCode.map JsValue.str).getD .null) := by
    cases reasonCode with
    | none => exact .null
    | some code => exact .str code
  constructor
  · exact isData_obj_cons (.str _) <| isData_obj_cons (.str _) <| isData_obj_cons hbinding <|
      isData_obj_cons (.num 1) <| isData_obj_cons hreason isData_obj_nil
  · exact isData_obj_cons (.str _) <| isData_obj_cons hbinding <| isData_obj_cons (.str _) <|
      isData_obj_cons (.str _) <| isData_obj_cons (.str _) <| isData_obj_cons (.str _) <|
      isData_obj_cons (.str _) <| isData_obj_cons (isData_texts _) <| isData_obj_cons (.str _)
      isData_obj_nil

/-- What `putDecision` publishes: it validates under its name, and is plain data. -/
structure Admitted (rt : Runtime) (sha256Hex : JsString → JsString) (sentinel : JsString → Bool)
    (fileName : JsString) (envelope : Fields) : Prop where
  valid : validateStoredReviewEnvelope rt sha256Hex sentinel (.obj envelope) fileName = .ok envelope
  data : IsData (.obj envelope)

variable {input : PutReviewDecisionInput}

theorem admitted_of_prepare
    (h : prepareDecision rt sha256Hex sentinel input = .ok (fileName, envelope)) :
    Admitted rt sha256Hex sentinel fileName envelope := by
  obtain ⟨binding, hbinding, h⟩ := bind_eq_ok.mp h
  obtain ⟨_, -, h⟩ := bind_eq_ok.mp h
  obtain ⟨decided, hdecided, h⟩ := bind_eq_ok.mp h
  obtain ⟨checked, hchecked, h⟩ := bind_eq_ok.mp h
  obtain ⟨rfl, rfl⟩ := Prod.mk.inj (Except.ok.inj h)
  obtain ⟨hrecord, hreceipt⟩ := isData_decided (isData_binding (mapError_eq_ok.mp hbinding))
    (mapError_eq_ok.mp hdecided)
  have hsame := (authentic_of_validate hchecked).1
  refine ⟨hsame ▸ hchecked, ?_⟩
  rw [← hsame]
  exact isData_obj_cons (.str _) <| isData_obj_cons (.str _) <| isData_obj_cons (.str _) <|
    isData_obj_cons hreceipt <| isData_obj_cons hrecord <| isData_obj_cons (.str _) <|
    isData_obj_cons (.str _) isData_obj_nil

/-- A published decision, where the store has put it. -/
structure Kept (world : World) (fileName : JsString) (envelope : Fields) : Prop where
  published : fileName ∈ world.published
  listed : fileName ∈ world.names
  content : world.files fileName = some (.plain (payload envelope))
  named : isArtifactName fileName = true

theorem kept_setFile
    (file : Option File) (h : Kept world fileName envelope) (hne : name ≠ fileName) :
    Kept (world.setFile name file) fileName envelope := by
  obtain ⟨hpublished, hlisted, hcontent, hnamed⟩ := h
  refine ⟨hpublished, ?_, ?_, hnamed⟩
  · have hstill : fileName ∈ world.names.filter (· ≠ name) := by
      rw [List.mem_filter]
      exact ⟨hlisted, by simpa using hne.symm⟩
    dsimp only [World.setFile]
    split
    · exact List.mem_cons_of_mem _ hstill
    · exact hstill
  · dsimp only [World.setFile]
    rw [Function.update_of_ne hne.symm]
    exact hcontent

theorem kept_step (h : Kept world fileName envelope)
    (hstep : Step rt sha256Hex sentinel parseJson world event world') :
    Kept world' fileName envelope := by
  cases hstep with
  | prepared => exact ⟨h.published, h.listed, h.content, h.named⟩
  | linked hprepared hname habsent =>
      rename_i writer name other
      have hne : name ≠ fileName := by
        rintro rfl
        rw [h.content] at habsent
        contradiction
      obtain ⟨hpublished, hlisted, hcontent, hnamed⟩ :=
        kept_setFile (some (.plain (payload other))) h hne
      exact ⟨List.mem_cons_of_mem _ hpublished, hlisted, hcontent, hnamed⟩
  | alreadyDecided => exact ⟨h.published, h.listed, h.content, h.named⟩
  | threw => exact ⟨h.published, h.listed, h.content, h.named⟩
  | stored => exact ⟨h.published, h.listed, h.content, h.named⟩
  | changed hother =>
      apply kept_setFile _ h
      rintro rfl
      exact hother h.published
  | listed => exact ⟨h.published, h.listed, h.content, h.named⟩
  | opened => exact ⟨h.published, h.listed, h.content, h.named⟩
  | returned => exact ⟨h.published, h.listed, h.content, h.named⟩

/-- What the calls so far have left behind. -/
structure Consistent (rt : Runtime) (sha256Hex : JsString → JsString) (sentinel : JsString → Bool)
    (history : List Event) (world : World) : Prop where
  kept : ∀ writer fileName envelope, .linked writer fileName envelope ∈ history →
    Kept world fileName envelope ∧ Admitted rt sha256Hex sentinel fileName envelope
  prepared : ∀ writer fileName envelope,
    world.writers writer = some (.prepared fileName envelope) →
      Admitted rt sha256Hex sentinel fileName envelope
  linked : ∀ writer fileName envelope, world.writers writer = some (.linked fileName envelope) →
    .linked writer fileName envelope ∈ history
  asked : ∀ reader reading, world.readers reader = some (some reading) →
    ∃ listing, .listed reader reading.findingId reading.current listing ∈ history
  begun : ∀ reader findingId current listing,
    .listed reader findingId current listing ∈ history → (world.readers reader).isSome = true

variable {writer : Nat}

theorem writers_step (hstep : Step rt sha256Hex sentinel parseJson world event world')
    {writing : Writing} (h : world'.writers writer = some writing) :
    world.writers writer = some writing ∨ writing = .ended ∨
      (∃ input fileName envelope, writing = .prepared fileName envelope ∧
        prepareDecision rt sha256Hex sentinel input = .ok (fileName, envelope)) ∨
      ∃ fileName envelope, writing = .linked fileName envelope ∧
        event = .linked writer fileName envelope := by
  have hset (base : World) {other : Nat} {after : Writing}
      (hsame : base.writers = world.writers)
      (hafter : (base.setWriter other after).writers writer = some writing) :
      world.writers writer = some writing ∨ other = writer ∧ after = writing := by
    dsimp only [World.setWriter] at hafter
    rcases eq_or_ne writer other with rfl | hne
    · rw [Function.update_self] at hafter
      exact .inr ⟨rfl, Option.some.inj hafter⟩
    · rw [Function.update_of_ne hne, hsame] at hafter
      exact .inl hafter
  cases hstep with
  | prepared hfresh hprepared =>
      rcases hset _ rfl h with hsame | ⟨-, rfl⟩
      · exact .inl hsame
      · exact .inr (.inr (.inl ⟨_, _, _, rfl, hprepared⟩))
  | linked hprepared hname habsent =>
      rcases hset (world.setFile _ _) rfl h with hsame | ⟨rfl, rfl⟩
      · exact .inl hsame
      · exact .inr (.inr (.inr ⟨_, _, rfl, rfl⟩))
  | alreadyDecided =>
      rcases hset _ rfl h with hsame | ⟨-, rfl⟩
      · exact .inl hsame
      · exact .inr (.inl rfl)
  | threw =>
      rcases hset _ rfl h with hsame | ⟨-, rfl⟩
      · exact .inl hsame
      · exact .inr (.inl rfl)
  | stored =>
      rcases hset _ rfl h with hsame | ⟨-, rfl⟩
      · exact .inl hsame
      · exact .inr (.inl rfl)
  | changed => exact .inl h
  | listed => exact .inl h
  | opened => exact .inl h
  | returned => exact .inl h

variable {reader : Nat} {reading : Reading}

theorem readers_step
    (hstep : Step rt sha256Hex sentinel parseJson world event world')
    (h : world'.readers reader = some (some reading)) : world.readers reader = some (some reading) ∨
      (∃ findingId current listing, event = .listed reader findingId current listing ∧
        world.readers reader = none ∧
        reading = ⟨findingId, current, fileNamesFor rt sha256Hex world findingId listing, []⟩) ∨
      ∃ before name rest, world.readers reader = some (some before) ∧
        before.pending = name :: rest ∧
        reading = { before with
          pending := rest
          files := before.files ++ [(name, readJson parseJson world.files name)] } := by
  have hset {other : Nat} {after : Option Reading}
      (hafter : (world.setReader other after).readers reader = some (some reading)) :
      world.readers reader = some (some reading) ∨ other = reader ∧ after = some reading := by
    dsimp only [World.setReader] at hafter
    rcases eq_or_ne reader other with rfl | hne
    · rw [Function.update_self] at hafter
      exact .inr ⟨rfl, Option.some.inj hafter⟩
    · rw [Function.update_of_ne hne] at hafter
      exact .inl hafter
  cases hstep with
  | prepared => exact .inl h
  | linked => exact .inl h
  | alreadyDecided => exact .inl h
  | threw => exact .inl h
  | stored => exact .inl h
  | changed => exact .inl h
  | listed hfresh hfinding =>
      rcases hset h with hsame | ⟨rfl, hafter⟩
      · exact .inl hsame
      · exact .inr (.inl ⟨_, _, _, rfl, hfresh, (Option.some.inj hafter).symm⟩)
  | opened hreading hpending =>
      rcases hset h with hsame | ⟨rfl, hafter⟩
      · exact .inl hsame
      · exact .inr (.inr ⟨_, _, _, hreading, hpending, (Option.some.inj hafter).symm⟩)
  | returned hreading hdone =>
      rcases hset h with hsame | ⟨-, hafter⟩
      · exact .inl hsame
      · contradiction

theorem readers_isSome_step (hstep : Step rt sha256Hex sentinel parseJson world event world')
    (h : (world.readers reader).isSome = true) : (world'.readers reader).isSome = true := by
  have hset {other : Nat} {after : Option Reading} :
      ((world.setReader other after).readers reader).isSome = true := by
    dsimp only [World.setReader]
    rcases eq_or_ne reader other with rfl | hne
    · rw [Function.update_self]
      rfl
    · rw [Function.update_of_ne hne]
      exact h
  cases hstep with
  | prepared => exact h
  | linked => exact h
  | alreadyDecided => exact h
  | threw => exact h
  | stored => exact h
  | changed => exact h
  | listed => exact hset
  | opened => exact hset
  | returned => exact hset

theorem linked_step
    (hstep : Step rt sha256Hex sentinel parseJson world (.linked writer fileName envelope) world') :
    world.writers writer = some (.prepared fileName envelope) ∧ world.files fileName = none ∧
      Kept world' fileName envelope := by
  cases hstep with
  | linked hprepared hname habsent =>
      refine ⟨hprepared, habsent, List.mem_cons_self, List.mem_cons_self, ?_, hname⟩
      exact Function.update_self _ _ _

variable {current : CurrentReviewArtifacts} {listing : Option (JsString → List JsString)}
  {findingId : JsString}

theorem listed_step
    (hstep : Step rt sha256Hex sentinel parseJson world (.listed reader findingId current listing)
      world') : world.readers reader = none ∧ (world'.readers reader).isSome = true := by
  cases hstep with
  | listed hfresh hfinding =>
      refine ⟨hfresh, ?_⟩
      dsimp only [World.setReader]
      rw [Function.update_self]
      rfl

theorem consistent_start : Consistent rt sha256Hex sentinel [] (start files) := by
  refine ⟨?_, ?_, ?_, ?_, ?_⟩
  · intro _ _ _ hmem
    contradiction
  · intro _ _ _ hwriter
    contradiction
  · intro _ _ _ hwriter
    contradiction
  · intro _ _ hreader
    contradiction
  · intro _ _ _ _ hmem
    contradiction

theorem consistent_step (h : Consistent rt sha256Hex sentinel past world)
    (hstep : Step rt sha256Hex sentinel parseJson world event world') :
    Consistent rt sha256Hex sentinel (past ++ [event]) world' := by
  refine ⟨?_, ?_, ?_, ?_, ?_⟩
  · intro writer fileName envelope hmem
    rcases List.mem_append.mp hmem with hpast | hlast
    · obtain ⟨hkept, hadmitted⟩ := h.kept _ _ _ hpast
      exact ⟨kept_step hkept hstep, hadmitted⟩
    · obtain rfl := List.mem_singleton.mp hlast
      obtain ⟨hprepared, -, hkept⟩ := linked_step hstep
      exact ⟨hkept, h.prepared _ _ _ hprepared⟩
  · intro writer fileName envelope hwriter
    rcases writers_step hstep hwriter with
      hsame | hended | ⟨input, name, prepared, hwriting, hprepared⟩ | ⟨name, linked, hwriting, -⟩
    · exact h.prepared _ _ _ hsame
    · contradiction
    · obtain ⟨rfl, rfl⟩ := Writing.prepared.inj hwriting
      exact admitted_of_prepare hprepared
    · contradiction
  · intro writer fileName envelope hwriter
    rcases writers_step hstep hwriter with
      hsame | hended | ⟨input, name, prepared, hwriting, -⟩ | ⟨name, linked, hwriting, hevent⟩
    · exact List.mem_append_left _ (h.linked _ _ _ hsame)
    · contradiction
    · contradiction
    · obtain ⟨rfl, rfl⟩ := Writing.linked.inj hwriting
      exact List.mem_append_right _ (List.mem_singleton.mpr hevent.symm)
  · intro reader reading hreader
    rcases readers_step hstep hreader with
      hsame | ⟨findingId, current, listing, hevent, -, rfl⟩ | ⟨before, name, rest, hbefore, -, rfl⟩
    · obtain ⟨listing, hlisted⟩ := h.asked _ _ hsame
      exact ⟨listing, List.mem_append_left _ hlisted⟩
    · exact ⟨listing, List.mem_append_right _ (List.mem_singleton.mpr hevent.symm)⟩
    · obtain ⟨listing, hlisted⟩ := h.asked _ _ hbefore
      exact ⟨listing, List.mem_append_left _ hlisted⟩
  · intro reader findingId current listing hmem
    rcases List.mem_append.mp hmem with hpast | hlast
    · exact readers_isSome_step hstep (h.begun _ _ _ _ hpast)
    · obtain rfl := List.mem_singleton.mp hlast
      exact (listed_step hstep).2

theorem consistent_of_run
    (hrun : Run (reviewStore rt sha256Hex sentinel parseJson files) history world) :
    Consistent rt sha256Hex sentinel history world :=
  hrun.invariant consistent_start fun _ _ _ _ h hstep => consistent_step h hstep

/-- A read that was begun after a decision was published. -/
def ListedAfter (history : List Event) (fileName : JsString) (envelope : Fields) (reader : Nat)
    (findingId : JsString) (current : CurrentReviewArtifacts) : Prop :=
  ∃ m n writer : Nat, m < n ∧ history[m]? = some (Event.linked writer fileName envelope) ∧
    history[n]? = some (Event.listed reader findingId current none)

theorem listedAfter_concat
    (h : ListedAfter (past ++ [event]) fileName envelope reader findingId current) :
    ListedAfter past fileName envelope reader findingId current ∨
      (∃ writer, .linked writer fileName envelope ∈ past) ∧
        event = .listed reader findingId current none := by
  obtain ⟨m, n, writer, hlt, hlinked, hlisted⟩ := h
  have hn : n < (past ++ [event]).length := (List.getElem?_eq_some_iff.mp hlisted).1
  rw [List.length_append, List.length_singleton] at hn
  have hpast : past[m]? = some (.linked writer fileName envelope) := by
    rcases getElem?_concat_eq.mp hlinked with hpast | ⟨rfl, -⟩
    · exact hpast
    · omega
  rcases getElem?_concat_eq.mp hlisted with hlisted | ⟨-, rfl⟩
  · exact .inl ⟨m, n, writer, hlt, hpast, hlisted⟩
  · exact .inr ⟨⟨writer, List.mem_of_getElem? hpast⟩, rfl⟩

/-- A read that has a decision before it or behind it, and nothing else under its name. -/
structure Follows (reading : Reading) (fileName : JsString) (envelope : Fields) (findingId : JsString)
    (current : CurrentReviewArtifacts) : Prop where
  findingId : reading.findingId = findingId
  current : reading.current = current
  reached : fileName ∈ reading.pending ∨ (fileName, .ok (.obj envelope)) ∈ reading.files
  only : ∀ content, (fileName, content) ∈ reading.files → content = .ok (.obj envelope)

variable {world : World}

theorem readJson_kept (hparse : ∀ v, IsData v → parseJson (stringifyLines v ++ ['\n']) = some v)
    (hkept : Kept world fileName envelope)
    (hadmitted : Admitted rt sha256Hex sentinel fileName envelope) :
    readJson parseJson world.files fileName = .ok (.obj envelope) := by
  have hread : parseJson (payload envelope) = some (.obj envelope) := hparse _ hadmitted.data
  simp only [readJson, hkept.named, hkept.content, hread, Bool.not_true, Bool.false_eq_true,
    if_false]

theorem mem_listJson {start : JsString}
    (hkept : Kept world fileName envelope) (hstart : startsWith fileName start = true) :
    fileName ∈ listJson rt world start := by
  rw [listJson, (List.perm_insertionSort _ _).mem_iff, List.mem_filter]
  exact ⟨hkept.listed, by rw [hkept.named, hstart]; rfl⟩

theorem follows_step (hparse : ∀ v, IsData v → parseJson (stringifyLines v ++ ['\n']) = some v)
    {world' : World} {event : Event} (hkept : Kept world fileName envelope)
    (hadmitted : Admitted rt sha256Hex sentinel fileName envelope)
    (hbegun : (world.readers reader).isSome = true)
    (h : ∀ before, world.readers reader = some (some before) →
      Follows before fileName envelope findingId current)
    (hstep : Step rt sha256Hex sentinel parseJson world event world')
    (hreader : world'.readers reader = some (some reading)) :
    Follows reading fileName envelope findingId current := by
  rcases readers_step hstep hreader with
    hsame | ⟨_, _, _, -, hfresh, -⟩ | ⟨before, name, rest, hbefore, hpending, rfl⟩
  · exact h reading hsame
  · rw [hfresh] at hbegun
    contradiction
  · obtain ⟨hfinding, hcurrent, hreached, honly⟩ := h before hbefore
    have hread := readJson_kept hparse hkept hadmitted
    refine ⟨hfinding, hcurrent, ?_, ?_⟩
    · rcases hreached with hmem | hmem
      · rw [hpending] at hmem
        rcases List.mem_cons.mp hmem with rfl | hmem
        · rw [← hread]
          exact .inr (List.mem_append_right _ (List.mem_singleton.mpr rfl))
        · exact .inl hmem
      · exact .inr (List.mem_append_left _ hmem)
    · intro content hmem
      rcases List.mem_append.mp hmem with hmem | hmem
      · exact honly content hmem
      · obtain ⟨rfl, rfl⟩ := Prod.mk.inj (List.mem_singleton.mp hmem)
        exact hread

variable {files : List (JsString × File)} {history : List Event}

theorem follows_of_run (hparse : ∀ v, IsData v → parseJson (stringifyLines v ++ ['\n']) = some v)
    (hrun : Run (reviewStore rt sha256Hex sentinel parseJson files) history world) :
    ∀ fileName envelope reader findingId current,
      ListedAfter history fileName envelope reader findingId current →
      startsWith fileName (reviewFileNamePrefix sha256Hex findingId) = true →
      ∀ reading, world.readers reader = some (some reading) →
        Follows reading fileName envelope findingId current := by
  induction hrun with
  | start =>
      rintro fileName envelope reader findingId current ⟨m, n, writer, -, hlinked, -⟩
      simp at hlinked
  | @step past world world' event hrun hstep ih =>
      intro fileName envelope reader findingId current hafter hstart reading hreader
      have hconsistent := consistent_of_run hrun
      rcases listedAfter_concat hafter with hpast | ⟨⟨writer, hlinked⟩, rfl⟩
      · have hbefore := ih fileName envelope reader findingId current hpast hstart
        obtain ⟨m, n, writer, -, hlinked, hlisted⟩ := hpast
        obtain ⟨hkept, hadmitted⟩ := hconsistent.kept _ _ _ (List.mem_of_getElem? hlinked)
        exact follows_step hparse hkept hadmitted
          (hconsistent.begun _ _ _ _ (List.mem_of_getElem? hlisted)) hbefore hstep hreader
      · obtain ⟨hkept, -⟩ := hconsistent.kept _ _ _ hlinked
        have hfresh := (listed_step hstep).1
        rcases readers_step hstep hreader with
          hsame | ⟨_, _, _, hevent, -, rfl⟩ | ⟨before, _, _, hbefore, -⟩
        · rw [hfresh] at hsame
          contradiction
        · obtain ⟨-, rfl, rfl, rfl⟩ := Event.listed.inj hevent
          refine ⟨rfl, rfl, .inl (mem_listJson hkept hstart), ?_⟩
          intro content hmem
          contradiction
        · rw [hfresh] at hbefore
          contradiction

def decidedBindings (rt : Runtime) (sha256Hex : JsString → JsString) (sentinel : JsString → Bool)
    (history : List Event) : Set FindingReviewBinding :=
  {binding | ∃ writer fileName envelope, Event.linked writer fileName envelope ∈ history ∧
    Authentic rt sha256Hex sentinel fileName envelope binding}

/-- The identity tells the bindings of a history apart. -/
def SeparatesBindings (rt : Runtime) (sha256Hex : JsString → JsString) (sentinel : JsString → Bool)
    (history : List Event) : Prop :=
  ∀ a ∈ decidedBindings rt sha256Hex sentinel history,
    ∀ b ∈ decidedBindings rt sha256Hex sentinel history,
      reviewIdentity rt sha256Hex a = reviewIdentity rt sha256Hex b → a.fields = b.fields

theorem authentic_of_admitted (h : Admitted rt sha256Hex sentinel fileName envelope) :
    ∃ binding, Authentic rt sha256Hex sentinel fileName envelope binding :=
  (authentic_of_validate h.valid).2

variable {i j : Nat}

theorem linked_once (hrun : Run (reviewStore rt sha256Hex sentinel parseJson files) history world)
    {writer' : Nat} (hlt : i < j) (hi : history[i]? = some (.linked writer fileName envelope))
    (hj : history[j]? = some (.linked writer' fileName envelope')) : False := by
  obtain ⟨before, after, hbefore, hstep⟩ := hrun.at hj
  have hpast : .linked writer fileName envelope ∈ history.take j := by
    apply List.mem_of_getElem? (i := i)
    rw [List.getElem?_take_of_lt hlt]
    exact hi
  have hkept := ((consistent_of_run hbefore).kept _ _ _ hpast).1
  have habsent := (linked_step hstep).2.1
  rw [hkept.content] at habsent
  contradiction

theorem identity_once (hcollates : Collates rt)
    (hrun : Run (reviewStore rt sha256Hex sentinel parseJson files) history world)
    (hseparates : SeparatesBindings rt sha256Hex sentinel history) {writer' : Nat}
    (hi : history[i]? = some (.linked writer fileName envelope))
    (hj : history[j]? = some (.linked writer' fileName' envelope'))
    (hidentity : field envelope "reviewIdentity".toList = field envelope' "reviewIdentity".toList) :
    i = j := by
  have hconsistent := consistent_of_run hrun
  have hmem := List.mem_of_getElem? hi
  have hmem' := List.mem_of_getElem? hj
  obtain ⟨a, ha⟩ := authentic_of_admitted (hconsistent.kept _ _ _ hmem).2
  obtain ⟨b, hb⟩ := authentic_of_admitted (hconsistent.kept _ _ _ hmem').2
  rw [ha.identity, hb.identity] at hidentity
  have hfields := hseparates a ⟨_, _, _, hmem, ha⟩ b ⟨_, _, _, hmem', hb⟩
    (JsValue.str.inj hidentity)
  obtain rfl := reviewFileName_congr hcollates ha hb hfields
  rcases lt_trichotomy i j with hlt | heq | hlt
  · exact (linked_once hrun hlt hi hj).elim
  · exact heq
  · exact (linked_once hrun hlt hj hi).elim

theorem stored_step
    (hstep : Step rt sha256Hex sentinel parseJson world (.stored writer fileName envelope) world') :
    world.writers writer = some (.linked fileName envelope) := by
  cases hstep with
  | stored hlinked => exact hlinked

variable {result : ReviewStoreReadResult}

theorem returned_step
    (hstep : Step rt sha256Hex sentinel parseJson world (.returned reader result) world') :
    ∃ reading, world.readers reader = some (some reading) ∧ reading.pending = [] ∧
      result = readResult rt sha256Hex sentinel reading.findingId reading.current reading.files := by
  cases hstep with
  | returned hreading hdone => exact ⟨_, hreading, hdone, rfl⟩

theorem startsWith_reviewFileName (h : Authentic rt sha256Hex sentinel fileName envelope binding) :
    startsWith fileName (reviewFileNamePrefix sha256Hex binding.findingId) = true := by
  have hsplit (start key identity last : JsString) :
      start ++ key ++ ['.'] ++ (identity ++ last) = start ++ key ++ '.' :: identity ++ last := by
    simp
  rw [startsWith_iff, h.name]
  unfold reviewFileName fileNameOf reviewFileNamePrefix
  exact ⟨_, hsplit _ _ _ _⟩

theorem stored_is_current (hcollates : Collates rt)
    (hparse : ∀ v, IsData v → parseJson (stringifyLines v ++ ['\n']) = some v)
    (hrun : Run (reviewStore rt sha256Hex sentinel parseJson files) history world) {m n k : Nat}
    {binding : FindingReviewBinding}
    (hstored : history[m]? = some (.stored writer fileName envelope))
    (hlisted : history[n]? = some (.listed reader findingId current none)) (hmn : m < n)
    (hreturned : history[k]? = some (.returned reader result)) (hnk : n < k)
    (hauthentic : Authentic rt sha256Hex sentinel fileName envelope binding)
    (hfinding : binding.findingId = findingId) (hbinds : Binds rt sha256Hex binding current) :
    result.state = .current ∧ result.envelope = some envelope := by
  obtain ⟨before, after, hbefore, hstep⟩ := hrun.at hstored
  have hlinked := (consistent_of_run hbefore).linked _ _ _ (stored_step hstep)
  obtain ⟨l, hl⟩ := List.mem_iff_getElem?.mp hlinked
  have hlm : l < m := by
    have hlength := (List.getElem?_eq_some_iff.mp hl).1
    rw [List.length_take] at hlength
    omega
  rw [List.getElem?_take_of_lt hlm] at hl
  obtain ⟨world', _, hworld', hreturn⟩ := hrun.at hreturned
  obtain ⟨reading, hreading, hdone, rfl⟩ := returned_step hreturn
  have hafter : ListedAfter (history.take k) fileName envelope reader findingId current := by
    refine ⟨l, n, writer, by omega, ?_, ?_⟩
    · rw [List.getElem?_take_of_lt (by omega)]
      exact hl
    · rw [List.getElem?_take_of_lt hnk]
      exact hlisted
  have hstart := hfinding ▸ startsWith_reviewFileName hauthentic
  obtain ⟨rfl, rfl, hreached, honly⟩ :=
    follows_of_run hparse hworld' _ _ _ _ _ hafter hstart reading hreading
  have hmem : (fileName, .ok (.obj envelope)) ∈ reading.files := by
    rcases hreached with hpending | hfiles
    · rw [hdone] at hpending
      contradiction
    · exact hfiles
  have hadmitted := ((consistent_of_run hrun).kept _ _ _ (List.mem_of_getElem? hl)).2
  have hself := currentOf_of_binds hadmitted.valid hauthentic hfinding hbinds
  have hall : ∀ other ∈ reading.files.filterMap
      (currentOf rt sha256Hex sentinel reading.findingId reading.current), other = envelope := by
    intro other hother
    obtain ⟨⟨name, content⟩, hfile, hcurrent⟩ := List.mem_filterMap.mp hother
    obtain ⟨binding', hauthentic', hfinding', hbinds', hcontent⟩ := currentOf_eq_some hcurrent
    have hfields := hbinds'.fields_eq hbinds (hfinding'.trans hfinding.symm)
    obtain rfl : name = fileName := reviewFileName_congr hcollates hauthentic' hauthentic hfields
    have hsame := hcontent.symm.trans (honly content hfile)
    exact JsValue.obj.inj (Except.ok.inj hsame)
  apply readResult_current_iff.mpr
  rcases hfound : reading.files.filterMap
    (currentOf rt sha256Hex sentinel reading.findingId reading.current) with _ | ⟨first, rest⟩
  · have hnone := List.filterMap_eq_nil_iff.mp hfound _ hmem
    rw [hself] at hnone
    contradiction
  · rw [List.head?_cons, hall first (by rw [hfound]; exact List.mem_cons_self)]

theorem current_is_authentic
    (hrun : Run (reviewStore rt sha256Hex sentinel parseJson files) history world)
    (hreturned : .returned reader result ∈ history)
    (hstate : result.state = .current) : ∃ findingId current listing fileName envelope binding,
      .listed reader findingId current listing ∈ history ∧ result.envelope = some envelope ∧
        Authentic rt sha256Hex sentinel fileName envelope binding ∧
        binding.findingId = findingId ∧ Binds rt sha256Hex binding current := by
  obtain ⟨k, hk⟩ := List.mem_iff_getElem?.mp hreturned
  obtain ⟨before, _, hbefore, hstep⟩ := hrun.at hk
  obtain ⟨reading, hreading, -, rfl⟩ := returned_step hstep
  obtain ⟨listing, hlisted⟩ := (consistent_of_run hbefore).asked _ _ hreading
  have henvelope : ∃ envelope, (readResult rt sha256Hex sentinel reading.findingId reading.current
      reading.files).envelope = some envelope := by
    revert hstate
    unfold readResult resultOf
    split
    · intro _
      exact ⟨_, rfl⟩
    · intro hstate
      contradiction
    · intro hstate
      exfalso
      dsimp only at hstate
      split_ifs at hstate
  obtain ⟨envelope, henvelope⟩ := henvelope
  have hhead := readResult_current_iff.mp ⟨hstate, henvelope⟩
  obtain ⟨⟨fileName, content⟩, -, hcurrent⟩ := List.mem_filterMap.mp (List.mem_of_head? hhead)
  obtain ⟨binding, hauthentic, hfinding, hbinds, -⟩ := currentOf_eq_some hcurrent
  exact ⟨_, _, listing, fileName, envelope, binding, List.mem_of_mem_take hlisted, henvelope,
    hauthentic, hfinding, hbinds⟩

variable {listing' : Option (JsString → List JsString)} {current' : CurrentReviewArtifacts}
  {findingId' : JsString}

section

variable (hrun : Run (reviewStore rt sha256Hex sentinel parseJson files) history world)

include hrun

theorem listed_once
    (hlt : i < j) (hi : history[i]? = some (.listed reader findingId current listing))
    (hj : history[j]? = some (.listed reader findingId' current' listing')) : False := by
  obtain ⟨before, after, hbefore, hstep⟩ := hrun.at hj
  have hpast : .listed reader findingId current listing ∈ history.take j := by
    apply List.mem_of_getElem? (i := i)
    rw [List.getElem?_take_of_lt hlt]
    exact hi
  have hbegun := (consistent_of_run hbefore).begun _ _ _ _ hpast
  rw [(listed_step hstep).1] at hbegun
  contradiction

theorem listed_unique (hi : history[i]? = some (.listed reader findingId current listing))
    (hj : history[j]? = some (.listed reader findingId' current' listing')) : i = j := by
  rcases lt_trichotomy i j with hlt | heq | hlt
  · exact (listed_once hrun hlt hi hj).elim
  · exact heq
  · exact (listed_once hrun hlt hj hi).elim

theorem listed_before_returned {n k : Nat}
    (hlisted : history[n]? = some (.listed reader findingId current listing))
    (hreturned : history[k]? = some (.returned reader result)) : n < k := by
  obtain ⟨before, _, hbefore, hstep⟩ := hrun.at hreturned
  obtain ⟨reading, hreading, -⟩ := returned_step hstep
  obtain ⟨listing', hasked⟩ := (consistent_of_run hbefore).asked _ _ hreading
  obtain ⟨i, hi⟩ := List.mem_iff_getElem?.mp hasked
  have hik : i < k := by
    have hlength := (List.getElem?_eq_some_iff.mp hi).1
    rw [List.length_take] at hlength
    omega
  rw [List.getElem?_take_of_lt hik] at hi
  have hsame := listed_unique hrun hlisted hi
  omega

end

theorem exists_stored_run
    (hrun : Run (reviewStore rt sha256Hex sentinel parseJson files) history world)
    (hfresh : world.writers writer = none)
    (hprepared : prepareDecision rt sha256Hex sentinel input = .ok (fileName, envelope))
    (hname : isArtifactName fileName = true) (habsent : world.files fileName = none) :
    ∃ world', Run (reviewStore rt sha256Hex sentinel parseJson files)
        (history ++ [.prepared writer input] ++ [.linked writer fileName envelope] ++
          [.stored writer fileName envelope]) world' ∧ world'.readers = world.readers ∧
      (∀ name, name ≠ fileName → world'.files name = world.files name) ∧
      ∀ other, other ≠ writer → world'.writers other = world.writers other := by
  have hstep : Step rt sha256Hex sentinel parseJson world (.prepared writer input)
      (world.setWriter writer (.prepared fileName envelope)) := Step.prepared hfresh hprepared
  have hlink : Step rt sha256Hex sentinel parseJson
      (world.setWriter writer (.prepared fileName envelope)) (.linked writer fileName envelope) _ :=
    Step.linked (Function.update_self _ _ _) hname habsent
  refine ⟨_, ((hrun.step hstep).step hlink).step (Step.stored (Function.update_self _ _ _)), rfl,
    ?_, ?_⟩
  · intro name hne
    exact Function.update_of_ne hne _ _
  · intro other hne
    dsimp only [World.setWriter, World.setFile]
    rw [Function.update_of_ne hne, Function.update_of_ne hne, Function.update_of_ne hne]

theorem exists_returned_run
    (hrun : Run (reviewStore rt sha256Hex sentinel parseJson files) history world)
    (hreading : world.readers reader = some (some reading)) :
    ∃ rest result world', Run (reviewStore rt sha256Hex sentinel parseJson files)
        (history ++ rest) world' ∧ .returned reader result ∈ history ++ rest ∧
      ∀ writer fileName envelope, .linked writer fileName envelope ∉ rest := by
  rcases reading with ⟨findingId, current, pending, found⟩
  induction pending generalizing history world found with
  | nil =>
      refine ⟨[_], readResult rt sha256Hex sentinel findingId current found, _,
        hrun.step (Step.returned hreading rfl), ?_, ?_⟩
      · exact List.mem_append_right _ (List.mem_singleton.mpr rfl)
      · intro writer fileName envelope hmem
        simp at hmem
  | cons name pending ih =>
      have hstep : Step rt sha256Hex sentinel parseJson world (.opened reader) _ :=
        Step.opened hreading rfl
      have hnext := hrun.step hstep
      obtain ⟨rest, result, world', hall, hmem, hquiet⟩ := ih hnext _ (Function.update_self _ _ _)
      rw [List.append_assoc] at hall hmem
      refine ⟨[.opened reader] ++ rest, result, world', hall, hmem, ?_⟩
      intro writer fileName envelope hlinked
      rcases List.mem_append.mp hlinked with hlinked | hlinked
      · simp at hlinked
      · exact hquiet _ _ _ hlinked

theorem collates_plainRuntime : Collates plainRuntime where
  total a b := by
    simp only [plainRuntime, tableRuntime, decide_eq_true_eq]
    exact le_total a b
  trans a b c := by
    simp only [plainRuntime, tableRuntime, decide_eq_true_eq]
    exact le_trans
  names a _ b _ := by
    simp only [plainRuntime, tableRuntime, decide_eq_true_eq]
    exact le_antisymm

def sampleHash (s : JsString) : JsString :=
  (decimal (s.foldl (fun sum c => (31 * sum + c.toNat) % 1000000007) 7) ++
    List.replicate 64 '0').take 64

def noSentinel (_ : JsString) : Bool := false

def sampleDigest (artifact : String) : JsString :=
  (sampleHash (stableJsonSorted plainRuntime (.str artifact.toList))).take 24

def sampleInput (dossier : String) : PutReviewDecisionInput where
  binding := .obj [("findingId".toList, .str "finding-1".toList),
    ("findingDigest".toList, .str (sampleDigest "finding")),
    ("dossierDigest".toList, .str (sampleDigest dossier)), ("handoffDigest".toList, .null),
    ("sourceSha".toList, .str "synthetic.sample".toList),
    ("campaignId".toList, .str "campaign-1".toList), ("handoffVersion".toList, .str "v1".toList),
    ("privacyProjectionVersion".toList, .str "v1".toList)]
  decision := .acceptEvidence
  reviewedAt := "2026-01-01T00:00:00Z".toList
  storedAt := "2026-01-01T00:00:01Z".toList
  rationale := none
  reasonCode := none

def sampleCurrent (dossier : String) : CurrentReviewArtifacts :=
  ⟨.str "finding".toList, .str dossier.toList, .null, "synthetic.sample".toList,
    "campaign-1".toList, "v1".toList, "v1".toList⟩

def samplePublication (dossier : String) : JsString × Fields :=
  match prepareDecision plainRuntime sampleHash noSentinel (sampleInput dossier) with
  | .ok publication => publication
  | .error _ => ([], [])

def bindsToday (dossier today : String) : Bool :=
  (verifyReviewCurrent plainRuntime sampleHash noSentinel (receiptOf (samplePublication dossier).2)
    (sampleCurrent today)).isOk

/-- What the samples use of their two publications. -/
structure SamplesFit : Prop where
  prepared_first : prepareDecision plainRuntime sampleHash noSentinel (sampleInput "first") =
    .ok ((samplePublication "first").1, (samplePublication "first").2)
  prepared_second : prepareDecision plainRuntime sampleHash noSentinel (sampleInput "second") =
    .ok ((samplePublication "second").1, (samplePublication "second").2)
  named_first : isArtifactName (samplePublication "first").1 = true
  named_second : isArtifactName (samplePublication "second").1 = true
  distinct : (samplePublication "second").1 ≠ (samplePublication "first").1
  finding_first : isText (field (samplePublication "first").2 "findingId".toList)
    "finding-1".toList = true
  finding_second : isText (field (samplePublication "second").2 "findingId".toList)
    "finding-1".toList = true
  binds_first : bindsToday "first" "first" = true
  changed_first : bindsToday "first" "second" = false
  binds_second : bindsToday "second" "second" = true

def samplesFit : Bool :=
  match prepareDecision plainRuntime sampleHash noSentinel (sampleInput "first"),
    prepareDecision plainRuntime sampleHash noSentinel (sampleInput "second") with
  | .ok (name, envelope), .ok (name', envelope') =>
      isArtifactName name && isArtifactName name' && name' ≠ name &&
        isText (field envelope "findingId".toList) "finding-1".toList &&
        isText (field envelope' "findingId".toList) "finding-1".toList &&
        (verifyReviewCurrent plainRuntime sampleHash noSentinel (receiptOf envelope)
          (sampleCurrent "first")).isOk &&
        !(verifyReviewCurrent plainRuntime sampleHash noSentinel (receiptOf envelope)
          (sampleCurrent "second")).isOk &&
        (verifyReviewCurrent plainRuntime sampleHash noSentinel (receiptOf envelope')
          (sampleCurrent "second")).isOk
  | _, _ => false

theorem samples_fit : SamplesFit := by
  have hfit : samplesFit = true := by decide +kernel
  unfold samplesFit at hfit
  split at hfit
  · rename_i name envelope name' envelope' hfirst hsecond
    have hpublished : samplePublication "first" = (name, envelope) := by
      rw [samplePublication, hfirst]
    have hpublished' : samplePublication "second" = (name', envelope') := by
      rw [samplePublication, hsecond]
    simp only [Bool.and_eq_true, decide_eq_true_eq, Bool.not_eq_true'] at hfit
    obtain ⟨⟨⟨⟨⟨⟨⟨hname, hname'⟩, hne⟩, hfinding⟩, hfinding'⟩, hbinds⟩, hchanged⟩, hbinds'⟩ := hfit
    constructor
    · rw [hfirst, hpublished]
    · rw [hsecond, hpublished']
    · rw [hpublished]
      exact hname
    · rw [hpublished']
      exact hname'
    · rw [hpublished, hpublished']
      exact hne
    · rw [hpublished]
      exact hfinding
    · rw [hpublished']
      exact hfinding'
    · rw [bindsToday, hpublished]
      exact hbinds
    · rw [bindsToday, hpublished]
      exact hchanged
    · rw [bindsToday, hpublished']
      exact hbinds'
  · contradiction

section

variable (h : Authentic plainRuntime sampleHash noSentinel fileName (samplePublication dossier).2 binding)

include h

theorem binds_iff {today : String} :
    Binds plainRuntime sampleHash binding (sampleCurrent today) ↔ bindsToday dossier today = true := by
  have hcurrent : verifyReviewCurrent plainRuntime sampleHash noSentinel
      (receiptOf (samplePublication dossier).2) (sampleCurrent today) = .ok () ↔ _ :=
    verifyReviewCurrent_eq_ok
  unfold bindsToday
  constructor
  · intro hbinds
    rw [hcurrent.mpr ⟨binding, h.receipt, hbinds⟩]
    rfl
  · intro hok
    rcases hverified : verifyReviewCurrent plainRuntime sampleHash noSentinel
      (receiptOf (samplePublication dossier).2) (sampleCurrent today) with message | ⟨⟩
    · rw [hverified] at hok
      contradiction
    · obtain ⟨binding', hreceipt, hbinds⟩ := hcurrent.mp hverified
      obtain rfl := Except.ok.inj (h.receipt.symm.trans hreceipt)
      exact hbinds

theorem findingId_sample (hfinding : isText (field (samplePublication dossier).2 "findingId".toList)
      "finding-1".toList = true) : binding.findingId = "finding-1".toList :=
  JsValue.str.inj (h.finding.symm.trans (isText_iff.mp hfinding))

end

def sampleStore : System World Event := reviewStore plainRuntime sampleHash noSentinel parseLaidOut []

theorem exists_first_stored : ∃ world, Run sampleStore
    [.prepared 0 (sampleInput "first"),
      .linked 0 (samplePublication "first").1 (samplePublication "first").2,
      .stored 0 (samplePublication "first").1 (samplePublication "first").2] world ∧
    (∀ reader, world.readers reader = none) ∧
    (∀ name, name ≠ (samplePublication "first").1 → world.files name = none) ∧
    ∀ writer, writer ≠ 0 → world.writers writer = none := by
  have hstart : Run sampleStore [] (start []) := .start
  have hfresh : (start []).writers 0 = none := rfl
  obtain ⟨world, hrun, hreaders, hfiles, hwriters⟩ :=
    exists_stored_run hstart hfresh samples_fit.prepared_first samples_fit.named_first rfl
  refine ⟨world, hrun, ?_, hfiles, hwriters⟩
  intro reader
  rw [hreaders]
  rfl

theorem separates_of_single (fileName : JsString) (envelope : Fields)
    (h : ∀ writer name other, Event.linked writer name other ∈ history →
      name = fileName ∧ other = envelope) :
    SeparatesBindings plainRuntime sampleHash noSentinel history := by
  rintro a ⟨_, _, _, hmem, ha⟩ b ⟨_, _, _, hmem', hb⟩ _
  obtain ⟨rfl, rfl⟩ := h _ _ _ hmem
  obtain ⟨rfl, rfl⟩ := h _ _ _ hmem'
  rw [ha.unique hb]

end NightWatch.ReviewStore.StoreRuns
