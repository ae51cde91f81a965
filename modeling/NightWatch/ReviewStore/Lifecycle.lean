import NightWatch.Lib.Guard
import NightWatch.Lib.Grouping
import NightWatch.Lib.JsonLayout
import NightWatch.Lib.JsRuntime

namespace NightWatch.ReviewStore.Lifecycle

open Lib.JsText Lib.JsData Lib.JsData.JsValue Lib.Json Lib.Guard Lib.JsRuntime

abbrev Fields : Type := List (JsString × JsValue)

def lifecycleVersion : JsString := "nightwatch.finding-review-lifecycle.v1".toList

def receiptVersion : JsString := "nightwatch.finding-review-receipt.v1".toList

inductive FindingReviewState where
  | reviewPending
  | reviewed
  | followupRecommended
  | insufficientEvidence
  | duplicateCandidate
  | superseded
  deriving DecidableEq

def FindingReviewState.text : FindingReviewState → JsString
  | .reviewPending => "REVIEW_PENDING".toList
  | .reviewed => "REVIEWED".toList
  | .followupRecommended => "FOLLOWUP_RECOMMENDED".toList
  | .insufficientEvidence => "INSUFFICIENT_EVIDENCE".toList
  | .duplicateCandidate => "DUPLICATE_CANDIDATE".toList
  | .superseded => "SUPERSEDED".toList

def findingReviewStates : List FindingReviewState :=
  [.reviewPending, .reviewed, .followupRecommended, .insufficientEvidence, .duplicateCandidate,
    .superseded]

inductive FindingReviewDecision where
  | acceptEvidence
  | requestFollowup
  | markInsufficient
  | markDuplicateCandidate
  | supersede

def FindingReviewDecision.text : FindingReviewDecision → JsString
  | .acceptEvidence => "ACCEPT_EVIDENCE".toList
  | .requestFollowup => "REQUEST_FOLLOWUP".toList
  | .markInsufficient => "MARK_INSUFFICIENT".toList
  | .markDuplicateCandidate => "MARK_DUPLICATE_CANDIDATE".toList
  | .supersede => "SUPERSEDE".toList

def findingReviewDecisions : List FindingReviewDecision :=
  [.acceptEvidence, .requestFollowup, .markInsufficient, .markDuplicateCandidate, .supersede]

def decisionTarget : FindingReviewDecision → FindingReviewState
  | .acceptEvidence => .reviewed
  | .requestFollowup => .followupRecommended
  | .markInsufficient => .insufficientEvidence
  | .markDuplicateCandidate => .duplicateCandidate
  | .supersede => .superseded

def isTerminalReviewState (state : FindingReviewState) : Bool := state ≠ .reviewPending

/-- `value === text`. -/
def isText (value : JsValue) (text : JsString) : Bool :=
  match value with
  | .str s => s = text
  | _ => false

theorem isText_iff {value : JsValue} {text : JsString} :
    isText value text = true ↔ value = .str text := by
  cases value with
  | str s => simp [isText]
  | _ => simp [isText]

def named {α : Type} (text : α → JsString) (members : List α) (value : JsValue) : Option α :=
  members.find? fun member => isText value (text member)

section Bindings

def failIf (condition : Bool) (message : String) : Except JsString Unit :=
  if condition then .error message.toList else .ok ()

def isLowerHex (c : Char) : Bool := c.isDigit || ('a' ≤ c && c ≤ 'f')

def isWord (extra : String) (c : Char) : Bool := c.isAlphanum || c ∈ extra.toList

def isDigest (s : JsString) : Bool := 24 ≤ s.length && s.length ≤ 64 && s.all isLowerHex

def isId (s : JsString) : Bool := upTo 160 (isWord "_.:/-") s

def isVersion (s : JsString) : Bool := upTo 160 (isWord "_.:-") s

def isReviewSource (s : JsString) : Bool :=
  s.length = 40 && s.all isLowerHex ||
    startsWith s "synthetic.".toList && upTo 120 (isWord "_.:-") (s.drop 10)

def isReasonCode : JsString → Bool
  | [] => false
  | first :: rest =>
      first.isUpper && rest.length ≤ 127 && rest.all fun c => c.isUpper || c.isDigit || c = '_'

/-- The shape of a date and a time, `d` standing for a digit. -/
def fits : JsString → JsString → Bool
  | [], [] => true
  | 'd' :: shape, c :: rest => c.isDigit && fits shape rest
  | p :: shape, c :: rest => p = c && fits shape rest
  | _, _ => false

def isInstant (s : JsString) : Bool :=
  fits "dddd-dd-ddTdd:dd:dd".toList (s.take 19) &&
    (s.drop 19 = ['Z'] || startsWith (s.drop 19) ['.'] && endsWith (s.drop 20) ['Z'] &&
      upTo 6 Char.isDigit (s.drop 20).dropLast)

def bindingNames : List JsString :=
  ["findingId".toList, "findingDigest".toList, "dossierDigest".toList, "handoffDigest".toList,
    "sourceSha".toList, "campaignId".toList, "handoffVersion".toList,
    "privacyProjectionVersion".toList]

structure FindingReviewBinding where
  value : JsValue
  findingId : JsString
  findingDigest : JsString
  dossierDigest : JsString
  handoffDigest : Option JsString
  sourceSha : JsString
  campaignId : JsString
  handoffVersion : JsString
  privacyProjectionVersion : JsString

def FindingReviewBinding.fields (binding : FindingReviewBinding) : Fields :=
  [("findingId".toList, .str binding.findingId), ("findingDigest".toList, .str binding.findingDigest),
    ("dossierDigest".toList, .str binding.dossierDigest),
    ("handoffDigest".toList, (binding.handoffDigest.map .str).getD .null),
    ("sourceSha".toList, .str binding.sourceSha), ("campaignId".toList, .str binding.campaignId),
    ("handoffVersion".toList, .str binding.handoffVersion),
    ("privacyProjectionVersion".toList, .str binding.privacyProjectionVersion)]

-- `SENTINEL_RE.test(text)`: the text carries a marker of customer data.
variable (rt : Runtime) (sha256Hex : JsString → JsString) (sentinel : JsString → Bool)

def assertText (passes : JsString → Bool) (fields : Fields) (name : String) :
    Except JsString JsString :=
  match field fields name.toList with
  | .str s => if passes s then .ok s else .error ("FINDING_REVIEW_INVALID_BINDING:" ++ name).toList
  | _ => .error ("FINDING_REVIEW_INVALID_BINDING:" ++ name).toList

/-- The text under a name, or nothing where the name holds `null`. -/
def assertNullable (passes : JsString → Bool) (fields : Fields) (name : String) :
    Except JsString (Option JsString) :=
  match field fields name.toList with
  | .null => .ok none
  | _ => (assertText passes fields name).map some

def assertDigest : Fields → String → Except JsString JsString := assertText isDigest

def assertId : Fields → String → Except JsString JsString :=
  assertText fun s => isId s && !sentinel s

/-- `Object.keys(record).sort()`. -/
def sortedNames (fields : Fields) : List JsString := (fields.map Prod.fst).insertionSort textLe

def bindingOf (value : JsValue) (fields : Fields) : Except JsString FindingReviewBinding := do
  failIf (sortedNames fields ≠ bindingNames.insertionSort textLe)
    "FINDING_REVIEW_INVALID_BINDING:keys"
  let findingId ← assertId sentinel fields "findingId"
  let findingDigest ← assertDigest fields "findingDigest"
  let dossierDigest ← assertDigest fields "dossierDigest"
  let handoffDigest ← assertNullable isDigest fields "handoffDigest"
  let sourceSha ← assertText isReviewSource fields "sourceSha"
  let campaignId ← assertId sentinel fields "campaignId"
  let handoffVersion ← assertText isVersion fields "handoffVersion"
  let privacyProjectionVersion ← assertText isVersion fields "privacyProjectionVersion"
  return ⟨value, findingId, findingDigest, dossierDigest, handoffDigest, sourceSha, campaignId,
    handoffVersion, privacyProjectionVersion⟩

def validateReviewBinding (value : JsValue) : Except JsString FindingReviewBinding :=
  match value with
  | .obj fields => bindingOf sentinel value fields
  | _ => .error "FINDING_REVIEW_INVALID_BINDING".toList

end Bindings

section Digests

variable (rt : Runtime) (sha256Hex : JsString → JsString)

def entryText (entry : JsString × JsString) : JsString :=
  rt.jsonStringify (.str entry.1) ++ ':' :: entry.2

def objectText (entries : List (JsString × JsString)) : JsString :=
  '\x7b' :: join ',' ((entries.insertionSort fun a b => rt.localeLe a.1 b.1 = true).map
    (entryText rt)) ++ ['\x7d']

mutual

def stableJsonSorted : JsValue → JsString
  | .undefined => "undefined".toList
  | .arr items => '[' :: join ',' (stableItems items) ++ [']']
  | .obj fields => objectText rt (stableFields fields)
  | .null => rt.jsonStringify .null
  | .bool b => rt.jsonStringify (.bool b)
  | .num n => rt.jsonStringify (.num n)
  | .str s => rt.jsonStringify (.str s)

def stableItems : List JsValue → List JsString
  | [] => []
  | item :: rest => stableJsonSorted item :: stableItems rest

def stableFields : List (JsString × JsValue) → List (JsString × JsString)
  | [] => []
  | (name, value) :: rest => (name, stableJsonSorted value) :: stableFields rest

end

theorem stable_obj (fields : Fields) : stableJsonSorted rt (.obj fields) =
    objectText rt (stableFields rt fields) := rfl

theorem stableFields_eq_map (fields : Fields) :
    stableFields rt fields = fields.map fun entry => (entry.1, stableJsonSorted rt entry.2) := by
  induction fields with
  | nil => rfl
  | cons entry rest ih => rw [stableFields, ih, List.map_cons]

/-- The digest of an artifact; there is none of `undefined`. -/
def findingArtifactDigest : JsValue → Except JsString JsString
  | .undefined => .error "ERR_INVALID_ARG_TYPE".toList
  | value => .ok ((sha256Hex (stableJsonSorted rt value)).take 24)

/-- The locale orders texts, and tells the names of a binding apart. -/
structure Collates (rt : Runtime) : Prop where
  total : ∀ a b, rt.localeLe a b = true ∨ rt.localeLe b a = true
  trans : ∀ a b c, rt.localeLe a b = true → rt.localeLe b c = true → rt.localeLe a c = true
  names : ∀ a ∈ bindingNames, ∀ b ∈ bindingNames, rt.localeLe a b = true → rt.localeLe b a = true →
    a = b

end Digests

section Receipts

variable (rt : Runtime) (sha256Hex : JsString → JsString) (sentinel : JsString → Bool)

def notEquivalentTo : List JsString :=
  ["LESLIE_GENUINE".toList, "LESLIE_INVALID".toList, "PONDR_APPROVED".toList]

def localAuthority : JsString := "NONE_LOCAL_REVIEW_ONLY".toList

def isNotEquivalentTo : JsValue → Bool
  | .arr [first, second, third] =>
      isText first "LESLIE_GENUINE".toList && isText second "LESLIE_INVALID".toList &&
        isText third "PONDR_APPROVED".toList
  | _ => false

def receiptNames : List JsString :=
  ["schemaVersion".toList, "binding".toList, "decision".toList, "resultingState".toList,
    "reviewedAt".toList, "rationale".toList, "organizationalAuthority".toList,
    "notEquivalentTo".toList]

def reviewIdOf (receipt : Fields) : JsString :=
  "review:".toList ++ (sha256Hex (stableJsonSorted rt
    (.obj (receiptNames.map fun name => (name, field receipt name))))).take 24

def isInstantValue : JsValue → Bool
  | .str s => isInstant s
  | _ => false

def isRationale : JsValue → Bool
  | .str s => utf16Length s ≤ 2000 && !sentinel s
  | _ => false

def verifyReceiptIntegrity (receipt : Fields) : Except JsString FindingReviewBinding := do
  failIf (!isText (field receipt "schemaVersion".toList) receiptVersion)
    "FINDING_REVIEW_VERSION_MISMATCH"
  let decision := named FindingReviewDecision.text findingReviewDecisions
    (field receipt "decision".toList)
  let state := named FindingReviewState.text findingReviewStates
    (field receipt "resultingState".toList)
  failIf decision.isNone "FINDING_REVIEW_INVALID_DECISION"
  failIf state.isNone "FINDING_REVIEW_INVALID_STATE"
  failIf (decision.map decisionTarget ≠ state) "FINDING_REVIEW_DECISION_STATE_MISMATCH"
  failIf (!isText (field receipt "organizationalAuthority".toList) localAuthority)
    "FINDING_REVIEW_AUTHORITY_INVALID"
  failIf (!isNotEquivalentTo (field receipt "notEquivalentTo".toList))
    "FINDING_REVIEW_AUTHORITY_INVALID"
  let binding ← validateReviewBinding sentinel (field receipt "binding".toList)
  failIf (!isInstantValue (field receipt "reviewedAt".toList)) "FINDING_REVIEW_INVALID_INSTANT"
  failIf (!isRationale sentinel (field receipt "rationale".toList))
    "FINDING_REVIEW_INVALID_RATIONALE"
  failIf (!isText (field receipt "reviewId".toList) (reviewIdOf rt sha256Hex receipt))
    "FINDING_REVIEW_RECEIPT_TAMPERED"
  return binding

structure CurrentReviewArtifacts where
  finding : JsValue
  dossier : JsValue
  handoff : JsValue
  sourceSha : JsString
  campaignId : JsString
  handoffVersion : JsString
  privacyProjectionVersion : JsString

def verifyHandoff (current : CurrentReviewArtifacts) : Option JsString → Except JsString Unit
  | none => failIf (!current.handoff.isNullish) "FINDING_REVIEW_STALE:handoffUnexpected"
  | some digest => do
      failIf current.handoff.isNullish "FINDING_REVIEW_STALE:handoffMissing"
      let today ← findingArtifactDigest rt sha256Hex current.handoff
      failIf (today ≠ digest) "FINDING_REVIEW_STALE:handoffDigest"

def verifyReviewCurrent (receipt : Fields) (current : CurrentReviewArtifacts) :
    Except JsString Unit := do
  let binding ← verifyReceiptIntegrity rt sha256Hex sentinel receipt
  let finding ← findingArtifactDigest rt sha256Hex current.finding
  failIf (finding ≠ binding.findingDigest) "FINDING_REVIEW_STALE:findingDigest"
  let dossier ← findingArtifactDigest rt sha256Hex current.dossier
  failIf (dossier ≠ binding.dossierDigest) "FINDING_REVIEW_STALE:dossierDigest"
  verifyHandoff rt sha256Hex current binding.handoffDigest
  failIf (current.sourceSha ≠ binding.sourceSha) "FINDING_REVIEW_STALE:sourceSha"
  failIf (current.campaignId ≠ binding.campaignId) "FINDING_REVIEW_STALE:campaignId"
  failIf (current.handoffVersion ≠ binding.handoffVersion) "FINDING_REVIEW_STALE:handoffVersion"
  failIf (current.privacyProjectionVersion ≠ binding.privacyProjectionVersion)
    "FINDING_REVIEW_STALE:privacyProjectionVersion"

def decideReview (binding : FindingReviewBinding) (decision : FindingReviewDecision)
    (reviewedAt : JsString) (rationale reasonCode : Option JsString) :
    Except JsString (Fields × Fields) := do
  failIf (!isInstant reviewedAt) "FINDING_REVIEW_INVALID_INSTANT"
  failIf (!isRationale sentinel (.str (rationale.getD []))) "FINDING_REVIEW_INVALID_RATIONALE"
  failIf ((reasonCode.map fun code => !isReasonCode code).getD false)
    "FINDING_REVIEW_INVALID_REASON_CODE"
  let state := JsValue.str (decisionTarget decision).text
  let base : Fields := [("schemaVersion".toList, .str receiptVersion),
    ("binding".toList, binding.value), ("decision".toList, .str decision.text),
    ("resultingState".toList, state), ("reviewedAt".toList, .str reviewedAt),
    ("rationale".toList, .str (rationale.getD [])),
    ("organizationalAuthority".toList, .str localAuthority),
    ("notEquivalentTo".toList, .arr (notEquivalentTo.map .str))]
  let record : Fields := [("lifecycleVersion".toList, .str lifecycleVersion),
    ("state".toList, state), ("binding".toList, binding.value),
    ("transitionCount".toList, .num (.ofNat 1)),
    ("lastReasonCode".toList, (reasonCode.map .str).getD .null)]
  return (record, base ++ [("reviewId".toList, .str (reviewIdOf rt sha256Hex base))])

end Receipts

section Facts

variable {rt : Runtime} {sha256Hex : JsString → JsString} {sentinel : JsString → Bool}
  {message name : String} {passes : JsString → Bool} {value : JsValue} {receipt : Fields}

theorem failIf_eq_ok {condition : Bool} :
    failIf condition message = .ok () ↔ condition = false := by
  cases condition with
  | false => simp [failIf]
  | true => simp [failIf]

theorem failIf_ne_eq_ok {left right : JsString} :
    failIf (left ≠ right) message = .ok () ↔ left = right := by
  rw [failIf_eq_ok]
  simp

variable {fields : Fields} {binding : FindingReviewBinding} {current : CurrentReviewArtifacts}

theorem assertText_eq_ok {s : JsString}
    (h : assertText passes fields name = .ok s) : field fields name.toList = .str s := by
  unfold assertText at h
  split at h
  · rename_i text htext
    split_ifs at h
    rw [htext, Except.ok.inj h]
  · contradiction

theorem assertNullable_eq_ok {s : Option JsString} (h : assertNullable passes fields name = .ok s) :
    field fields name.toList = (s.map .str).getD .null := by
  unfold assertNullable at h
  split at h
  · rename_i hnull
    obtain rfl := Except.ok.inj h
    exact hnull
  · rcases htext : assertText passes fields name with message | text
    · rw [htext] at h
      contradiction
    · rw [htext] at h
      obtain rfl := Except.ok.inj h
      exact assertText_eq_ok htext

theorem lookup_of_mem (hnodup : (fields.map Prod.fst).Nodup) {name : JsString}
    {value : JsValue} (hmem : (name, value) ∈ fields) : fields.lookup name = some value := by
  induction fields with
  | nil => contradiction
  | cons entry rest ih =>
      obtain ⟨hnot, hrest⟩ := List.nodup_cons.mp hnodup
      rw [List.lookup_cons]
      rcases List.mem_cons.mp hmem with rfl | hmem
      · simp
      · have hne : (name == entry.1) = false := by
          rw [beq_eq_false_iff_ne]
          intro heq
          exact hnot (heq ▸ List.mem_map_of_mem (f := Prod.fst) hmem)
        rw [hne]
        exact ih hrest hmem

theorem perm_of_names {names : List JsString} (hnames : names.Nodup)
    (hperm : (fields.map Prod.fst).Perm names) :
    fields.Perm (names.map fun name => (name, field fields name)) := by
  have hnodup : (fields.map Prod.fst).Nodup := hperm.nodup_iff.mpr hnames
  have hself : (fields.map Prod.fst).map (fun name => (name, field fields name)) = fields := by
    rw [List.map_map]
    refine (List.map_congr_left ?_).trans (List.map_id fields)
    rintro ⟨name, value⟩ hmem
    change (name, field fields name) = (name, value)
    rw [field, lookup_of_mem hnodup hmem]
    rfl
  have hmap := hperm.map fun name => (name, field fields name)
  rw [hself] at hmap
  exact hmap

theorem nodup_bindingNames : bindingNames.Nodup := by decide

theorem bindingOf_eq_ok (h : bindingOf sentinel value fields = .ok binding) :
    binding.value = value ∧ fields.Perm binding.fields := by
  simp only [bindingOf, bind_eq_ok] at h
  obtain ⟨_, hnames, findingId, hfindingId, findingDigest, hfindingDigest, dossierDigest,
    hdossierDigest, handoffDigest, hhandoffDigest, sourceSha, hsourceSha, campaignId, hcampaignId,
    handoffVersion, hhandoffVersion, privacyVersion, hprivacyVersion, h⟩ := h
  obtain rfl := Except.ok.inj h
  refine ⟨rfl, ?_⟩
  have hsorted : sortedNames fields = bindingNames.insertionSort textLe := by
    simpa using failIf_eq_ok.mp hnames
  have hperm : (fields.map Prod.fst).Perm bindingNames :=
    (List.perm_insertionSort textLe _).symm.trans
      ((List.Perm.of_eq hsorted).trans (List.perm_insertionSort textLe bindingNames))
  have hfields := perm_of_names nodup_bindingNames hperm
  simp only [bindingNames, List.map_cons, List.map_nil, assertText_eq_ok hfindingId,
    assertText_eq_ok hfindingDigest, assertText_eq_ok hdossierDigest,
    assertNullable_eq_ok hhandoffDigest, assertText_eq_ok hsourceSha, assertText_eq_ok hcampaignId,
    assertText_eq_ok hhandoffVersion, assertText_eq_ok hprivacyVersion] at hfields
  exact hfields

theorem validateReviewBinding_eq_ok (h : validateReviewBinding sentinel value = .ok binding) :
    binding.value = value ∧ ∃ fields, value = .obj fields ∧ fields.Perm binding.fields := by
  unfold validateReviewBinding at h
  split at h
  · rename_i fields
    obtain ⟨hvalue, hperm⟩ := bindingOf_eq_ok h
    exact ⟨hvalue, fields, rfl, hperm⟩
  · contradiction

theorem names_fields (binding : FindingReviewBinding) :
    binding.fields.map Prod.fst = bindingNames := by
  simp only [FindingReviewBinding.fields, bindingNames, List.map_cons, List.map_nil]

theorem stable_of_perm (htotal : ∀ a b, rt.localeLe a b = true ∨ rt.localeLe b a = true)
    (htrans : ∀ a b c, rt.localeLe a b = true → rt.localeLe b c = true → rt.localeLe a c = true)
    {fields fields' : Fields} (hnodup : (fields'.map Prod.fst).Nodup)
    (hnames : ∀ a ∈ fields'.map Prod.fst, ∀ b ∈ fields'.map Prod.fst, rt.localeLe a b = true →
      rt.localeLe b a = true → a = b) (hperm : fields.Perm fields') :
    stableJsonSorted rt (.obj fields) = stableJsonSorted rt (.obj fields') := by
  have htotal : Std.Total fun a b : JsString × JsString => rt.localeLe a.1 b.1 = true :=
    ⟨fun a b => htotal a.1 b.1⟩
  have htrans : IsTrans (JsString × JsString) fun a b => rt.localeLe a.1 b.1 = true :=
    ⟨fun a b c => htrans a.1 b.1 c.1⟩
  have htexts : (stableFields rt fields).Perm (stableFields rt fields') := by
    rw [stableFields_eq_map, stableFields_eq_map]
    exact hperm.map _
  have hsame : (stableFields rt fields').map Prod.fst = fields'.map Prod.fst := by
    rw [stableFields_eq_map, List.map_map]
    rfl
  rw [← hsame] at hnodup hnames
  have hsorted : (stableFields rt fields).insertionSort (fun a b => rt.localeLe a.1 b.1 = true) =
      (stableFields rt fields').insertionSort fun a b => rt.localeLe a.1 b.1 = true := by
    refine List.Perm.eq_of_pairwise ?_ (List.pairwise_insertionSort _ _)
      (List.pairwise_insertionSort _ _) ((List.perm_insertionSort _ _).trans
        (htexts.trans (List.perm_insertionSort _ _).symm))
    intro a b ha hb hab hba
    have ha : a ∈ stableFields rt fields' :=
      htexts.mem_iff.mp ((List.perm_insertionSort _ _).mem_iff.mp ha)
    have hb : b ∈ stableFields rt fields' := (List.perm_insertionSort _ _).mem_iff.mp hb
    apply List.inj_on_of_nodup_map hnodup ha hb
    exact hnames _ (List.mem_map_of_mem ha) _ (List.mem_map_of_mem hb) hab hba
  rw [stable_obj, stable_obj, objectText, objectText, hsorted]

theorem stable_binding (hcollates : Collates rt) {value : JsValue} {binding : FindingReviewBinding}
    (h : validateReviewBinding sentinel value = .ok binding) :
    stableJsonSorted rt value = stableJsonSorted rt (.obj binding.fields) := by
  obtain ⟨-, fields, rfl, hperm⟩ := validateReviewBinding_eq_ok h
  have hnodup := nodup_bindingNames
  have hnames := hcollates.names
  rw [← names_fields binding] at hnodup hnames
  exact stable_of_perm hcollates.total hcollates.trans hnodup hnames hperm

/-- The artifacts of today are those that a binding names. -/
structure Binds (rt : Runtime) (sha256Hex : JsString → JsString) (binding : FindingReviewBinding)
    (current : CurrentReviewArtifacts) : Prop where
  finding : findingArtifactDigest rt sha256Hex current.finding = .ok binding.findingDigest
  dossier : findingArtifactDigest rt sha256Hex current.dossier = .ok binding.dossierDigest
  handoff : ∀ digest, binding.handoffDigest = some digest → current.handoff.isNullish = false ∧
    findingArtifactDigest rt sha256Hex current.handoff = .ok digest
  noHandoff : binding.handoffDigest = none → current.handoff.isNullish = true
  sourceSha : current.sourceSha = binding.sourceSha
  campaignId : current.campaignId = binding.campaignId
  handoffVersion : current.handoffVersion = binding.handoffVersion
  privacyProjectionVersion : current.privacyProjectionVersion = binding.privacyProjectionVersion

theorem verifyHandoff_eq_ok {digest : Option JsString} :
    verifyHandoff rt sha256Hex current digest = .ok () ↔
      (∀ text, digest = some text → current.handoff.isNullish = false ∧
        findingArtifactDigest rt sha256Hex current.handoff = .ok text) ∧
      (digest = none → current.handoff.isNullish = true) := by
  cases digest with
  | none => simp [verifyHandoff, failIf_eq_ok]
  | some text =>
      rw [verifyHandoff, bind_eq_ok]
      constructor
      · rintro ⟨_, hnullish, h⟩
        obtain ⟨today, htoday, hsame⟩ := bind_eq_ok.mp h
        have heq : today = text := failIf_ne_eq_ok.mp hsame
        refine ⟨?_, by simp⟩
        rintro other ⟨⟩
        exact ⟨failIf_eq_ok.mp hnullish, heq ▸ htoday⟩
      · rintro ⟨h, -⟩
        obtain ⟨hnullish, htoday⟩ := h text rfl
        refine ⟨(), failIf_eq_ok.mpr hnullish, bind_eq_ok.mpr ⟨text, htoday, ?_⟩⟩
        exact failIf_ne_eq_ok.mpr rfl

theorem verifyReviewCurrent_eq_ok :
    verifyReviewCurrent rt sha256Hex sentinel receipt current = .ok () ↔
      ∃ binding, verifyReceiptIntegrity rt sha256Hex sentinel receipt = .ok binding ∧
        Binds rt sha256Hex binding current := by
  constructor
  · intro h
    simp only [verifyReviewCurrent, bind_eq_ok] at h
    obtain ⟨binding, hbinding, finding, hfinding, _, hfindingSame, dossier, hdossier, _,
      hdossierSame, _, hhandoff, _, hsourceSha, _, hcampaignId, _, hhandoffVersion, hprivacy⟩ := h
    obtain ⟨hsome, hnone⟩ := verifyHandoff_eq_ok.mp hhandoff
    refine ⟨binding, hbinding, ?_, ?_, hsome, hnone, failIf_ne_eq_ok.mp hsourceSha,
      failIf_ne_eq_ok.mp hcampaignId, failIf_ne_eq_ok.mp hhandoffVersion,
      failIf_ne_eq_ok.mp hprivacy⟩
    · rw [hfinding, failIf_ne_eq_ok.mp hfindingSame]
    · rw [hdossier, failIf_ne_eq_ok.mp hdossierSame]
  · rintro ⟨binding, hbinding, hbinds⟩
    rw [verifyReviewCurrent, bind_eq_ok]
    refine ⟨binding, hbinding, ?_⟩
    rw [hbinds.finding, hbinds.dossier, hbinds.sourceSha, hbinds.campaignId, hbinds.handoffVersion,
      hbinds.privacyProjectionVersion]
    simp [bind, Except.bind, failIf, verifyHandoff_eq_ok.mpr ⟨hbinds.handoff, hbinds.noHandoff⟩]

theorem Binds.fields_eq {a b : FindingReviewBinding}
    (ha : Binds rt sha256Hex a current) (hb : Binds rt sha256Hex b current)
    (hfindingId : a.findingId = b.findingId) : a.fields = b.fields := by
  have hfinding := Except.ok.inj (ha.finding.symm.trans hb.finding)
  have hdossier := Except.ok.inj (ha.dossier.symm.trans hb.dossier)
  have hhandoff : a.handoffDigest = b.handoffDigest := by
    rcases hleft : a.handoffDigest with _ | left
    · rcases hright : b.handoffDigest with _ | right
      · rfl
      · have hsome := (hb.handoff right hright).1
        rw [ha.noHandoff hleft] at hsome
        contradiction
    · rcases hright : b.handoffDigest with _ | right
      · have hsome := (ha.handoff left hleft).1
        rw [hb.noHandoff hright] at hsome
        contradiction
      · have hsame := (ha.handoff left hleft).2.symm.trans (hb.handoff right hright).2
        rw [Except.ok.inj hsame]
  rw [FindingReviewBinding.fields, FindingReviewBinding.fields, hfindingId, hfinding, hdossier,
    hhandoff, ← ha.sourceSha, ← ha.campaignId, ← ha.handoffVersion, ← ha.privacyProjectionVersion,
    hb.sourceSha, hb.campaignId, hb.handoffVersion, hb.privacyProjectionVersion]

theorem verifyReceiptIntegrity_eq_ok
    (h : verifyReceiptIntegrity rt sha256Hex sentinel receipt = .ok binding) :
    validateReviewBinding sentinel (field receipt "binding".toList) = .ok binding ∧
      field receipt "reviewId".toList = .str (reviewIdOf rt sha256Hex receipt) := by
  simp only [verifyReceiptIntegrity, bind_eq_ok] at h
  obtain ⟨-, -, -, -, -, -, -, -, -, -, -, -, checked, hbinding, -, -, -, -, _, hid, h⟩ := h
  obtain rfl := Except.ok.inj h
  refine ⟨hbinding, isText_iff.mp ?_⟩
  simpa using failIf_eq_ok.mp hid

end Facts

end NightWatch.ReviewStore.Lifecycle
