import NightWatch.Lib.Calls
import NightWatch.Lib.Json

/-!
`applyPromotion` of `selfDevPromotion/apply.ts`, one filesystem or Git call at a time, on a
checkout that its owner commits to and on private stores that other processes share.
-/

namespace NightWatch.SelfDevPromotion.Apply

open Lib Lib.JsText Lib.Threads

structure SelfDevCanonicalPromotionIntent where
  promotionId : JsString
  adoptionPlanId : JsString
  preparedAgainstHeadSha : JsString
  sourceBundleDigestBefore : JsString
  contractDigestBefore : JsString
  targetPath : JsString
  targetPreimageDigest : JsString
  targetPostimageDigest : JsString

structure SelfDevCanonicalPromotionApproval where
  approvalId : JsString
  promotionId : JsString
  preparedAgainstHeadSha : JsString
  targetPostimageDigest : JsString

structure SelfDevAdoptedCase where
  adoptedCaseId : JsString
  equivalentFingerprint : JsString
  source : JsString

structure SelfDevAdoptionPlan where
  targetPath : JsString
  adoptedCase : SelfDevAdoptedCase

structure CheckoutState where
  currentHeadSha : JsString
  sourceBundleDigest : JsString
  contractDigest : JsString

structure WorkingTreeStatus where
  stagedFiles : List JsString
  untrackedFiles : List JsString
  unstagedFiles : List JsString

inductive SelfDevCanonicalApplyOutcome where
  | applied
  | changesetInvalid
  deriving DecidableEq

structure SelfDevCanonicalApplyReceipt where
  promotionId : JsString
  approvalId : JsString
  appliedAgainstHeadSha : JsString
  targetPath : JsString
  targetPreimageDigest : JsString
  targetPostimageDigest : JsString
  observedTargetPostimageDigest : JsString
  observedChangedFiles : List JsString
  applyOutcome : SelfDevCanonicalApplyOutcome
  canonicalSourceWrites : Nat
  deriving DecidableEq

structure ApplyPromotionInput where
  promotionId : JsString
  approvalId : JsString
  /-- The real path of the repository. -/
  repositoryRoot : JsString

/-- `SELFDEV_ADOPTED_CATALOG_TARGET_PATH`. -/
def adoptedCatalogTargetPath : JsString :=
  "src/core/selfDev/adoptedCaseCatalog.generated.ts".toList

def safeFileName (id : JsString) (namePrefix : String) : JsString :=
  namePrefix.toList ++ '-' :: id.map (fun c => if c = ':' then '-' else c) ++ ".json".toList

/-- What does not change while applications run: the hash, the immutable documents, and the schema
module, which reads the cases of a catalog and renders them. -/
structure Setting where
  ownerPolicyAllows : Bool
  sha256Hex : JsString → JsString
  promotion : JsString → Option SelfDevCanonicalPromotionIntent
  approval : JsString → Option SelfDevCanonicalPromotionApproval
  plan : JsString → Option SelfDevAdoptionPlan
  adoptedCases : JsString → Option (List SelfDevAdoptedCase)
  renderAdoptedCatalogSource : List SelfDevAdoptedCase → JsString

def Setting.digest (setting : Setting) (bytes : JsString) : JsString :=
  "sha256:".toList ++ setting.sha256Hex bytes

def canonicalApplyTransactionIdFor (setting : Setting)
    (repositoryRoot headSha targetPath targetPreimageDigest : JsString) : JsString :=
  "canonical-apply-transaction:".toList ++ setting.sha256Hex (Json.text (.obj [
    ("repositoryRoot".toList, .str repositoryRoot),
    ("headSha".toList, .str headSha),
    ("targetPath".toList, .str targetPath),
    ("targetPreimageDigest".toList, .str targetPreimageDigest)]))

structure Rename where
  approvalId : JsString
  promotionId : JsString
  repositoryRoot : JsString
  headSha : JsString
  targetPreimageDigest : JsString
  deriving DecidableEq

def Rename.approvalFile (r : Rename) : JsString := safeFileName r.approvalId "consumed"

def Rename.transactionFile (setting : Setting) (r : Rename) : JsString :=
  safeFileName (canonicalApplyTransactionIdFor setting r.repositoryRoot r.headSha
    adoptedCatalogTargetPath r.targetPreimageDigest) "transaction"

/-- What others can notice of the threads, in its order. A `failedAfter` is a call that threw
between the rename and the writing of the receipt. -/
inductive Entry where
  | read (thread : Nat) (repositoryRoot bytes : JsString)
  | claimed (thread : Nat) (file : JsString)
  | consumed (thread : Nat) (file : JsString)
  | renamed (thread : Nat) (r : Rename) (replaced written : JsString)
  | failedAfter (thread : Nat)
  | committed (thread : Nat) (repositoryRoot catalog : JsString)
  deriving DecidableEq

def Entry.thread : Entry → Nat
  | read i _ _ | claimed i _ | consumed i _ | renamed i _ _ _ | failedAfter i
  | committed i _ _ => i

structure Checkout where
  head : JsString
  catalog : JsString
  committedCatalog : JsString

/-- The checkouts by their real paths and the stores of one-shot claims, with the log of
what was done to them. -/
structure World where
  checkouts : JsString → Checkout
  transactions : List JsString
  consumptions : List JsString
  log : List Entry

def World.append (w : World) (e : Entry) : World := { w with log := w.log ++ [e] }

def World.setCheckout (w : World) (repositoryRoot : JsString) (checkout : Checkout) : World :=
  { w with checkouts := Function.update w.checkouts repositoryRoot checkout }

inductive ClaimReply where
  | created
  | immutable
  | failed

inductive Op where
  | readPromotion (promotionId : JsString)
  | readApproval (approvalId : JsString)
  | isApprovalConsumed (approvalId : JsString)
  | assertRepositoryFullyClean (repositoryRoot : JsString)
  | currentCheckoutState (repositoryRoot : JsString)
  | assertTargetSafe
  | readTarget (repositoryRoot : JsString)
  | readPlan (adoptionPlanId : JsString)
  | loadRepositoryAdoptedCases (repositoryRoot : JsString)
  | claimApplyTransaction (file : JsString)
  | claimApprovalConsumption (file : JsString)
  | writeTemporary (bytes : JsString)
  | renameTarget (r : Rename) (bytes : JsString)
  | readBack (repositoryRoot : JsString)
  | readWorkingTreeStatus
  | validateReceipt (receipt : SelfDevCanonicalApplyReceipt)
  | writeReceipt (receipt : SelfDevCanonicalApplyReceipt)
  | ownerCommit (repositoryRoot head catalog : JsString)

/-- What a call returns; nothing, or `false`, where it throws. -/
abbrev Op.Reply : Op → Type
  | readPromotion _ => Option SelfDevCanonicalPromotionIntent
  | readApproval _ => Option SelfDevCanonicalPromotionApproval
  | isApprovalConsumed _ => Option Bool
  | assertRepositoryFullyClean _ => Bool
  | currentCheckoutState _ => Option CheckoutState
  | assertTargetSafe => Bool
  | readTarget _ => Option JsString
  | readPlan _ => Option SelfDevAdoptionPlan
  | loadRepositoryAdoptedCases _ => Option (List SelfDevAdoptedCase)
  | claimApplyTransaction _ => ClaimReply
  | claimApprovalConsumption _ => ClaimReply
  | writeTemporary _ => Bool
  | renameTarget _ _ => Bool
  | readBack _ => Option JsString
  | readWorkingTreeStatus => Option WorkingTreeStatus
  | validateReceipt _ => Bool
  | writeReceipt _ => Bool
  | ownerCommit _ _ _ => Unit

/-- What a call may return and leave. Every call may throw, a claim also once made; the files beside
the catalog may be in any state. -/
inductive Perform (setting : Setting) (i : Nat) : (op : Op) → World → op.Reply → World → Prop
  | promotion (id : JsString) (w : World) :
      Perform setting i (.readPromotion id) w (setting.promotion id) w
  | promotionThrew (id : JsString) (w : World) : Perform setting i (.readPromotion id) w none w
  | approval (id : JsString) (w : World) :
      Perform setting i (.readApproval id) w (setting.approval id) w
  | approvalThrew (id : JsString) (w : World) : Perform setting i (.readApproval id) w none w
  | isConsumed (id : JsString) (w : World) : Perform setting i (.isApprovalConsumed id) w
      (some (safeFileName id "consumed" ∈ w.consumptions)) w
  | isConsumedThrew (id : JsString) (w : World) :
      Perform setting i (.isApprovalConsumed id) w none w
  | clean {root : JsString} {w : World}
      (h : (w.checkouts root).catalog = (w.checkouts root).committedCatalog) :
      Perform setting i (.assertRepositoryFullyClean root) w true w
  | notClean (root : JsString) (w : World) :
      Perform setting i (.assertRepositoryFullyClean root) w false w
  | checkout (root : JsString) (w : World) (sourceBundleDigest contractDigest : JsString) :
      Perform setting i (.currentCheckoutState root) w
        (some ⟨(w.checkouts root).head, sourceBundleDigest, contractDigest⟩) w
  | checkoutThrew (root : JsString) (w : World) :
      Perform setting i (.currentCheckoutState root) w none w
  | target (ok : Bool) (w : World) : Perform setting i .assertTargetSafe w ok w
  | read (root : JsString) (w : World) : Perform setting i (.readTarget root) w
      (some (w.checkouts root).catalog) (w.append (.read i root (w.checkouts root).catalog))
  | readThrew (root : JsString) (w : World) : Perform setting i (.readTarget root) w none w
  | plan (id : JsString) (w : World) : Perform setting i (.readPlan id) w (setting.plan id) w
  | planThrew (id : JsString) (w : World) : Perform setting i (.readPlan id) w none w
  | loaded (root : JsString) (w : World) : Perform setting i (.loadRepositoryAdoptedCases root) w
      (setting.adoptedCases (w.checkouts root).catalog) w
  | loadThrew (root : JsString) (w : World) :
      Perform setting i (.loadRepositoryAdoptedCases root) w none w
  | claimed {w : World} {file : JsString} {reply : ClaimReply} (hfree : file ∉ w.transactions)
      (hreply : reply = .created ∨ reply = .failed) :
      Perform setting i (.claimApplyTransaction file) w reply
        ({ w with transactions := file :: w.transactions }.append (.claimed i file))
  | claimTaken {w : World} {file : JsString} (htaken : file ∈ w.transactions) :
      Perform setting i (.claimApplyTransaction file) w .immutable w
  | claimThrew (file : JsString) (w : World) :
      Perform setting i (.claimApplyTransaction file) w .failed w
  | consumed {w : World} {file : JsString} {reply : ClaimReply} (hfree : file ∉ w.consumptions)
      (hreply : reply = .created ∨ reply = .failed) :
      Perform setting i (.claimApprovalConsumption file) w reply
        ({ w with consumptions := file :: w.consumptions }.append (.consumed i file))
  | consumptionTaken {w : World} {file : JsString} (htaken : file ∈ w.consumptions) :
      Perform setting i (.claimApprovalConsumption file) w .immutable w
  | consumptionThrew (file : JsString) (w : World) :
      Perform setting i (.claimApprovalConsumption file) w .failed w
  | temporary (ok : Bool) (bytes : JsString) (w : World) :
      Perform setting i (.writeTemporary bytes) w ok w
  | renamed (r : Rename) (bytes : JsString) (w : World) :
      Perform setting i (.renameTarget r bytes) w true
        ((w.setCheckout r.repositoryRoot
            { w.checkouts r.repositoryRoot with catalog := bytes }).append
          (.renamed i r (w.checkouts r.repositoryRoot).catalog bytes))
  | renameThrew (r : Rename) (bytes : JsString) (w : World) :
      Perform setting i (.renameTarget r bytes) w false w
  | readBack (root : JsString) (w : World) :
      Perform setting i (.readBack root) w (some (w.checkouts root).catalog) w
  | readBackThrew (root : JsString) (w : World) :
      Perform setting i (.readBack root) w none (w.append (.failedAfter i))
  | status (status : WorkingTreeStatus) (w : World) :
      Perform setting i .readWorkingTreeStatus w (some status) w
  | statusThrew (w : World) :
      Perform setting i .readWorkingTreeStatus w none (w.append (.failedAfter i))
  | validated (receipt : SelfDevCanonicalApplyReceipt) (w : World) :
      Perform setting i (.validateReceipt receipt) w true w
  | notValidated (receipt : SelfDevCanonicalApplyReceipt) (w : World) :
      Perform setting i (.validateReceipt receipt) w false (w.append (.failedAfter i))
  | receipt (ok : Bool) (receipt : SelfDevCanonicalApplyReceipt) (w : World) :
      Perform setting i (.writeReceipt receipt) w ok w
  | ownerCommit (root head catalog : JsString) (w : World) :
      Perform setting i (.ownerCommit root head catalog) w ()
        ((w.setCheckout root ⟨head, catalog, catalog⟩).append (.committed i root catalog))

def effects (setting : Setting) : Effects World where
  Op := Op
  Reply := Op.Reply
  perform := Perform setting

section Application

/-- What a call comes to: a receipt, or an error with its `canonicalSourceWrites`, where it
has the field. -/
inductive Outcome where
  | returned (receipt : SelfDevCanonicalApplyReceipt)
  | threw (code : String) (canonicalSourceWrites : Option Nat)
  | committed
  deriving DecidableEq

variable (setting : Setting)

def act (op : Op) : Program (effects setting) (op.Reply) := .call op .done

/-- `fail(code)`. -/
def fail (code : String) : Program (effects setting) Outcome := .done (.threw code (some 0))

def rethrow (message : String) : Program (effects setting) Outcome :=
  .done (.threw message none)

def afterRename (input : ApplyPromotionInput) (promotion : SelfDevCanonicalPromotionIntent)
    (approval : SelfDevCanonicalPromotionApproval) (headSha : JsString) :
    Program (effects setting) Outcome := do
  match ← act setting (.readBack input.repositoryRoot) with
  | none => rethrow setting "READ_BACK"
  | some observedBytes =>
      let observedTargetPostimageDigest := setting.digest observedBytes
      match ← act setting .readWorkingTreeStatus with
      | none => rethrow setting "WORKING_TREE_STATUS"
      | some status =>
          let changesetValid : Bool := status.stagedFiles = [] && status.untrackedFiles = [] &&
            status.unstagedFiles = [promotion.targetPath] &&
            observedTargetPostimageDigest = promotion.targetPostimageDigest
          let receipt : SelfDevCanonicalApplyReceipt :=
            { promotionId := promotion.promotionId
              approvalId := approval.approvalId
              appliedAgainstHeadSha := headSha
              targetPath := promotion.targetPath
              targetPreimageDigest := promotion.targetPreimageDigest
              targetPostimageDigest := promotion.targetPostimageDigest
              observedTargetPostimageDigest
              observedChangedFiles := status.unstagedFiles
              applyOutcome := if changesetValid then .applied else .changesetInvalid
              canonicalSourceWrites := 1 }
          match ← act setting (.validateReceipt receipt) with
          | false => rethrow setting "RECEIPT_INVALID"
          | true =>
              match ← act setting (.writeReceipt receipt) with
              | false => .done (.threw "APPLIED_RECEIPT_PERSIST_FAILED" (some 1))
              | true =>
                  if changesetValid then .done (.returned receipt)
                  else .done (.threw "POSTWRITE_CHANGESET_INVALID" (some 1))

def claimAndWrite (input : ApplyPromotionInput) (promotion : SelfDevCanonicalPromotionIntent)
    (approval : SelfDevCanonicalPromotionApproval) (headSha postimageBytes : JsString) :
    Program (effects setting) Outcome := do
  let r : Rename := ⟨input.approvalId, input.promotionId, input.repositoryRoot, headSha,
    promotion.targetPreimageDigest⟩
  match ← act setting (.claimApplyTransaction (r.transactionFile setting)) with
  | .immutable => fail setting "TRANSACTION_ALREADY_CLAIMED"
  | .failed => rethrow setting "CLAIM_APPLY_TRANSACTION"
  | .created =>
      match ← act setting (.claimApprovalConsumption r.approvalFile) with
      | .immutable =>
          rethrow setting "SELFDEV_CANONICAL_PROMOTION_APPROVAL_ALREADY_CONSUMED"
      | .failed => rethrow setting "CLAIM_APPROVAL_CONSUMPTION"
      | .created =>
          match ← act setting (.writeTemporary postimageBytes) with
          | false => rethrow setting "WRITE_TEMPORARY"
          | true =>
              match ← act setting (.renameTarget r postimageBytes) with
              | false => rethrow setting "RENAME_TARGET"
              | true => afterRename setting input promotion approval headSha

def preparePostimage (input : ApplyPromotionInput) (promotion : SelfDevCanonicalPromotionIntent)
    (approval : SelfDevCanonicalPromotionApproval) (headSha : JsString) :
    Program (effects setting) Outcome := do
  match ← act setting (.readPlan promotion.adoptionPlanId) with
  | none => rethrow setting "READ_PLAN"
  | some plan =>
      match ← act setting (.loadRepositoryAdoptedCases input.repositoryRoot) with
      | none => fail setting "CATALOG_LOAD_FAILED"
      | some repositoryAdoptedCases =>
          let postimageBytes := setting.renderAdoptedCatalogSource
            (repositoryAdoptedCases ++ [plan.adoptedCase])
          if repositoryAdoptedCases.any fun entry =>
              entry.adoptedCaseId = plan.adoptedCase.adoptedCaseId ||
                entry.equivalentFingerprint = plan.adoptedCase.equivalentFingerprint then
            fail setting "ALREADY_ADOPTED"
          else if setting.digest postimageBytes ≠ promotion.targetPostimageDigest then
            fail setting "POSTIMAGE_DIGEST_MISMATCH"
          else if plan.targetPath ≠ adoptedCatalogTargetPath ∨
              promotion.targetPath ≠ adoptedCatalogTargetPath then
            fail setting "TARGET_PATH_INVALID"
          else claimAndWrite setting input promotion approval headSha postimageBytes

def checkSource (input : ApplyPromotionInput) (promotion : SelfDevCanonicalPromotionIntent)
    (approval : SelfDevCanonicalPromotionApproval) : Program (effects setting) Outcome := do
  match ← act setting (.isApprovalConsumed input.approvalId) with
  | none => rethrow setting "READ_CONSUMPTION"
  | some true => fail setting "APPROVAL_ALREADY_CONSUMED"
  | some false =>
      match ← act setting (.assertRepositoryFullyClean input.repositoryRoot) with
      | false => rethrow setting "REPOSITORY_NOT_CLEAN"
      | true =>
          match ← act setting (.currentCheckoutState input.repositoryRoot) with
          | none => rethrow setting "CHECKOUT_STATE"
          | some current =>
              if current.currentHeadSha ≠ promotion.preparedAgainstHeadSha ∨
                  current.sourceBundleDigest ≠ promotion.sourceBundleDigestBefore ∨
                  current.contractDigest ≠ promotion.contractDigestBefore then
                fail setting "PROMOTION_SOURCE_ADVANCED"
              else
                match ← act setting .assertTargetSafe with
                | false => fail setting "TARGET_UNSAFE"
                | true =>
                    match ← act setting (.readTarget input.repositoryRoot) with
                    | none => rethrow setting "READ_TARGET"
                    | some currentBytes =>
                        if setting.digest currentBytes ≠ promotion.targetPreimageDigest then
                          fail setting "TARGET_PREIMAGE_MISMATCH"
                        else preparePostimage setting input promotion approval current.currentHeadSha

/-- `applyPromotion`. -/
def applyPromotion (input : ApplyPromotionInput) : Program (effects setting) Outcome := do
  if setting.ownerPolicyAllows = false then rethrow setting "OWNER_POLICY_BLOCKED"
  else
    match ← act setting (.readPromotion input.promotionId) with
    | none => rethrow setting "READ_PROMOTION"
    | some promotion =>
        match ← act setting (.readApproval input.approvalId) with
        | none => rethrow setting "READ_APPROVAL"
        | some approval =>
            if approval.promotionId ≠ input.promotionId ∨
                approval.preparedAgainstHeadSha ≠ promotion.preparedAgainstHeadSha ∨
                approval.targetPostimageDigest ≠ promotion.targetPostimageDigest then
              fail setting "WRONG_PROMOTION_FOR_APPROVAL"
            else checkSource setting input promotion approval

inductive Call where
  | apply (input : ApplyPromotionInput)
  | ownerCommit (repositoryRoot head catalog : JsString)

def Call.program (setting : Setting) : Call → Program (effects setting) Outcome
  | .apply input => applyPromotion setting input
  | .ownerCommit repositoryRoot head catalog => do
      act setting (.ownerCommit repositoryRoot head catalog)
      return .committed

end Application

end NightWatch.SelfDevPromotion.Apply
