import NightWatch.CampaignIntelligence.MinimizationV2
import NightWatch.Lib.Grouping
import NightWatch.Lib.TextOrder
import NightWatch.Triage.ReplayPlan

/-!
Findings are grouped by a composite identity, without their messages. Version tags are left out.
-/

namespace NightWatch.CampaignIntelligence.ClusterV2

open Lib.JsText Lib.Guard Lib.Grouping Lib.TextOrder Triage.ReplayPlan
open MinimizationV2 (isSafeId)

structure FindingClusterInput where
  findingId : JsString
  semanticContractId : Option JsString
  invariantId : Option JsString
  behaviorClass : JsString
  normalizedFailureLocation : JsString
  sourceImpactIdentity : Option JsString
  replayFingerprint : Option JsString
  minimizedStructureDigest : Option JsString
  protocolClass : Option JsString
  sourceCurrentness : JsString
  deriving DecidableEq

/-- What `safeCampaignDigest` is applied to, one case for each prefix. -/
inductive Payload where
  | semanticKey (semanticContractId invariantId behaviorClass : JsString)
  | protocolKey (protocolClass : Option JsString) (normalizedFailureLocation : JsString)
      (replayFingerprint : Option JsString)
  | cluster (semanticKey protocolKey sourceImpactIdentity : Option JsString)
  | clusterEvidence (clusterId : JsString)
      (semanticKey protocolKey sourceImpactIdentity : Option JsString) (sourceCurrentness : JsString)

structure FindingClusterIdentity where
  clusterId : JsString
  semanticKey : Option JsString
  protocolKey : Option JsString
  sourceImpactIdentity : Option JsString
  sourceCurrentness : JsString
  deterministicDigest : JsString

structure FindingClusterGroup where
  identity : FindingClusterIdentity
  findingIds : List JsString
  representativeFindingId : Option JsString
  duplicateCount : ℕ

def invalid (reason : String) : JsString := ("CAMPAIGN_CLUSTER_V2_INVALID:" ++ reason).toList

def checkField (entry : String × Option JsString) : Except JsString Unit := do
  failIf (entry.2.any fun value => !isSafeId value) (invalid (entry.1 ++ "_ID"))
  failIf (entry.2.any hasSentinel) (invalid (entry.1 ++ "_PRIVACY"))

def validateInput (input : FindingClusterInput) : Except JsString Unit := do
  forEach checkField
    [("findingId", some input.findingId), ("semanticContractId", input.semanticContractId),
      ("invariantId", input.invariantId), ("behaviorClass", some input.behaviorClass),
      ("normalizedFailureLocation", some input.normalizedFailureLocation),
      ("sourceImpactIdentity", input.sourceImpactIdentity),
      ("replayFingerprint", input.replayFingerprint),
      ("minimizedStructureDigest", input.minimizedStructureDigest),
      ("protocolClass", input.protocolClass)]
  failIf (!upTo 80 (fun c => c.isUpper || c == '_') input.sourceCurrentness) (invalid "CURRENTNESS")

section Model

variable (safeCampaignDigest : Payload → JsString) (localeLe : JsString → JsString → Bool)

/-- The contract, the invariant and the behaviour, where the first two are known. -/
def semanticPayload (input : FindingClusterInput) : Option Payload := do
  return .semanticKey (← input.semanticContractId) (← input.invariantId) input.behaviorClass

def protocolPayload (input : FindingClusterInput) : Option Payload :=
  if (semanticPayload input).isSome then none
  else some (.protocolKey input.protocolClass input.normalizedFailureLocation
    input.replayFingerprint)

def clusterIdOf (input : FindingClusterInput) : JsString :=
  safeCampaignDigest (.cluster ((semanticPayload input).map safeCampaignDigest)
    ((protocolPayload input).map safeCampaignDigest) input.sourceImpactIdentity)

def identityOf (input : FindingClusterInput) : FindingClusterIdentity :=
  let semanticKey := (semanticPayload input).map safeCampaignDigest
  let protocolKey := (protocolPayload input).map safeCampaignDigest
  let clusterId := clusterIdOf safeCampaignDigest input
  { clusterId, semanticKey, protocolKey
    sourceImpactIdentity := input.sourceImpactIdentity
    sourceCurrentness := input.sourceCurrentness
    deterministicDigest := safeCampaignDigest (.clusterEvidence clusterId semanticKey protocolKey
      input.sourceImpactIdentity input.sourceCurrentness) }

def findingClusterIdentity (input : FindingClusterInput) :
    Except JsString FindingClusterIdentity := do
  validateInput input
  return identityOf safeCampaignDigest input

/-- The checks of the loop, with the identifiers seen so far. -/
def checkFindings (seen : List JsString) : List FindingClusterInput → Except JsString Unit
  | [] => .ok ()
  | input :: rest => do
      failIf (decide (input.findingId ∈ seen)) (invalid "DUPLICATE_FINDING_ID")
      let _ ← findingClusterIdentity safeCampaignDigest input
      checkFindings (input.findingId :: seen) rest

/-- A group has the identity of the finding that opened it. -/
def groupOf (first : FindingClusterInput) (items : List FindingClusterInput) :
    FindingClusterGroup :=
  let findingIds := (items.map fun item => item.findingId).insertionSort textLe
  { identity := identityOf safeCampaignDigest first
    findingIds
    representativeFindingId := findingIds.head?
    duplicateCount := findingIds.length - 1 }

def groupsOf (inputs : List FindingClusterInput) : List FindingClusterGroup :=
  (group (clusterIdOf safeCampaignDigest) inputs).filterMap fun entry =>
    entry.2.head?.map fun first => groupOf safeCampaignDigest first entry.2

def clusterFindings (inputs : List FindingClusterInput) :
    Except JsString (List FindingClusterGroup) := do
  failIf (decide (4096 < inputs.length)) (invalid "FINDING_COUNT")
  checkFindings safeCampaignDigest [] inputs
  return (groupsOf safeCampaignDigest inputs).insertionSort fun left right =>
    localeLe left.identity.clusterId right.identity.clusterId = true

/-- `localeCompare` ranks all texts, and tells digests apart. -/
structure Collates : Prop where
  total : ∀ s t, localeLe s t = true ∨ localeLe t s = true
  trans : ∀ s t u, localeLe s t = true → localeLe t u = true → localeLe s u = true
  apart : ∀ p q, localeLe (safeCampaignDigest p) (safeCampaignDigest q) = true →
    localeLe (safeCampaignDigest q) (safeCampaignDigest p) = true →
    safeCampaignDigest p = safeCampaignDigest q

/-- What the groups are to be, whatever the order of the findings. -/
structure Settled (inputs : List FindingClusterInput) (groups : List FindingClusterGroup) :
    Prop where
  permuted : ∀ inputs', inputs.Perm inputs' →
    clusterFindings safeCampaignDigest localeLe inputs' = .ok groups
  once : (groups.flatMap fun item => item.findingIds).Perm (inputs.map fun input => input.findingId)
  counted : (groups.map fun item => item.duplicateCount).sum + groups.length = inputs.length
  together : ∀ a ∈ inputs, ∀ b ∈ inputs,
    { a with findingId := b.findingId, sourceCurrentness := b.sourceCurrentness } = b →
    ∀ inputs' groups', inputs.Perm inputs' →
      clusterFindings safeCampaignDigest localeLe inputs' = .ok groups' →
      ∃ item ∈ groups, ∃ item' ∈ groups', [a.findingId, b.findingId] ⊆ item.findingIds ∧
        [a.findingId, b.findingId] ⊆ item'.findingIds ∧ item.identity = item'.identity

/-- Findings with one composite identity agree on the currentness of their source. -/
def Uniform (inputs : List FindingClusterInput) : Prop :=
  ∀ a ∈ inputs, ∀ b ∈ inputs, semanticPayload a = semanticPayload b →
    protocolPayload a = protocolPayload b → a.sourceImpactIdentity = b.sourceImpactIdentity →
    a.sourceCurrentness = b.sourceCurrentness

end Model

section Checks

variable {safeCampaignDigest : Payload → JsString} {inputs : List FindingClusterInput}

theorem checkFindings_eq_ok {seen : List JsString} :
    checkFindings safeCampaignDigest seen inputs = .ok () ↔
      (∀ input ∈ inputs, validateInput input = .ok ()) ∧
        (inputs.map fun input => input.findingId).Nodup ∧
        ∀ input ∈ inputs, input.findingId ∉ seen := by
  induction inputs generalizing seen with
  | nil => simp [checkFindings]
  | cons input rest ih =>
      have hidentity : (∃ identity, findingClusterIdentity safeCampaignDigest input = .ok identity) ↔
          validateInput input = .ok () := by
        constructor
        · rintro ⟨_, h⟩
          exact (bind_eq_ok.mp h).choose_spec.1
        · intro h
          exact ⟨_, bind_eq_ok.mpr ⟨(), h, rfl⟩⟩
      have hstep : checkFindings safeCampaignDigest seen (input :: rest) = .ok () ↔
          input.findingId ∉ seen ∧ validateInput input = .ok () ∧
            checkFindings safeCampaignDigest (input.findingId :: seen) rest = .ok () := by
        rw [checkFindings, bind_eq_ok, ← hidentity]
        simp only [bind_eq_ok]
        constructor
        · rintro ⟨⟨⟩, hseen, identity, hvalid, hrest⟩
          exact ⟨of_decide_eq_false (failIf_eq_ok.mp hseen), ⟨identity, hvalid⟩, hrest⟩
        · rintro ⟨hseen, ⟨identity, hvalid⟩, hrest⟩
          exact ⟨(), failIf_eq_ok.mpr (decide_eq_false hseen), identity, hvalid, hrest⟩
      rw [hstep, ih]
      simp only [List.mem_cons, forall_eq_or_imp, List.map_cons, List.nodup_cons, List.mem_map,
        not_or, not_exists, not_and]
      constructor
      · rintro ⟨hseen, hinput, hrest, hnodup, hfresh⟩
        exact ⟨⟨hinput, hrest⟩, ⟨fun x hx => (hfresh x hx).1, hnodup⟩, hseen,
          fun x hx => (hfresh x hx).2⟩
      · rintro ⟨⟨hinput, hrest⟩, ⟨hne, hnodup⟩, hseen, hfresh⟩
        exact ⟨hseen, hinput, hrest, hnodup, fun x hx => ⟨hne x hx, hfresh x hx⟩⟩

theorem clusterFindings_eq_ok {localeLe : JsString → JsString → Bool}
    {groups : List FindingClusterGroup} :
    clusterFindings safeCampaignDigest localeLe inputs = .ok groups ↔
      (inputs.length ≤ 4096 ∧ (∀ input ∈ inputs, validateInput input = .ok ()) ∧
        (inputs.map fun input => input.findingId).Nodup) ∧
      (groupsOf safeCampaignDigest inputs).insertionSort (fun left right =>
        localeLe left.identity.clusterId right.identity.clusterId = true) = groups := by
  rw [clusterFindings]
  simp only [bind_eq_ok]
  constructor
  · rintro ⟨⟨⟩, hlength, ⟨⟩, hchecks, hgroups⟩
    obtain ⟨hvalid, hnodup, -⟩ := checkFindings_eq_ok.mp hchecks
    have hshort := of_decide_eq_false (failIf_eq_ok.mp hlength)
    exact ⟨⟨not_lt.mp hshort, hvalid, hnodup⟩, Except.ok.inj hgroups⟩
  · rintro ⟨⟨hlength, hvalid, hnodup⟩, rfl⟩
    refine ⟨(), failIf_eq_ok.mpr (decide_eq_false (not_lt.mpr hlength)), (), ?_, rfl⟩
    exact checkFindings_eq_ok.mpr ⟨hvalid, hnodup, fun _ _ => List.not_mem_nil⟩

end Checks

section Groups

variable {safeCampaignDigest : Payload → JsString} {localeLe : JsString → JsString → Bool}
  {inputs inputs' : List FindingClusterInput} {a b : FindingClusterInput}

theorem clusterIdOf_eq_iff (hdigest : Function.Injective safeCampaignDigest) :
    clusterIdOf safeCampaignDigest a = clusterIdOf safeCampaignDigest b ↔
      semanticPayload a = semanticPayload b ∧ protocolPayload a = protocolPayload b ∧
        a.sourceImpactIdentity = b.sourceImpactIdentity := by
  rw [clusterIdOf, clusterIdOf, hdigest.eq_iff, Payload.cluster.injEq,
    (Option.map_injective hdigest).eq_iff, (Option.map_injective hdigest).eq_iff]

variable {item : FindingClusterGroup}

theorem mem_groupsOf : item ∈ groupsOf safeCampaignDigest inputs ↔ ∃ first rest,
      inputs.filter (fun input => clusterIdOf safeCampaignDigest input =
        clusterIdOf safeCampaignDigest first) = first :: rest ∧
      groupOf safeCampaignDigest first (first :: rest) = item := by
  rw [groupsOf, List.mem_filterMap]
  constructor
  · rintro ⟨⟨k, items⟩, hentry, hitem⟩
    obtain ⟨hne, hfilter⟩ := mem_group.mp hentry
    cases items with
    | nil => contradiction
    | cons first rest =>
        have hfirst := (List.mem_filter.mp (hfilter ▸ List.mem_cons_self)).2
        obtain rfl := of_decide_eq_true hfirst
        exact ⟨first, rest, hfilter, Option.some.inj hitem⟩
  · rintro ⟨first, rest, hfilter, rfl⟩
    exact ⟨_, mem_group.mpr ⟨List.cons_ne_nil _ _, hfilter⟩, rfl⟩

theorem map_clusterId_groupsOf :
    (groupsOf safeCampaignDigest inputs).map (fun item => item.identity.clusterId) =
      (group (clusterIdOf safeCampaignDigest) inputs).map Prod.fst := by
  rw [groupsOf, List.map_filterMap, ← List.filterMap_eq_map]
  refine List.filterMap_congr fun entry hentry => ?_
  obtain ⟨k, items⟩ := entry
  obtain ⟨hne, hfilter⟩ := mem_group.mp hentry
  cases items with
  | nil => contradiction
  | cons first rest =>
      have hfirst := (List.mem_filter.mp (hfilter ▸ List.mem_cons_self)).2
      exact congrArg some (of_decide_eq_true hfirst)

variable (safeCampaignDigest) (inputs) in
theorem nodup_groupsOf :
    ((groupsOf safeCampaignDigest inputs).map fun item => item.identity.clusterId).Nodup := by
  rw [map_clusterId_groupsOf]
  exact nodup_group inputs

variable (safeCampaignDigest) (inputs) in
theorem identity_mem (a : FindingClusterInput) :
    ∃ item ∈ groupsOf safeCampaignDigest (a :: inputs.erase a),
      item.identity = identityOf safeCampaignDigest a :=
  ⟨_, mem_groupsOf.mpr ⟨a, _, List.filter_cons_of_pos (decide_eq_true rfl), rfl⟩, rfl⟩

theorem identityOf_congr (hsemantic : semanticPayload a = semanticPayload b)
    (hprotocol : protocolPayload a = protocolPayload b)
    (himpact : a.sourceImpactIdentity = b.sourceImpactIdentity)
    (hcurrentness : a.sourceCurrentness = b.sourceCurrentness) :
    identityOf safeCampaignDigest a = identityOf safeCampaignDigest b := by
  simp only [identityOf, clusterIdOf, hsemantic, hprotocol, himpact, hcurrentness]

theorem groupsOf_subset (hdigest : Function.Injective safeCampaignDigest)
    (huniform : Uniform inputs) (hperm : inputs.Perm inputs')
    (hitem : item ∈ groupsOf safeCampaignDigest inputs) :
    item ∈ groupsOf safeCampaignDigest inputs' := by
  obtain ⟨first, rest, hfilter, rfl⟩ := mem_groupsOf.mp hitem
  have hitems := hperm.filter fun input =>
    decide (clusterIdOf safeCampaignDigest input = clusterIdOf safeCampaignDigest first)
  rcases hfilter' : inputs'.filter fun input =>
    decide (clusterIdOf safeCampaignDigest input = clusterIdOf safeCampaignDigest first)
    with _ | ⟨first', rest'⟩
  · rw [hfilter, hfilter'] at hitems
    exact absurd (List.perm_nil.mp hitems) (List.cons_ne_nil _ _)
  · have hmem := (List.mem_filter.mp (hfilter ▸ List.mem_cons_self : first ∈ inputs.filter _)).1
    have hmem' := List.mem_filter.mp (hitems.mem_iff.mpr (hfilter' ▸ List.mem_cons_self))
    have hkey := of_decide_eq_true hmem'.2
    obtain ⟨hsemantic, hprotocol, himpact⟩ := (clusterIdOf_eq_iff hdigest).mp hkey
    have hidentity : identityOf safeCampaignDigest first' = identityOf safeCampaignDigest first :=
      identityOf_congr hsemantic hprotocol himpact
        (huniform _ hmem'.1 _ hmem hsemantic hprotocol himpact)
    rw [hfilter, hfilter'] at hitems
    refine mem_groupsOf.mpr ⟨first', rest', hkey ▸ hfilter', ?_⟩
    rw [groupOf, groupOf, hidentity, sort_congr (hitems.map _)]

theorem groupsOf_perm (hdigest : Function.Injective safeCampaignDigest)
    (huniform : Uniform inputs) (hperm : inputs.Perm inputs') :
    (groupsOf safeCampaignDigest inputs).Perm (groupsOf safeCampaignDigest inputs') := by
  have huniform' : Uniform inputs' := by
    intro a ha b hb
    exact huniform a (hperm.mem_iff.mpr ha) b (hperm.mem_iff.mpr hb)
  refine (List.perm_ext_iff_of_nodup (List.Nodup.of_map _ (nodup_groupsOf _ _))
    (List.Nodup.of_map _ (nodup_groupsOf _ _))).mpr fun item => ?_
  exact ⟨groupsOf_subset hdigest huniform hperm, groupsOf_subset hdigest huniform' hperm.symm⟩

variable {groups : List FindingClusterGroup}

theorem clusterFindings_perm (hcollates : Collates safeCampaignDigest localeLe)
    (hdigest : Function.Injective safeCampaignDigest) (huniform : Uniform inputs)
    (hperm : inputs.Perm inputs')
    (h : clusterFindings safeCampaignDigest localeLe inputs = .ok groups) :
    clusterFindings safeCampaignDigest localeLe inputs' = .ok groups := by
  obtain ⟨⟨hlength, hvalid, hnodup⟩, rfl⟩ := clusterFindings_eq_ok.mp h
  refine clusterFindings_eq_ok.mpr ⟨⟨hperm.length_eq ▸ hlength, ?_, ?_⟩, ?_⟩
  · intro input hinput
    exact hvalid input (hperm.mem_iff.mpr hinput)
  · exact (hperm.map _).nodup_iff.mp hnodup
  · refine insertionSort_perm
      (fun a b => hcollates.total a.identity.clusterId b.identity.clusterId)
      (fun a b c => hcollates.trans a.identity.clusterId b.identity.clusterId c.identity.clusterId)
      ?_ (groupsOf_perm hdigest huniform hperm).symm
    intro left right hleft hright hle hge
    obtain ⟨_, _, -, rfl⟩ := mem_groupsOf.mp hleft
    obtain ⟨_, _, -, rfl⟩ := mem_groupsOf.mp hright
    exact List.inj_on_of_nodup_map (nodup_groupsOf _ _) hleft hright (hcollates.apart _ _ hle hge)

theorem mem_findingIds {k id : JsString} :
    (∃ item ∈ groupsOf safeCampaignDigest inputs, item.identity.clusterId = k ∧
        id ∈ item.findingIds) ↔
      ∃ input ∈ inputs, clusterIdOf safeCampaignDigest input = k ∧ input.findingId = id := by
  constructor
  · rintro ⟨_, hitem, rfl, hid⟩
    obtain ⟨first, rest, hfilter, rfl⟩ := mem_groupsOf.mp hitem
    obtain ⟨input, hinput, rfl⟩ := List.mem_map.mp ((List.mem_insertionSort _).mp hid)
    obtain ⟨hmem, hkey⟩ := List.mem_filter.mp (hfilter ▸ hinput)
    exact ⟨input, hmem, of_decide_eq_true hkey, rfl⟩
  · rintro ⟨input, hinput, rfl, rfl⟩
    have hmem : input ∈ inputs.filter fun other =>
        clusterIdOf safeCampaignDigest other = clusterIdOf safeCampaignDigest input :=
      List.mem_filter.mpr ⟨hinput, decide_eq_true rfl⟩
    obtain ⟨first, rest, hfilter⟩ := List.exists_cons_of_ne_nil (List.ne_nil_of_mem hmem)
    have hfirst := (List.mem_filter.mp (hfilter ▸ List.mem_cons_self)).2
    have hkey := of_decide_eq_true hfirst
    refine ⟨_, mem_groupsOf.mpr ⟨first, rest, hkey ▸ hfilter, rfl⟩, hkey, ?_⟩
    exact (List.mem_insertionSort _).mpr (List.mem_map_of_mem (hfilter ▸ hmem))

theorem findingIds_perm (hnodup : (inputs.map fun input => input.findingId).Nodup) :
    ((groupsOf safeCampaignDigest inputs).flatMap fun item => item.findingIds).Perm
      (inputs.map fun input => input.findingId) := by
  refine (List.perm_ext_iff_of_nodup (List.nodup_flatMap.mpr ⟨?_, ?_⟩) hnodup).mpr ?_
  · intro item hitem
    obtain ⟨first, rest, hfilter, rfl⟩ := mem_groupsOf.mp hitem
    refine (List.perm_insertionSort _ _).nodup_iff.mpr ?_
    exact hnodup.sublist ((hfilter ▸ List.filter_sublist).map _)
  · have hkeys := List.pairwise_map.mp (nodup_groupsOf safeCampaignDigest inputs)
    refine hkeys.imp_of_mem fun hitem hitem' hne id hid hid' => hne ?_
    obtain ⟨x, hx, hkey, heq⟩ := mem_findingIds.mp ⟨_, hitem, rfl, hid⟩
    obtain ⟨y, hy, hkey', heq'⟩ := mem_findingIds.mp ⟨_, hitem', rfl, hid'⟩
    obtain rfl := List.inj_on_of_nodup_map hnodup hx hy (heq.trans heq'.symm)
    exact hkey.symm.trans hkey'
  · intro id
    rw [List.mem_flatMap, List.mem_map]
    constructor
    · rintro ⟨item, hitem, hid⟩
      obtain ⟨input, hinput, -, heq⟩ := mem_findingIds.mp ⟨item, hitem, rfl, hid⟩
      exact ⟨input, hinput, heq⟩
    · rintro ⟨input, hinput, heq⟩
      obtain ⟨item, hitem, -, hid⟩ := mem_findingIds.mpr ⟨input, hinput, rfl, heq⟩
      exact ⟨item, hitem, hid⟩

variable {groups : List FindingClusterGroup}

theorem duplicateCounts_sum
    (h : ∀ item ∈ groups, item.duplicateCount + 1 = item.findingIds.length) :
    (groups.map fun item => item.duplicateCount).sum + groups.length =
      (groups.flatMap fun item => item.findingIds).length := by
  induction groups with
  | nil => rfl
  | cons item rest ih =>
      have hitem := h item List.mem_cons_self
      have hrest := ih fun other hother => h other (List.mem_cons_of_mem _ hother)
      simp only [List.map_cons, List.sum_cons, List.length_cons, List.flatMap_cons,
        List.length_append]
      omega

theorem perm_of_eq_ok (h : clusterFindings safeCampaignDigest localeLe inputs = .ok groups) :
    groups.Perm (groupsOf safeCampaignDigest inputs) :=
  (clusterFindings_eq_ok.mp h).2 ▸ List.perm_insertionSort _ _

theorem uniform_of_settled (hdigest : Function.Injective safeCampaignDigest)
    (h : clusterFindings safeCampaignDigest localeLe inputs = .ok groups)
    (hsettled : Settled safeCampaignDigest localeLe inputs groups) : Uniform inputs := by
  intro a ha b hb hsemantic hprotocol himpact
  have hfound : ∀ x ∈ inputs, ∃ item ∈ groups, item.identity = identityOf safeCampaignDigest x := by
    intro x hx
    have hperm := perm_of_eq_ok (hsettled.permuted _ (List.perm_cons_erase hx))
    obtain ⟨item, hitem, heq⟩ := identity_mem safeCampaignDigest inputs x
    exact ⟨item, hperm.mem_iff.mpr hitem, heq⟩
  have hperm := perm_of_eq_ok h
  obtain ⟨item, hitem, hidentity⟩ := hfound a ha
  obtain ⟨item', hitem', hidentity'⟩ := hfound b hb
  have hkey : item.identity.clusterId = item'.identity.clusterId := by
    rw [hidentity, hidentity']
    exact (clusterIdOf_eq_iff hdigest).mpr ⟨hsemantic, hprotocol, himpact⟩
  obtain rfl := List.inj_on_of_nodup_map (nodup_groupsOf _ _) (hperm.mem_iff.mp hitem)
    (hperm.mem_iff.mp hitem') hkey
  exact congrArg FindingClusterIdentity.sourceCurrentness (hidentity.symm.trans hidentity')

theorem clusters_settled_iff (hcollates : Collates safeCampaignDigest localeLe)
    (hdigest : Function.Injective safeCampaignDigest) {groups : List FindingClusterGroup}
    (h : clusterFindings safeCampaignDigest localeLe inputs = .ok groups) :
    Settled safeCampaignDigest localeLe inputs groups ↔ Uniform inputs := by
  refine ⟨uniform_of_settled hdigest h, fun huniform => ?_⟩
  have hnodup := (clusterFindings_eq_ok.mp h).1.2.2
  have hperm := perm_of_eq_ok h
  refine ⟨fun _ hinputs => clusterFindings_perm hcollates hdigest huniform hinputs h, ?_, ?_, ?_⟩
  · exact (hperm.flatMap_right _).trans (findingIds_perm hnodup)
  · have hids := ((hperm.flatMap_right fun item => item.findingIds).trans
      (findingIds_perm hnodup)).length_eq
    rw [List.length_map] at hids
    rw [← hids]
    refine duplicateCounts_sum fun item hitem => ?_
    obtain ⟨first, rest, -, rfl⟩ := mem_groupsOf.mp (hperm.mem_iff.mp hitem)
    change List.length (List.insertionSort _ _) - 1 + 1 = List.length (List.insertionSort _ _)
    rw [List.length_insertionSort]
    rfl
  · intro a ha b hb hab inputs' groups' hinputs h'
    have hsame := clusterFindings_perm hcollates hdigest huniform hinputs h
    obtain rfl := Except.ok.inj (h'.symm.trans hsame)
    have hkey : clusterIdOf safeCampaignDigest b = clusterIdOf safeCampaignDigest a := by
      rw [← hab]
      rfl
    obtain ⟨item, hitem, heq, hid⟩ := mem_findingIds.mpr ⟨a, ha, rfl, rfl⟩
    obtain ⟨item', hitem', heq', hid'⟩ := mem_findingIds.mpr ⟨b, hb, hkey, rfl⟩
    obtain rfl := List.inj_on_of_nodup_map (nodup_groupsOf _ _) hitem hitem' (heq.trans heq'.symm)
    have hmem := hperm.mem_iff.mpr hitem
    have hboth : [a.findingId, b.findingId] ⊆ item.findingIds := by
      simp [hid, hid']
    exact ⟨item, hmem, item, hmem, hboth, hboth, rfl⟩

end Groups

instance instCountableChar : Countable Char :=
  Function.Injective.countable (f := Char.toNat) fun _ _ h => Char.ext (UInt32.toNat_inj.mp h)

deriving instance Countable for Payload

def sampleFinding (findingId sourceCurrentness : String) : FindingClusterInput where
  findingId := findingId.toList
  semanticContractId := some "contract".toList
  invariantId := some "invariant".toList
  behaviorClass := "TOTAL_MISMATCH".toList
  normalizedFailureLocation := "cart/total".toList
  sourceImpactIdentity := none
  replayFingerprint := none
  minimizedStructureDigest := none
  protocolClass := none
  sourceCurrentness := sourceCurrentness.toList

theorem exists_digest : ∃ safeCampaignDigest : Payload → JsString,
    Function.Injective safeCampaignDigest := by
  obtain ⟨number, hnumber⟩ := exists_injective_nat Payload
  exact ⟨_, decimal_injective.comp hnumber⟩

def sampleLe (s t : JsString) : Bool := decide (textLe s t)

theorem sampleLe_collates (safeCampaignDigest : Payload → JsString) :
    Collates safeCampaignDigest sampleLe where
  total s t := by simpa [sampleLe] using total_of textLe s t
  trans s t u := by simpa [sampleLe] using trans_of textLe
  apart p q := by simpa [sampleLe] using antisymm_of textLe

theorem clusters_settled_iff_sample :
    ∃ safeCampaignDigest groups, clusterFindings safeCampaignDigest sampleLe
        [sampleFinding "f1" "CURRENT", sampleFinding "f2" "CURRENT"] = .ok groups ∧
      (Settled safeCampaignDigest sampleLe
          [sampleFinding "f1" "CURRENT", sampleFinding "f2" "CURRENT"] groups ↔
        Uniform [sampleFinding "f1" "CURRENT", sampleFinding "f2" "CURRENT"]) := by
  obtain ⟨safeCampaignDigest, hdigest⟩ := exists_digest
  have h : clusterFindings safeCampaignDigest sampleLe
      [sampleFinding "f1" "CURRENT", sampleFinding "f2" "CURRENT"] = .ok _ :=
    clusterFindings_eq_ok.mpr ⟨⟨by decide, by decide, by decide⟩, rfl⟩
  exact ⟨_, _, h, clusters_settled_iff (sampleLe_collates _) hdigest h⟩

/-- The group of two findings that differ in currentness depends on which came first. -/
theorem first_currentness_is_kept :
    ∃ safeCampaignDigest groups, Function.Injective safeCampaignDigest ∧
      clusterFindings safeCampaignDigest sampleLe
        [sampleFinding "f1" "CURRENT", sampleFinding "f2" "STALE"] = .ok groups ∧
      ¬ Settled safeCampaignDigest sampleLe
        [sampleFinding "f1" "CURRENT", sampleFinding "f2" "STALE"] groups := by
  obtain ⟨safeCampaignDigest, hdigest⟩ := exists_digest
  have h : clusterFindings safeCampaignDigest sampleLe
      [sampleFinding "f1" "CURRENT", sampleFinding "f2" "STALE"] = .ok _ :=
    clusterFindings_eq_ok.mpr ⟨⟨by decide, by decide, by decide⟩, rfl⟩
  refine ⟨_, _, hdigest, h, fun hsettled => ?_⟩
  have huniform := uniform_of_settled hdigest h hsettled
  have heq := huniform _ List.mem_cons_self _ (List.mem_cons_of_mem _ List.mem_cons_self) rfl rfl rfl
  exact absurd heq (by decide)

end NightWatch.CampaignIntelligence.ClusterV2
