import NightWatch.Lib.Guard
import NightWatch.Oracles.Clusters

namespace NightWatch.Oracles.ClusterRuns

open Lib.JsText Lib.JsData Lib.JsRuntime Lib.Guard Lib.Grouping Oracles.Projections
  Oracles.Invariants Oracles.Semantic Oracles.Clusters

def kinds : List InvariantKind :=
  [.fieldPresent, .fieldAbsent, .typeMatch, .typeInSet, .cardinalityMatch, .envelopeClass,
    .identityEqual, .identityPresentInCollection, .numericSumRelation, .countRelation,
    .shapeChanged, .collectionItemContract, .identityUniqueness, .paginationWindow,
    .emptyStateConsistency, .stateRelation, .surfaceEquivalence]

theorem mem_kinds (kind : InvariantKind) : kind ∈ kinds := by
  cases kind <;> decide

theorem nodup_kindNames : (kinds.map kindName).Nodup := by decide +kernel

theorem kindName_injective : Function.Injective kindName := by
  intro a b h
  exact List.inj_on_of_nodup_map nodup_kindNames (mem_kinds a) (mem_kinds b) h

theorem envelopeName_injective : Function.Injective envelopeName := by
  intro a b h
  cases a <;> cases b <;> first | rfl | exact absurd h (by decide)

theorem transitionName_injective : Function.Injective transitionName := by
  intro a b h
  cases a <;> cases b <;> first | rfl | exact absurd h (by decide)

theorem equalityName_injective : Function.Injective equalityName := by
  intro a b h
  cases a <;> cases b <;> first | rfl | exact absurd h (by decide)

theorem operationName_injective : Function.Injective operationName := by
  intro a b h
  cases a <;> cases b <;> first | rfl | exact absurd h (by decide)

theorem textsValue_injective : Function.Injective textsValue := by
  intro xs ys h
  have hstr : Function.Injective JsValue.str := fun _ _ => JsValue.str.inj
  exact hstr.list_map (JsValue.arr.inj h)

@[simp] theorem textsValue_inj {xs ys : List JsString} : textsValue xs = textsValue ys ↔ xs = ys :=
  textsValue_injective.eq_iff

@[simp] theorem pathField_inj {name : String} {path path' : SafePath} :
    pathField name path = pathField name path' ↔ path = path' := by
  simp [pathField]

@[simp] theorem textField_inj {name : String} {text text' : JsString} :
    textField name text = textField name text' ↔ text = text' := by
  simp [textField]

theorem orNullValue_inj {α : Type} {write : α → JsValue} (hinj : Function.Injective write)
    (hnull : ∀ a, write a ≠ .null) {x y : Option α} :
    orNullValue write x = orNullValue write y ↔ x = y := by
  constructor
  · intro h
    cases x with
    | none =>
        cases y with
        | none => rfl
        | some b => exact absurd h.symm (hnull b)
    | some a =>
        cases y with
        | none => exact absurd h (hnull a)
        | some b => rw [hinj h]
  · intro h
    rw [h]

@[simp] theorem orNullNumber_inj {x y : Option JsNumber} :
    orNullValue JsValue.num x = orNullValue JsValue.num y ↔ x = y :=
  orNullValue_inj (fun _ _ => JsValue.num.inj) (by intro a h; contradiction)

@[simp] theorem orNullText_inj {x y : Option JsString} :
    orNullValue JsValue.str x = orNullValue JsValue.str y ↔ x = y :=
  orNullValue_inj (fun _ _ => JsValue.str.inj) (by intro a h; contradiction)

@[simp] theorem orNullTexts_inj {x y : Option (List JsString)} :
    orNullValue textsValue x = orNullValue textsValue y ↔ x = y :=
  orNullValue_inj textsValue_injective (by intro a h; contradiction)

theorem mem_of_typesValue {xs ys : List ProjectionNodeType} (h : typesValue xs = typesValue ys)
    (type : ProjectionNodeType) : type ∈ xs ↔ type ∈ ys := by
  have hsorted := textsValue_injective h
  have hmem (zs : List ProjectionNodeType) :
      typeName type ∈ (zs.map typeName).insertionSort textLe ↔ type ∈ zs := by
    rw [List.mem_insertionSort, List.mem_map_of_injective typeName_injective]
  rw [← hmem xs, hsorted, hmem ys]

section Merging

variable {left right : InvariantDefinition}

theorem kind_of_canonical
    (h : canonicalInvariant left = canonicalInvariant right) : left.kind = right.kind := by
  have hhead := (List.cons.inj (JsValue.obj.inj h)).1
  exact kindName_injective (JsValue.str.inj (Prod.mk.inj hhead).2)

theorem fields_of_canonical
    (h : canonicalInvariant left = canonicalInvariant right) :
    canonicalFields left = canonicalFields right := (List.cons.inj (JsValue.obj.inj h)).2

theorem itemVerdict_congr {left right : CollectionItemContract}
    (hpath : left.itemRelativePath = right.itemRelativePath)
    (hkind : itemKind left.itemInvariant = itemKind right.itemInvariant)
    (hfields : itemFields left.itemInvariant = itemFields right.itemInvariant)
    (item : ProjectionNode) : itemVerdict left item = itemVerdict right item := by
  obtain ⟨collectionPath, leftInvariant, itemRelativePath⟩ := left
  obtain ⟨collectionPath', rightInvariant, itemRelativePath'⟩ := right
  change itemRelativePath = itemRelativePath' at hpath
  subst hpath
  cases leftInvariant with
  | fieldPresent expected =>
      cases rightInvariant with
      | fieldPresent expected' =>
          simp only [itemFields, List.cons.injEq, Prod.mk.injEq, JsValue.bool.injEq, true_and,
            and_true] at hfields
          rw [hfields]
          rfl
      | _ => contradiction
  | fieldAbsent =>
      cases rightInvariant with
      | fieldAbsent => rfl
      | _ => contradiction
  | typeMatch expectedType =>
      cases rightInvariant with
      | typeMatch expectedType' =>
          simp only [itemFields, List.cons.injEq, textField_inj, and_true] at hfields
          rw [typeName_injective hfields]
          rfl
      | _ => contradiction
  | typeInSet allowedTypes =>
      cases rightInvariant with
      | typeInSet allowedTypes' =>
          simp only [itemFields, List.cons.injEq, Prod.mk.injEq, true_and, and_true] at hfields
          simp only [itemVerdict, mem_of_typesValue hfields]
      | _ => contradiction

theorem evaluateItems_congr {left right : CollectionItemContract}
    (hitems : ∀ item, itemVerdict left item = itemVerdict right item) (truncated : Bool)
    (items : List ProjectionNode) :
    evaluateItems left truncated items = evaluateItems right truncated items := by
  have hviolating : violatingItems left = violatingItems right := by
    funext items
    simp only [violatingItems, hitems]
  have hverdicts : itemVerdict left = itemVerdict right := by
    funext item
    exact hitems item
  rw [evaluateItems, evaluateItems, hviolating, hverdicts]

theorem evaluateCollection_congr {left right : CollectionItemContract}
    (hpath : left.collectionPath = right.collectionPath)
    (hitems : ∀ item, itemVerdict left item = itemVerdict right item) (root : ProjectionNode) :
    evaluateCollection left root = evaluateCollection right root := by
  rw [evaluateCollection, evaluateCollection, hpath]
  cases arrayAt root right.collectionPath with
  | none => rfl
  | some collection => simp only [evaluateItems_congr hitems]

variable {numberText : ℚ → JsString}

theorem evaluate_of_canonical
    (h : canonicalInvariant left = canonicalInvariant right) (ctx : ProjectionContext)
    (projections : List ProjectionNode) : evaluateInvariant numberText ctx projections left =
      evaluateInvariant numberText ctx projections right := by
  have hkind := kind_of_canonical h
  have hfields := fields_of_canonical h
  cases left with
  | typeInSet path allowedTypes =>
      cases right with
      | typeInSet path' allowedTypes' =>
          simp only [canonicalFields, List.cons.injEq, pathField_inj, Prod.mk.injEq, true_and,
            and_true] at hfields
          obtain ⟨rfl, htypes⟩ := hfields
          simp only [evaluateInvariant, mem_of_typesValue htypes]
      | _ => contradiction
  | collectionItemContract contract =>
      cases right with
      | collectionItemContract contract' =>
          simp only [canonicalFields, List.cons_append, List.nil_append, List.cons.injEq,
            pathField_inj, textField_inj] at hfields
          obtain ⟨hpath, hitemKind, hitemPath, hitemFields⟩ := hfields
          have hitems := itemVerdict_congr hitemPath (kindName_injective hitemKind) hitemFields
          simp only [evaluateInvariant, evaluateCollection_congr hpath hitems]
      | _ => contradiction
  | _ =>
      cases right with
      | _ =>
          first
          | contradiction
          | simp only [canonicalFields, List.cons.injEq, pathField_inj, textField_inj,
              Prod.mk.injEq, JsValue.bool.injEq, orNullNumber_inj, orNullTexts_inj,
              typeName_injective.eq_iff, envelopeName_injective.eq_iff,
              transitionName_injective.eq_iff, equalityName_injective.eq_iff,
              operationName_injective.eq_iff, true_and, and_true] at hfields
            simp only [hfields]

end Merging

section Identities

variable (boundedIdentityDigest : JsValue → JsString)

def digestedPayloads (obs : SemanticObservation) : List JsValue :=
  [invariantPayload obs.invariant, contractPayload boundedIdentityDigest obs,
    clusterPayload (contractIdentityOf boundedIdentityDigest obs)]

/-- The digest tells the payloads of the observations apart. -/
def Separates (observations : List SemanticObservation) : Prop :=
  Set.InjOn boundedIdentityDigest
    {payload | ∃ obs ∈ observations, payload ∈ digestedPayloads boundedIdentityDigest obs}

/-- Observations whose invariants are derived agree on the canonical form; where one names
its invariant, on the id. -/
def SameInvariant (a b : SemanticObservation) : Prop :=
  match a.invariantDefinitionId, b.invariantDefinitionId with
  | none, none => canonicalInvariant a.invariant = canonicalInvariant b.invariant
  | _, _ => invariantIdOf boundedIdentityDigest a = invariantIdOf boundedIdentityDigest b

structure SameContract (a b : SemanticObservation) : Prop where
  expectationId : a.expectationId = b.expectationId
  targetId : a.targetId = b.targetId
  repoId : a.repoId = b.repoId
  derivationVersion : a.derivationVersion = b.derivationVersion
  evidenceDigest : a.evidenceDigest = b.evidenceDigest
  invariant : SameInvariant boundedIdentityDigest a b

variable {boundedIdentityDigest} {observations : List SemanticObservation}
  {a b : SemanticObservation}

section

variable (h : Separates boundedIdentityDigest observations)

include h

theorem Separates.perm
    {observations' : List SemanticObservation} (hperm : observations.Perm observations') :
    Separates boundedIdentityDigest observations' := by
  apply h.mono
  rintro payload ⟨obs, hobs, hpayload⟩
  exact ⟨obs, hperm.mem_iff.mpr hobs, hpayload⟩

theorem Separates.eq (ha : a ∈ observations) (hb : b ∈ observations) {payload payload' : JsValue}
    (hpayload : payload ∈ digestedPayloads boundedIdentityDigest a)
    (hpayload' : payload' ∈ digestedPayloads boundedIdentityDigest b)
    (hdigest : boundedIdentityDigest payload = boundedIdentityDigest payload') :
    payload = payload' := h ⟨a, ha, hpayload⟩ ⟨b, hb, hpayload'⟩ hdigest

theorem invariantId_iff (ha : a ∈ observations) (hb : b ∈ observations) :
    invariantIdOf boundedIdentityDigest a = invariantIdOf boundedIdentityDigest b ↔
      SameInvariant boundedIdentityDigest a b := by
  rw [SameInvariant]
  cases hleft : a.invariantDefinitionId with
  | some id => rfl
  | none =>
      cases hright : b.invariantDefinitionId with
      | some id => rfl
      | none =>
          unfold invariantIdOf derivedInvariantId
          rw [hleft, hright, Option.getD_none, Option.getD_none]
          constructor
          · intro hid
            have hpayload := h.eq ha hb List.mem_cons_self List.mem_cons_self
              (List.append_cancel_left hid)
            have hfields := JsValue.obj.inj hpayload
            exact (Prod.mk.inj (List.cons.inj (List.cons.inj hfields).2).1).2
          · intro hcanonical
            unfold invariantPayload
            rw [hcanonical]

end

theorem contractPayload_iff :
    contractPayload boundedIdentityDigest a = contractPayload boundedIdentityDigest b ↔
      a.expectationId = b.expectationId ∧ a.targetId = b.targetId ∧
        invariantIdOf boundedIdentityDigest a = invariantIdOf boundedIdentityDigest b ∧
        a.derivationVersion = b.derivationVersion ∧ a.evidenceDigest = b.evidenceDigest ∧
        a.repoId = b.repoId := by
  simp [contractPayload]

section

variable (h : Separates boundedIdentityDigest observations)

include h

theorem contractIdentity_iff (ha : a ∈ observations) (hb : b ∈ observations) :
    contractIdentityOf boundedIdentityDigest a = contractIdentityOf boundedIdentityDigest b ↔
      contractPayload boundedIdentityDigest a = contractPayload boundedIdentityDigest b := by
  constructor
  · intro hid
    unfold contractIdentityOf at hid
    exact h.eq ha hb (List.mem_cons_of_mem _ List.mem_cons_self)
      (List.mem_cons_of_mem _ List.mem_cons_self) (List.append_cancel_left hid)
  · intro hpayload
    unfold contractIdentityOf
    rw [hpayload]

theorem clusterKey_iff (ha : a ∈ observations) (hb : b ∈ observations) :
    clusterKeyOf boundedIdentityDigest a = clusterKeyOf boundedIdentityDigest b ↔
      contractIdentityOf boundedIdentityDigest a = contractIdentityOf boundedIdentityDigest b := by
  constructor
  · intro hkey
    unfold clusterKeyOf at hkey
    have hpayload := h.eq ha hb (List.mem_cons_of_mem _ (List.mem_cons_of_mem _
      List.mem_cons_self)) (List.mem_cons_of_mem _ (List.mem_cons_of_mem _ List.mem_cons_self))
      (List.append_cancel_left hkey)
    have hfields := (List.cons.inj (JsValue.obj.inj hpayload)).2
    exact textField_inj.mp (List.cons.inj hfields).1
  · intro hid
    unfold clusterKeyOf
    rw [hid]

theorem sameKey_iff (ha : a ∈ observations) (hb : b ∈ observations) :
    clusterKeyOf boundedIdentityDigest a = clusterKeyOf boundedIdentityDigest b ↔
      SameContract boundedIdentityDigest a b := by
  rw [clusterKey_iff h ha hb, contractIdentity_iff h ha hb, contractPayload_iff,
    invariantId_iff h ha hb]
  constructor
  · rintro ⟨hexpectation, htarget, hinvariant, hversion, hdigest, hrepo⟩
    exact ⟨hexpectation, htarget, hrepo, hversion, hdigest, hinvariant⟩
  · rintro ⟨hexpectation, htarget, hrepo, hversion, hdigest, hinvariant⟩
    exact ⟨hexpectation, htarget, hinvariant, hversion, hdigest, hrepo⟩

end

end Identities

section Clusterings

variable {rt : Runtime} {boundedIdentityDigest : JsValue → JsString}
  {observations observations' : List SemanticObservation} {clusters : List SemanticCluster}

theorem collect_eq_ok {buckets result : List (JsString × List SemanticObservation)} :
    collect rt boundedIdentityDigest buckets observations = .ok result ↔
      (∀ obs ∈ observations, checkObservation rt boundedIdentityDigest obs = .ok ()) ∧
        observations.foldl (addTo (clusterKeyOf boundedIdentityDigest)) buckets = result := by
  induction observations generalizing buckets with
  | nil => simp [collect]
  | cons obs rest ih =>
      rw [collect, bind_eq_ok, List.forall_mem_cons, List.foldl_cons]
      constructor
      · rintro ⟨_, hcheck, hrest⟩
        obtain ⟨hchecks, hresult⟩ := ih.mp hrest
        exact ⟨⟨hcheck, hchecks⟩, hresult⟩
      · rintro ⟨⟨hcheck, hchecks⟩, hresult⟩
        exact ⟨(), hcheck, ih.mpr ⟨hchecks, hresult⟩⟩

variable (rt boundedIdentityDigest) in
def bucketClusters (observations : List SemanticObservation) : List SemanticCluster :=
  (group (clusterKeyOf boundedIdentityDigest) observations).filterMap
    (bucketCluster rt boundedIdentityDigest)

variable (rt) in
def sortedByKey (clusters : List SemanticCluster) : List SemanticCluster :=
  clusters.insertionSort fun a b => localeOrder rt a.clusterKey b.clusterKey

theorem cluster_eq_ok :
    clusterSemanticObservations rt boundedIdentityDigest observations = .ok clusters ↔
      (∀ obs ∈ observations, checkObservation rt boundedIdentityDigest obs = .ok ()) ∧
        sortedByKey rt (bucketClusters rt boundedIdentityDigest observations) = clusters := by
  rw [clusterSemanticObservations, bind_eq_ok]
  constructor
  · rintro ⟨buckets, hcollect, hclusters⟩
    obtain ⟨hchecks, rfl⟩ := collect_eq_ok.mp hcollect
    exact ⟨hchecks, Except.ok.inj hclusters⟩
  · rintro ⟨hchecks, rfl⟩
    exact ⟨_, collect_eq_ok.mpr ⟨hchecks, rfl⟩, rfl⟩

theorem map_bucketClusters {β : Type} (read : SemanticCluster → β)
    (readBucket : JsString × List SemanticObservation → β)
    (h : ∀ key first items, read (clusterOf rt boundedIdentityDigest key first items) =
      readBucket (key, items)) : (bucketClusters rt boundedIdentityDigest observations).map read =
      (group (clusterKeyOf boundedIdentityDigest) observations).map readBucket := by
  have hfull : ∀ bucket ∈ group (clusterKeyOf boundedIdentityDigest) observations,
      bucket.2 ≠ [] := fun bucket hbucket => (mem_group.mp hbucket).1
  rw [bucketClusters]
  generalize group (clusterKeyOf boundedIdentityDigest) observations = buckets at hfull
  induction buckets with
  | nil => rfl
  | cons bucket rest ih =>
      obtain ⟨hbucket, hrest⟩ := List.forall_mem_cons.mp hfull
      obtain ⟨key, items⟩ := bucket
      cases items with
      | nil => contradiction
      | cons first items =>
          have hhead : bucketCluster rt boundedIdentityDigest (key, first :: items) =
              some (clusterOf rt boundedIdentityDigest key first (first :: items)) := rfl
          rw [List.filterMap_cons_some hhead, List.map_cons, List.map_cons, h, ih hrest]

theorem nodup_clusterKeys :
    ((bucketClusters rt boundedIdentityDigest observations).map SemanticCluster.clusterKey).Nodup := by
  rw [map_bucketClusters SemanticCluster.clusterKey Prod.fst fun key first items => rfl]
  exact nodup_group observations

theorem mem_bucketClusters {cluster : SemanticCluster} :
    cluster ∈ bucketClusters rt boundedIdentityDigest observations ↔
      ∃ first items, first :: items = observations.filter (fun obs =>
          clusterKeyOf boundedIdentityDigest obs = cluster.clusterKey) ∧
        clusterOf rt boundedIdentityDigest cluster.clusterKey first (first :: items) = cluster := by
  rw [bucketClusters, List.mem_filterMap]
  constructor
  · rintro ⟨⟨key, bucket⟩, hbucket, hcluster⟩
    obtain ⟨hne, hitems⟩ := mem_group.mp hbucket
    cases bucket with
    | nil => contradiction
    | cons first items =>
        obtain rfl := Option.some.inj hcluster
        exact ⟨first, items, hitems.symm, rfl⟩
  · rintro ⟨first, items, hitems, hcluster⟩
    refine ⟨(cluster.clusterKey, first :: items), mem_group.mpr ⟨by simp, hitems.symm⟩, ?_⟩
    rw [← hcluster]
    rfl

theorem ordered_runKeys (items : List SemanticObservation) :
    (ordered rt items).map runKey = (items.map runKey).insertionSort (runKeyLe rt) :=
  List.map_insertionSort _ _ runKey items fun _ _ _ _ => Iff.rfl

theorem runKeyLe_linear (hlocale : LinearLe (localeOrder rt)) : LinearLe (runKeyLe rt) :=
  hlocale.lex (hlocale.lex hlocale)

theorem clusterOf_perm (hlocale : LinearLe (localeOrder rt))
    (hseparates : Separates boundedIdentityDigest observations) {key : JsString}
    {first first' : SemanticObservation} {items items' : List SemanticObservation}
    (hfirst : first ∈ observations) (hfirst' : first' ∈ observations)
    (hkey : clusterKeyOf boundedIdentityDigest first = clusterKeyOf boundedIdentityDigest first')
    (hperm : items.Perm items') : clusterOf rt boundedIdentityDigest key first items =
      clusterOf rt boundedIdentityDigest key first' items' := by
  have hruns : (ordered rt items).map runKey = (ordered rt items').map runKey := by
    rw [ordered_runKeys, ordered_runKeys]
    exact (runKeyLe_linear hlocale).sort_perm (hperm.map runKey)
  have hids : (ordered rt items).map SemanticObservation.runId =
      (ordered rt items').map SemanticObservation.runId := by
    have hfirsts := congrArg (List.map Prod.fst) hruns
    rw [List.map_map, List.map_map] at hfirsts
    exact hfirsts
  have hprints : (ordered rt items).map SemanticObservation.fingerprint =
      (ordered rt items').map SemanticObservation.fingerprint := by
    have hlasts := congrArg (List.map fun run => run.2.2) hruns
    rw [List.map_map, List.map_map] at hlasts
    exact hlasts
  have hidentity := (clusterKey_iff hseparates hfirst hfirst').mp hkey
  have hpayload := (contractIdentity_iff hseparates hfirst hfirst').mp hidentity
  obtain ⟨hexpectation, htarget, hinvariant, -⟩ := contractPayload_iff.mp hpayload
  rw [clusterOf, clusterOf, hidentity, hexpectation, htarget, hinvariant, hids, hprints,
    hperm.length_eq, hperm.countP_eq]

theorem bucketClusters_perm (hlocale : LinearLe (localeOrder rt))
    (hseparates : Separates boundedIdentityDigest observations)
    (hperm : observations.Perm observations') :
    (bucketClusters rt boundedIdentityDigest observations).Perm
      (bucketClusters rt boundedIdentityDigest observations') := by
  have hsub {xs ys : List SemanticObservation} (hsame : xs.Perm ys)
      (hxs : Separates boundedIdentityDigest xs) (cluster : SemanticCluster)
      (hmem : cluster ∈ bucketClusters rt boundedIdentityDigest xs) :
      cluster ∈ bucketClusters rt boundedIdentityDigest ys := by
    obtain ⟨first, items, hitems, hcluster⟩ := mem_bucketClusters.mp hmem
    have hfilter := hsame.filter fun obs =>
      decide (clusterKeyOf boundedIdentityDigest obs = cluster.clusterKey)
    rw [← hitems] at hfilter
    cases hother : ys.filter fun obs =>
        decide (clusterKeyOf boundedIdentityDigest obs = cluster.clusterKey) with
    | nil =>
        rw [hother] at hfilter
        exact absurd hfilter.eq_nil (by simp)
    | cons first' items' =>
        rw [hother] at hfilter
        have hfirst : first ∈ xs.filter fun obs =>
            decide (clusterKeyOf boundedIdentityDigest obs = cluster.clusterKey) := by
          rw [← hitems]
          exact List.mem_cons_self
        have hfirst' : first' ∈ xs.filter fun obs =>
            decide (clusterKeyOf boundedIdentityDigest obs = cluster.clusterKey) := by
          rw [← hitems]
          exact hfilter.mem_iff.mpr List.mem_cons_self
        obtain ⟨hxs', hkey⟩ := List.mem_filter.mp hfirst
        obtain ⟨hys', hkey'⟩ := List.mem_filter.mp hfirst'
        refine mem_bucketClusters.mpr ⟨first', items', hother.symm, ?_⟩
        rw [← clusterOf_perm hlocale hxs hxs' hys'
          ((of_decide_eq_true hkey).trans (of_decide_eq_true hkey').symm) hfilter]
        exact hcluster
  refine (List.perm_ext_iff_of_nodup nodup_clusterKeys.of_map nodup_clusterKeys.of_map).mpr ?_
  intro cluster
  exact ⟨hsub hperm hseparates cluster, hsub hperm.symm (hseparates.perm hperm) cluster⟩

end Clusterings

section Contracts

variable {rt : Runtime} {boundedIdentityDigest : JsValue → JsString}
  {observations observations' : List SemanticObservation} {clusters : List SemanticCluster}

variable (boundedIdentityDigest) in
def SharesCluster (clusters : List SemanticCluster) (a b : SemanticObservation) : Prop :=
  ∃ cluster ∈ clusters, clusterKeyOf boundedIdentityDigest a = cluster.clusterKey ∧
    clusterKeyOf boundedIdentityDigest b = cluster.clusterKey

variable (boundedIdentityDigest observations clusters) in
structure PartitionsByContract : Prop where
  distinct : (clusters.map SemanticCluster.clusterKey).Nodup
  counted : ∀ cluster ∈ clusters, cluster.occurrenceCount = observations.countP fun obs =>
    clusterKeyOf boundedIdentityDigest obs = cluster.clusterKey
  shared : ∀ a ∈ observations, ∀ b ∈ observations,
    SharesCluster boundedIdentityDigest clusters a b ↔ SameContract boundedIdentityDigest a b
  total : (clusters.map SemanticCluster.occurrenceCount).sum = observations.length

theorem sortedByKey_perm (clusters : List SemanticCluster) :
    (sortedByKey rt clusters).Perm clusters := List.perm_insertionSort _ _

variable (rt) in
theorem exists_cluster {obs : SemanticObservation} (hobs : obs ∈ observations) :
    ∃ cluster ∈ bucketClusters rt boundedIdentityDigest observations,
      clusterKeyOf boundedIdentityDigest obs = cluster.clusterKey := by
  have hmem : obs ∈ observations.filter fun other => decide
      (clusterKeyOf boundedIdentityDigest other = clusterKeyOf boundedIdentityDigest obs) :=
    List.mem_filter.mpr ⟨hobs, decide_eq_true rfl⟩
  cases hbucket : observations.filter fun other => decide
      (clusterKeyOf boundedIdentityDigest other = clusterKeyOf boundedIdentityDigest obs) with
  | nil =>
      rw [hbucket] at hmem
      contradiction
  | cons first items =>
      refine ⟨clusterOf rt boundedIdentityDigest (clusterKeyOf boundedIdentityDigest obs) first
        (first :: items), ?_, rfl⟩
      exact mem_bucketClusters.mpr ⟨first, items, hbucket.symm, rfl⟩

theorem shares_iff_sameKey {a b : SemanticObservation} (ha : a ∈ observations) :
    SharesCluster boundedIdentityDigest
        (sortedByKey rt (bucketClusters rt boundedIdentityDigest observations)) a b ↔
      clusterKeyOf boundedIdentityDigest a = clusterKeyOf boundedIdentityDigest b := by
  constructor
  · rintro ⟨cluster, -, hleft, hright⟩
    exact hleft.trans hright.symm
  · intro hkey
    obtain ⟨cluster, hcluster, hleft⟩ := exists_cluster rt ha
    exact ⟨cluster, (sortedByKey_perm _).mem_iff.mpr hcluster, hleft, hkey.symm.trans hleft⟩

theorem partitions_by_contract (hseparates : Separates boundedIdentityDigest observations) :
    PartitionsByContract boundedIdentityDigest observations
      (sortedByKey rt (bucketClusters rt boundedIdentityDigest observations)) where
  distinct := ((sortedByKey_perm _).map _).nodup_iff.mpr nodup_clusterKeys
  counted cluster hcluster := by
    obtain ⟨first, items, hitems, hsame⟩ :=
      mem_bucketClusters.mp ((sortedByKey_perm _).mem_iff.mp hcluster)
    rw [List.countP_eq_length_filter, ← hitems, ← hsame]
    rfl
  shared a ha b hb := by
    rw [shares_iff_sameKey ha]
    exact sameKey_iff hseparates ha hb
  total := by
    rw [((sortedByKey_perm _).map _).sum_eq, map_bucketClusters SemanticCluster.occurrenceCount
      (fun bucket => bucket.2.length) fun key first items => rfl]
    exact sum_length_group observations

/-- Clusters are contracts: the order of the observations does not matter, two share a
cluster exactly when they are about one contract, none is lost, and what one canonical
form stands for is evaluated alike. -/
theorem clusters_are_contracts (hlocale : LinearLe (localeOrder rt))
    (hseparates : Separates boundedIdentityDigest observations)
    (h : clusterSemanticObservations rt boundedIdentityDigest observations = .ok clusters) :
    (∀ observations', observations.Perm observations' →
      clusterSemanticObservations rt boundedIdentityDigest observations' = .ok clusters) ∧
    PartitionsByContract boundedIdentityDigest observations clusters ∧
    ∀ left right, canonicalInvariant left = canonicalInvariant right →
      ∀ numberText ctx projections, (evaluateInvariant numberText ctx projections left).verdict =
        (evaluateInvariant numberText ctx projections right).verdict := by
  obtain ⟨hchecks, rfl⟩ := cluster_eq_ok.mp h
  refine ⟨?_, partitions_by_contract hseparates, ?_⟩
  · intro observations' hperm
    refine cluster_eq_ok.mpr ⟨fun obs hobs => hchecks obs (hperm.mem_iff.mpr hobs), ?_⟩
    have hclusters := bucketClusters_perm hlocale hseparates hperm
    exact (hlocale.sort_map_perm SemanticCluster.clusterKey nodup_clusterKeys hclusters).symm
  · intro left right hcanonical numberText ctx projections
    rw [evaluate_of_canonical hcanonical]

end Contracts

theorem plain_localeOrder {s t : JsString} : localeOrder plainRuntime s t ↔ s ≤ t :=
  decide_eq_true_iff

theorem plain_locale_linear : LinearLe (localeOrder plainRuntime) where
  total s t := by
    rw [plain_localeOrder, plain_localeOrder]
    exact le_total s t
  trans s t u := by
    rw [plain_localeOrder, plain_localeOrder, plain_localeOrder]
    exact le_trans
  antisymm s t := by
    rw [plain_localeOrder, plain_localeOrder]
    exact le_antisymm

def textsDigest : JsValue → JsString
  | .obj fields => fields.flatMap fun field =>
      match field.2 with
      | .str text => text
      | _ => []
  | _ => []

def rowsObservation (runId : JsString) (invariantDefinitionId : Option JsString) :
    SemanticObservation where
  runId := runId
  observedAt := "2026-01-01T00:00:00.000Z".toList
  expectationId := "rows.present".toList
  targetId := "rows".toList
  invariant := .fieldPresent ["rows".toList] true
  invariantDefinitionId := invariantDefinitionId
  repoId := "web".toList
  derivationVersion := "v1".toList
  evidenceDigest := none
  sha := none
  fingerprint := "fp:sha256:".toList ++ List.replicate 24 'a'
  reproduced := true

theorem digestedPayloads_rows (runId runId' : JsString) (id : Option JsString) :
    digestedPayloads textsDigest (rowsObservation runId id) =
      digestedPayloads textsDigest (rowsObservation runId' id) := rfl

theorem separates_of_nodup {digest : JsValue → JsString} {observations : List SemanticObservation}
    (payloads : List JsValue) (hnodup : (payloads.map digest).Nodup)
    (hmem : ∀ obs ∈ observations, digestedPayloads digest obs ⊆ payloads) :
    Separates digest observations := by
  rintro left ⟨a, ha, hleft⟩ right ⟨b, hb, hright⟩ heq
  exact List.inj_on_of_nodup_map hnodup (hmem a ha hleft) (hmem b hb hright) heq

theorem rows_share_a_cluster :
    ∃ clusters, clusterSemanticObservations plainRuntime textsDigest
        [rowsObservation "run-1".toList none, rowsObservation "run-2".toList none] = .ok clusters ∧
      (∀ observations', [rowsObservation "run-1".toList none,
          rowsObservation "run-2".toList none].Perm observations' →
        clusterSemanticObservations plainRuntime textsDigest observations' = .ok clusters) ∧
      PartitionsByContract textsDigest [rowsObservation "run-1".toList none,
        rowsObservation "run-2".toList none] clusters ∧
      ∀ left right, canonicalInvariant left = canonicalInvariant right →
        ∀ numberText ctx projections,
          (evaluateInvariant numberText ctx projections left).verdict =
            (evaluateInvariant numberText ctx projections right).verdict := by
  have hchecks : ∀ obs ∈ [rowsObservation "run-1".toList none, rowsObservation "run-2".toList none],
      checkObservation plainRuntime textsDigest obs = .ok () := by decide +kernel
  have hseparates : Separates textsDigest [rowsObservation "run-1".toList none,
      rowsObservation "run-2".toList none] := by
    apply separates_of_nodup (digestedPayloads textsDigest (rowsObservation "run-1".toList none))
    · decide +kernel
    · rw [List.forall_mem_cons, List.forall_mem_singleton]
      rw [digestedPayloads_rows "run-2".toList "run-1".toList none]
      exact ⟨List.Subset.refl _, List.Subset.refl _⟩
  exact ⟨_, cluster_eq_ok.mpr ⟨hchecks, rfl⟩,
    clusters_are_contracts plain_locale_linear hseparates (cluster_eq_ok.mpr ⟨hchecks, rfl⟩)⟩

def otherId : JsString := "inv:sha256:".toList ++ List.replicate 24 '0'

/-- An observation that names another id than its invariant has is clustered by that id. -/
theorem named_observation_splits : LinearLe (localeOrder plainRuntime) ∧
    Separates textsDigest [rowsObservation "run-1".toList none,
      rowsObservation "run-2".toList (some otherId)] ∧
    (∃ clusters, clusterSemanticObservations plainRuntime textsDigest
        [rowsObservation "run-1".toList none, rowsObservation "run-2".toList (some otherId)] =
          .ok clusters ∧
      ¬SharesCluster textsDigest clusters (rowsObservation "run-1".toList none)
        (rowsObservation "run-2".toList (some otherId))) ∧
    ∀ runId id, (rowsObservation runId id).expectationId = "rows.present".toList ∧
      (rowsObservation runId id).targetId = "rows".toList ∧
      (rowsObservation runId id).repoId = "web".toList ∧
      (rowsObservation runId id).derivationVersion = "v1".toList ∧
      (rowsObservation runId id).evidenceDigest = none ∧
      canonicalInvariant (rowsObservation runId id).invariant =
        canonicalInvariant (.fieldPresent ["rows".toList] true) := by
  refine ⟨plain_locale_linear, ?_, ⟨_, cluster_eq_ok.mpr ⟨by decide +kernel, rfl⟩, ?_⟩,
    fun runId id => ⟨rfl, rfl, rfl, rfl, rfl, rfl⟩⟩
  · apply separates_of_nodup (digestedPayloads textsDigest (rowsObservation "run-1".toList none) ++
      (digestedPayloads textsDigest (rowsObservation "run-2".toList (some otherId))).tail)
    · decide +kernel
    · rw [List.forall_mem_cons, List.forall_mem_singleton]
      constructor
      · exact List.subset_append_left _ _
      · rintro payload hpayload
        rcases List.mem_cons.mp hpayload with rfl | htail
        · exact List.mem_cons_self
        · exact List.mem_append_right _ htail
  · rintro ⟨cluster, -, hleft, hright⟩
    have hne : clusterKeyOf textsDigest (rowsObservation "run-1".toList none) ≠
        clusterKeyOf textsDigest (rowsObservation "run-2".toList (some otherId)) := by
      decide +kernel
    exact hne (hleft.trans hright.symm)

end NightWatch.Oracles.ClusterRuns
