import NightWatch.Lib.Guard
import NightWatch.Triage.AnomalyClusters

/-!
What a bounded cluster says of its observations. The bound cuts the runs and their number, but
neither the number of reproductions nor the primary run, and the times are compared as texts.
-/

namespace NightWatch.Triage.ClusterInvariants

open Lib.JsText Lib.JsData Lib.JsRuntime Lib.Guard Lib.Grouping
open Lib.TextOrder (sortedSet_congr)
open Oracles.Clusters (localeOrder textField orNullValue)
open Triage.AnomalyClusters

section Picks

variable {α : Type} {r : α → α → Prop} [DecidableRel r]

/-- A comparison that may find no difference. -/
structure Ranks (r : α → α → Prop) : Prop where
  total : ∀ a b, r a b ∨ r b a
  trans : ∀ a b c, r a b → r b c → r a c

/-- `a` is among the items that nothing is before. -/
def Leads (r : α → α → Prop) (items : List α) (a : α) : Prop := a ∈ items ∧ ∀ b ∈ items, r a b

theorem Ranks.lex {β : Type} {s : β → β → Prop} {r : α → α → Prop} (hr : Ranks r) (hs : Ranks s) :
    Ranks (lexLe r s) where
  total a b := by
    rcases hr.total a.1 b.1 with hab | hba
    · by_cases hback : r b.1 a.1
      · rcases hs.total a.2 b.2 with h | h
        · exact .inl ⟨hab, fun _ => h⟩
        · exact .inr ⟨hback, fun _ => h⟩
      · exact .inl ⟨hab, fun h => absurd h hback⟩
    · by_cases hback : r a.1 b.1
      · rcases hs.total a.2 b.2 with h | h
        · exact .inl ⟨hback, fun _ => h⟩
        · exact .inr ⟨hba, fun _ => h⟩
      · exact .inr ⟨hba, fun h => absurd h hback⟩
  trans a b c hab hbc := by
    refine ⟨hr.trans _ _ _ hab.1 hbc.1, fun hca => ?_⟩
    exact hs.trans _ _ _ (hab.2 (hr.trans _ _ _ hbc.1 hca)) (hbc.2 (hr.trans _ _ _ hca hab.1))

theorem Ranks.onto {β : Type} {r : β → β → Prop} (h : Ranks r) (f : α → β) :
    Ranks fun a b => r (f a) (f b) :=
  ⟨fun a b => h.total (f a) (f b), fun a b c => h.trans (f a) (f b) (f c)⟩

theorem Ranks.sorted (h : Ranks r) (items : List α) : (items.insertionSort r).Pairwise r := by
  have : Std.Total r := ⟨h.total⟩
  have : IsTrans α r := ⟨h.trans⟩
  exact List.pairwise_insertionSort r items

omit [DecidableRel r] in
theorem Ranks.refl (h : Ranks r) (a : α) : r a a := (h.total a a).elim id id

theorem Ranks.leads_of_head? (h : Ranks r) {items : List α} {a : α}
    (hhead : (items.insertionSort r).head? = some a) : Leads r items a := by
  obtain ⟨rest, hsorted⟩ := List.head?_eq_some_iff.mp hhead
  have hpairs := h.sorted items
  rw [hsorted, List.pairwise_cons] at hpairs
  have hmem : ∀ b, b ∈ items ↔ b = a ∨ b ∈ rest := by
    intro b
    rw [← List.mem_insertionSort r, hsorted, List.mem_cons]
  refine ⟨(hmem a).mpr (.inl rfl), fun b hb => ?_⟩
  rcases (hmem b).mp hb with rfl | hb
  · exact h.refl b
  · exact hpairs.1 b hb

theorem exists_head? {items : List α} (hne : items ≠ []) :
    ∃ a, (items.insertionSort r).head? = some a := by
  have hsorted : items.insertionSort r ≠ [] := fun h => hne ((List.perm_nil.mp
    (h ▸ (List.perm_insertionSort r items).symm)))
  exact ⟨_, List.head?_eq_some_head hsorted⟩

theorem head?_insertionSort_cons {a : α} {rest : List α} (hlead : ∀ b ∈ a :: rest, r a b) :
    ((a :: rest).insertionSort r).head? = some a := by
  rw [List.insertionSort_cons_of_forall_rel r fun b hb => hlead b (List.mem_cons_of_mem a hb)]
  rfl

end Picks

theorem mem_take_iff_countP {le : JsString → JsString → Bool} {runs : List JsString}
    {run : JsString} {bound : ℕ} (hsorted : runs.Pairwise fun s t => le s t = true)
    (hrefl : le run run = true)
    (hanti : ∀ s ∈ runs, le s run = true → le run s = true → s = run) (hmem : run ∈ runs) :
    run ∈ runs.take bound ↔ runs.countP (fun s => !le run s) < bound := by
  induction runs generalizing bound with
  | nil => contradiction
  | cons first rest ih =>
      obtain ⟨hfirst, hrest⟩ := List.pairwise_cons.mp hsorted
      cases bound with
      | zero => simp
      | succ bound =>
          by_cases heq : first = run
          · have hnone : rest.countP (fun s => !le run s) = 0 := by
              rw [List.countP_eq_zero]
              intro s hs
              simp [← heq, hfirst s hs]
            rw [List.take_succ_cons, List.countP_cons, hnone, heq, hrefl]
            simp
          · have hin : run ∈ rest := (List.mem_cons.mp hmem).resolve_left (Ne.symm heq)
            have hbefore : le run first = false := by
              rw [Bool.eq_false_iff]
              intro hback
              exact heq (hanti first List.mem_cons_self (hfirst run hin) hback)
            rw [List.take_succ_cons, List.mem_cons, or_iff_right (Ne.symm heq),
              ih hrest (fun s hs => hanti s (List.mem_cons_of_mem first hs)) hin,
              List.countP_cons, hbefore]
            simp

section Identities

variable (boundedIdentityDigest : JsValue → JsString)

def keyOf (input : AnomalyObservation) : JsString :=
  keyText boundedIdentityDigest input.fingerprint input.features input.timingClass

def sanitizedOf (input : AnomalyObservation) : SanitizedAnomalyObservation :=
  { input with clusterKey := keyOf boundedIdentityDigest input }

def payloadOf (input : AnomalyObservation) : JsValue :=
  keyPayload input.fingerprint input.features input.timingClass

/-- A digest in hexadecimal that tells the payloads of the observations apart. -/
structure Digests (observations : List AnomalyObservation) : Prop where
  hex : ∀ payload, ∀ c ∈ boundedIdentityDigest payload, c.isAlphanum = true
  injOn : Set.InjOn boundedIdentityDigest {payload | ∃ input ∈ observations,
    payload = payloadOf input ∨ payload = idPayload (keyOf boundedIdentityDigest input)}

variable {boundedIdentityDigest} {observations : List AnomalyObservation}
  {a b : AnomalyObservation}

theorem orNullText_inj {s t : Option JsString}
    (h : orNullValue JsValue.str s = orNullValue JsValue.str t) : s = t := by
  cases s with
  | none =>
      cases t with
      | none => rfl
      | some t => contradiction
  | some s =>
      cases t with
      | none => contradiction
      | some t => rw [JsValue.str.inj h]

theorem featuresValue_injective : Function.Injective featuresValue := by
  intro f g h
  obtain ⟨⟩ := f
  obtain ⟨⟩ := g
  simp only [featuresValue, textField, JsValue.obj.injEq, List.cons.injEq, Prod.mk.injEq, true_and,
    JsValue.str.injEq, and_true] at h
  obtain ⟨h1, h2, h3, h4, h5, h6, h7, h8, h9, h10, h11, h12⟩ := h
  rw [orNullText_inj h1, orNullText_inj h2, h3, orNullText_inj h4, orNullText_inj h5,
    orNullText_inj h6, orNullText_inj h7, orNullText_inj h8, orNullText_inj h9,
    orNullText_inj h10, orNullText_inj h11, orNullText_inj h12]

theorem Digests.same_of_key (h : Digests boundedIdentityDigest observations)
    (ha : a ∈ observations) (hb : b ∈ observations)
    (hkey : keyOf boundedIdentityDigest a = keyOf boundedIdentityDigest b) :
    a.fingerprint = b.fingerprint ∧ a.features = b.features := by
  have hpayload : payloadOf a = payloadOf b :=
    h.injOn ⟨a, ha, .inl rfl⟩ ⟨b, hb, .inl rfl⟩ (List.append_cancel_left hkey)
  simp only [payloadOf, keyPayload, textField, JsValue.obj.injEq, List.cons.injEq, Prod.mk.injEq,
    true_and, JsValue.str.injEq] at hpayload
  exact ⟨hpayload.1, featuresValue_injective hpayload.2.1⟩

theorem Digests.key_of_id (h : Digests boundedIdentityDigest observations)
    (ha : a ∈ observations) (hb : b ∈ observations)
    (hid : clusterIdOf boundedIdentityDigest (keyOf boundedIdentityDigest a) =
      clusterIdOf boundedIdentityDigest (keyOf boundedIdentityDigest b)) :
    keyOf boundedIdentityDigest a = keyOf boundedIdentityDigest b := by
  have hpayload := h.injOn ⟨a, ha, .inr rfl⟩ ⟨b, hb, .inr rfl⟩ (List.append_cancel_left hid)
  simp only [idPayload, textField, JsValue.obj.injEq, List.cons.injEq, Prod.mk.injEq, true_and,
    JsValue.str.injEq, and_true] at hpayload
  exact hpayload

end Identities

section Validity

variable {boundedIdentityDigest : JsValue → JsString} {dateParse : JsString → Option ℤ}

theorem refuseIf_eq_ok {condition : Bool} {message : String} :
    NightWatch.Oracles.Clusters.refuseIf condition message = .ok () ↔ condition = false := by
  cases condition <;> simp [NightWatch.Oracles.Clusters.refuseIf]

theorem safeClass_eq {value text : JsString} {name : String} (h : safeClass value name = .ok text) :
    text = value := by
  simp only [safeClass, bind_eq_ok] at h
  obtain ⟨-, -, hvalue⟩ := h
  exact (Except.ok.inj hvalue).symm

theorem safeOptional_eq {value text : Option JsString} {name : String}
    (h : safeOptional value name = .ok text) : text = value := by
  cases value with
  | none => exact (Except.ok.inj h).symm
  | some value =>
      cases hsafe : safeClass value name with
      | error message => simp [safeOptional, hsafe, Except.map] at h
      | ok shown =>
          simp only [safeOptional, hsafe, Except.map, Except.ok.injEq] at h
          rw [← h, safeClass_eq hsafe]

theorem sanitizeFeatures_eq {features shown : StableAnomalyFeatures}
    (h : sanitizeFeatures features = .ok shown) : shown = features := by
  simp only [sanitizeFeatures, bind_eq_ok] at h
  obtain ⟨_, h1, _, h2, _, h3, _, h4, _, h5, _, h6, _, h7, _, h8, _, h9, _, h10, _, h11, _, h12,
    h⟩ := h
  obtain rfl := Except.ok.inj h
  rw [safeOptional_eq h1, safeOptional_eq h2, safeClass_eq h3, safeOptional_eq h4,
    safeOptional_eq h5, safeOptional_eq h6, safeOptional_eq h7, safeOptional_eq h8,
    safeOptional_eq h9, safeOptional_eq h10, safeOptional_eq h11, safeOptional_eq h12]

theorem sanitize_eq {input : AnomalyObservation} {sanitized : SanitizedAnomalyObservation}
    (h : sanitizeAnomalyObservation boundedIdentityDigest dateParse input = .ok sanitized) :
    sanitized = sanitizedOf boundedIdentityDigest input ∧ isRunId input.runId = true ∧
      ∃ time, dateParse input.observedAt = some time := by
  simp only [sanitizeAnomalyObservation, clusterKey, bind_eq_ok] at h
  obtain ⟨_, hrun, _, htime, features, hfeatures, key, ⟨_, _, hkey⟩, hsanitized⟩ := h
  rw [refuseIf_eq_ok] at hrun htime
  obtain rfl := sanitizeFeatures_eq hfeatures
  obtain rfl := Except.ok.inj hkey
  obtain rfl := Except.ok.inj hsanitized
  refine ⟨rfl, by simpa using hrun, ?_⟩
  exact Option.isSome_iff_exists.mp (by simpa using htime)

variable (boundedIdentityDigest dateParse) in
def Valid (observations : List AnomalyObservation) : Prop :=
  ∀ input ∈ observations, ∃ sanitized,
    sanitizeAnomalyObservation boundedIdentityDigest dateParse input = .ok sanitized

variable {observations : List AnomalyObservation}

theorem sanitizeAll_eq (h : Valid boundedIdentityDigest dateParse observations) :
    sanitizeAll boundedIdentityDigest dateParse observations =
      .ok (observations.map (sanitizedOf boundedIdentityDigest)) := by
  induction observations with
  | nil => rfl
  | cons input rest ih =>
      obtain ⟨hinput, hrest⟩ := List.forall_mem_cons.mp h
      obtain ⟨sanitized, hsanitized⟩ := hinput
      rw [sanitizeAll, hsanitized, ih hrest, (sanitize_eq hsanitized).1]
      rfl

end Validity

section Clusters

variable (rt : Runtime) (boundedIdentityDigest : JsValue → JsString)
  (dateParse : JsString → Option ℤ)

def isPlainChar (c : Char) : Bool := c.isAlphanum || c ∈ "_.:/-".toList

/-- What `localeCompare` does: it ranks all texts, and tells identifiers apart. -/
structure Collates : Prop extends Ranks (localeOrder rt) where
  apart : ∀ s t : JsString, s.all isPlainChar = true → t.all isPlainChar = true →
    localeOrder rt s t → localeOrder rt t s → s = t

def membersOf (observations : List AnomalyObservation) (key : JsString) :
    List SanitizedAnomalyObservation :=
  (observations.map (sanitizedOf boundedIdentityDigest)).filter fun item => item.clusterKey = key

def boundedClusters (observations : List AnomalyObservation) (maxOccurrences : ℕ) :
    Except String (List AnomalyCluster) := do
  let clusters ← clusterAnomalies rt boundedIdentityDigest dateParse observations
  suppressDuplicateClusters clusters maxOccurrences

/-- By `Date.parse`, `a` is not after `b`. -/
def NotAfter (a b : SanitizedAnomalyObservation) : Prop :=
  ∀ s t, dateParse a.observedAt = some s → dateParse b.observedAt = some t → s ≤ t

/-- What a bounded cluster is to say of the observations under its key. -/
structure Faithful (observations : List AnomalyObservation) (cluster : AnomalyCluster) : Prop where
  reproductions : cluster.reproductionCount ≤ cluster.occurrenceCount
  runs : cluster.runIds.length = cluster.occurrenceCount
  primary : cluster.primaryRunId ∈ cluster.runIds
  first : ∃ a ∈ membersOf boundedIdentityDigest observations cluster.clusterKey,
    a.observedAt = cluster.firstObserved ∧
      ∀ b ∈ membersOf boundedIdentityDigest observations cluster.clusterKey, NotAfter dateParse a b
  last : ∃ a ∈ membersOf boundedIdentityDigest observations cluster.clusterKey,
    a.observedAt = cluster.lastObserved ∧
      ∀ b ∈ membersOf boundedIdentityDigest observations cluster.clusterKey, NotAfter dateParse b a

/-- The clusters are faithful, whatever the order of the observations. -/
structure Sound (observations : List AnomalyObservation) (maxOccurrences : ℕ) : Prop where
  clusters : ∃ result,
    boundedClusters rt boundedIdentityDigest dateParse observations maxOccurrences = .ok result ∧
      ∀ cluster ∈ result, Faithful boundedIdentityDigest dateParse observations cluster
  permuted : ∀ observations', observations.Perm observations' →
    boundedClusters rt boundedIdentityDigest dateParse observations' maxOccurrences =
      boundedClusters rt boundedIdentityDigest dateParse observations maxOccurrences

/-- The bound keeps the reproductions and the primary run, and the texts of the times at the
ends tell which times they are. -/
structure Kept (maxOccurrences : ℕ) (items : List SanitizedAnomalyObservation) : Prop where
  reproductions : items.countP (fun item => item.reproduced) ≤ maxOccurrences
  primary : ∀ a, Leads (primaryLe rt) items a →
    items.countP (fun b => !rt.localeLe a.runId b.runId) < maxOccurrences
  first : ∀ a, Leads (firstLe rt) items a → ∀ b ∈ items, NotAfter dateParse a b
  last : ∀ a, Leads (lastLe rt) items a → ∀ b ∈ items, NotAfter dateParse b a
  firstText : ∀ a b, Leads (firstLe rt) items a → Leads (firstLe rt) items b →
    a.observedAt = b.observedAt
  lastText : ∀ a b, Leads (lastLe rt) items a → Leads (lastLe rt) items b →
    a.observedAt = b.observedAt

end Clusters

section Buckets

variable {rt : Runtime} {boundedIdentityDigest : JsValue → JsString}
  {dateParse : JsString → Option ℤ} {observations observations' : List AnomalyObservation}
  {maxOccurrences : ℕ} {key : JsString}

theorem mem_membersOf {item : SanitizedAnomalyObservation} :
    item ∈ membersOf boundedIdentityDigest observations key ↔
      ∃ input ∈ observations, keyOf boundedIdentityDigest input = key ∧
        sanitizedOf boundedIdentityDigest input = item := by
  simp only [membersOf, List.mem_filter, List.mem_map, decide_eq_true_eq]
  constructor
  · rintro ⟨⟨input, hinput, rfl⟩, hkey⟩
    exact ⟨input, hinput, hkey, rfl⟩
  · rintro ⟨input, hinput, hkey, rfl⟩
    exact ⟨⟨input, hinput, rfl⟩, hkey⟩

theorem membersOf_ne_nil {input : AnomalyObservation} (h : input ∈ observations) :
    membersOf boundedIdentityDigest observations (keyOf boundedIdentityDigest input) ≠ [] :=
  List.ne_nil_of_mem (mem_membersOf.mpr ⟨input, h, rfl, rfl⟩)

theorem membersOf_perm (h : observations.Perm observations') :
    (membersOf boundedIdentityDigest observations key).Perm
      (membersOf boundedIdentityDigest observations' key) := (h.map _).filter _

theorem firstRanks (h : Ranks (localeOrder rt)) : Ranks (firstLe rt) :=
  (h.lex (h.lex h)).onto fun a : SanitizedAnomalyObservation =>
    (a.observedAt, a.runId, a.fingerprint)

theorem orderedRanks (h : Ranks (localeOrder rt)) : Ranks (orderedLe rt) :=
  (h.lex (h.lex h)).onto fun a : SanitizedAnomalyObservation =>
    (a.runId, a.observedAt, a.fingerprint)

theorem lastRanks (h : Ranks (localeOrder rt)) : Ranks (lastLe rt) :=
  ⟨fun a b => (firstRanks h).total b a, fun a b c hab hbc => (firstRanks h).trans c b a hbc hab⟩

theorem flagRanks : Ranks flagLe :=
  ⟨fun a b => le_total b.toNat a.toNat, fun _ _ _ hab hbc => le_trans hbc hab⟩

theorem primaryRanks (h : Ranks (localeOrder rt)) : Ranks (primaryLe rt) :=
  (flagRanks.lex (flagRanks.lex (h.lex h))).onto fun a : SanitizedAnomalyObservation =>
    (a.reproduced, a.minimized, a.runId, a.fingerprint)

def clusterWith (rt : Runtime) (boundedIdentityDigest : JsValue → JsString) (key : JsString)
    (items : List SanitizedAnomalyObservation) (first last primary : SanitizedAnomalyObservation) :
    AnomalyCluster where
  clusterId := clusterIdOf boundedIdentityDigest key
  clusterKey := key
  fingerprint := primary.fingerprint
  features := primary.features
  occurrenceCount := items.length
  reproductionCount := items.countP fun item => item.reproduced
  runIds := (items.insertionSort (orderedLe rt)).map fun item => item.runId
  firstObserved := first.observedAt
  lastObserved := last.observedAt
  timingVariance := timingVariance items
  primaryRunId := primary.runId
  knownFalsePositiveId := knownId items

variable {items : List SanitizedAnomalyObservation}

theorem bucketCluster_eq (rt : Runtime) (boundedIdentityDigest : JsValue → JsString)
    (key : JsString) (hne : items ≠ []) :
    ∃ first last primary, (items.insertionSort (firstLe rt)).head? = some first ∧
      (items.insertionSort (lastLe rt)).head? = some last ∧
      (items.insertionSort (primaryLe rt)).head? = some primary ∧
      bucketCluster rt boundedIdentityDigest (key, items) =
        some (clusterWith rt boundedIdentityDigest key items first last primary) := by
  obtain ⟨first, hfirst⟩ := exists_head? (r := firstLe rt) hne
  obtain ⟨last, hlast⟩ := exists_head? (r := lastLe rt) hne
  obtain ⟨primary, hprimary⟩ := exists_head? (r := primaryLe rt) hne
  refine ⟨first, last, primary, hfirst, hlast, hprimary, ?_⟩
  simp only [bucketCluster, hfirst, hlast, hprimary, Option.bind_some, Option.map_some]
  rfl

variable {cluster : AnomalyCluster}

theorem mem_bucketClusters : cluster ∈ bucketClusters rt boundedIdentityDigest
        (observations.map (sanitizedOf boundedIdentityDigest)) ↔
      ∃ input ∈ observations, bucketCluster rt boundedIdentityDigest
        (keyOf boundedIdentityDigest input, membersOf boundedIdentityDigest observations
          (keyOf boundedIdentityDigest input)) = some cluster := by
  rw [bucketClusters, List.mem_filterMap]
  constructor
  · rintro ⟨⟨key, items⟩, hbucket, hcluster⟩
    obtain ⟨hne, rfl⟩ := mem_group.mp hbucket
    obtain ⟨item, hitem⟩ := List.exists_mem_of_ne_nil _ hne
    obtain ⟨input, hinput, rfl, -⟩ := mem_membersOf.mp hitem
    exact ⟨input, hinput, hcluster⟩
  · rintro ⟨input, hinput, hcluster⟩
    exact ⟨_, mem_group.mpr ⟨membersOf_ne_nil hinput, rfl⟩, hcluster⟩

theorem clusterKey_of_bucketCluster
    (h : bucketCluster rt boundedIdentityDigest (key, items) = some cluster) :
    cluster.clusterKey = key ∧ cluster.clusterId = clusterIdOf boundedIdentityDigest key := by
  simp only [bucketCluster, Option.bind_eq_some_iff, Option.map_eq_some_iff] at h
  obtain ⟨first, -, last, -, primary, -, rfl⟩ := h
  exact ⟨rfl, rfl⟩

theorem nodup_clusterKeys (sanitized : List SanitizedAnomalyObservation) :
    ((bucketClusters rt boundedIdentityDigest sanitized).map AnomalyCluster.clusterKey).Nodup := by
  have hkeys : ∀ buckets : List (JsString × List SanitizedAnomalyObservation),
      ((buckets.filterMap (bucketCluster rt boundedIdentityDigest)).map
        AnomalyCluster.clusterKey).Sublist (buckets.map Prod.fst) := by
    intro buckets
    induction buckets with
    | nil => exact List.Sublist.refl _
    | cons bucket rest ih =>
        cases hcluster : bucketCluster rt boundedIdentityDigest bucket with
        | none =>
            rw [List.filterMap_cons_none hcluster]
            exact ih.cons _
        | some cluster =>
            rw [List.filterMap_cons_some hcluster, List.map_cons, List.map_cons,
              (clusterKey_of_bucketCluster hcluster).1]
            exact ih.cons_cons _
  exact (hkeys _).nodup (nodup_group _)

variable (rt) in
theorem boundedClusters_eq (hvalid : Valid boundedIdentityDigest dateParse observations)
    (hmax : 1 ≤ maxOccurrences) :
    boundedClusters rt boundedIdentityDigest dateParse observations maxOccurrences =
      .ok (((bucketClusters rt boundedIdentityDigest (observations.map
        (sanitizedOf boundedIdentityDigest))).insertionSort (clusterIdLe rt)).map
          (suppressed maxOccurrences)) := by
  have hbound : decide (maxOccurrences < 1) = false := decide_eq_false (by omega)
  rw [boundedClusters, clusterAnomalies, sanitizeAll_eq hvalid]
  simp only [suppressDuplicateClusters, hbound]
  rfl

end Buckets

section Orders

variable {rt : Runtime} {boundedIdentityDigest : JsValue → JsString}
  {dateParse : JsString → Option ℤ} {observations observations' : List AnomalyObservation}
  {maxOccurrences : ℕ} {key : JsString} {items items' : List SanitizedAnomalyObservation}

theorem plain_of_isRunId {run : JsString} (h : isRunId run = true) :
    run.all isPlainChar = true := by
  have hchars := (upTo_iff.mp h).2.1
  rw [List.all_eq_true]
  intro c hc
  have hrun := hchars c hc
  simp only [Bool.or_eq_true, decide_eq_true_eq] at hrun
  rcases hrun with halpha | hmem
  · simp [isPlainChar, halpha]
  · have hplain : ∀ d ∈ "_.-".toList, isPlainChar d = true := by decide
    exact hplain c hmem

theorem Valid.runId (h : Valid boundedIdentityDigest dateParse observations)
    {item : SanitizedAnomalyObservation}
    (hitem : item ∈ membersOf boundedIdentityDigest observations key) :
    item.runId.all isPlainChar = true := by
  obtain ⟨input, hinput, -, rfl⟩ := mem_membersOf.mp hitem
  obtain ⟨sanitized, hsanitized⟩ := h input hinput
  exact plain_of_isRunId (sanitize_eq hsanitized).2.1

theorem Valid.perm (h : Valid boundedIdentityDigest dateParse observations)
    (hperm : observations.Perm observations') :
    Valid boundedIdentityDigest dateParse observations' :=
  fun input hinput => h input (hperm.mem_iff.mpr hinput)

theorem runIds_sorted (h : Ranks (localeOrder rt)) (items : List SanitizedAnomalyObservation) :
    ((items.insertionSort (orderedLe rt)).map fun item => item.runId).Pairwise
      fun s t => rt.localeLe s t = true := by
  rw [List.pairwise_map]
  exact ((orderedRanks h).sorted items).imp fun hle => hle.1

variable (rt) in
theorem runIds_perm (items : List SanitizedAnomalyObservation) :
    ((items.insertionSort (orderedLe rt)).map fun item => item.runId).Perm
      (items.map fun item => item.runId) := (List.perm_insertionSort _ items).map _

variable {a : SanitizedAnomalyObservation}

theorem runId_of_leads (h : Collates rt)
    (hplain : ∀ item ∈ items, item.runId.all isPlainChar = true)
    {b : SanitizedAnomalyObservation} (ha : Leads (primaryLe rt) items a)
    (hb : Leads (primaryLe rt) items b) : a.runId = b.runId := by
  have hab := ha.2 b hb.1
  have hba := hb.2 a ha.1
  have hflags := hab.2 hba.1
  have hflags' := hba.2 hab.1
  have hruns := hflags.2 hflags'.1
  have hruns' := hflags'.2 hflags.1
  exact h.apart _ _ (hplain a ha.1) (hplain b hb.1) hruns.1 hruns'.1

theorem leads_perm {r : SanitizedAnomalyObservation → SanitizedAnomalyObservation → Prop}
    (hperm : items.Perm items') (h : Leads r items' a) : Leads r items a :=
  ⟨hperm.mem_iff.mpr h.1, fun b hb => h.2 b (hperm.mem_iff.mp hb)⟩

theorem bucketCluster_perm (hcollates : Collates rt)
    (hplain : ∀ item ∈ items, item.runId.all isPlainChar = true)
    (hsame : ∀ a ∈ items, ∀ b ∈ items, a.fingerprint = b.fingerprint ∧ a.features = b.features)
    (hkept : Kept rt dateParse maxOccurrences items) (hne : items ≠ [])
    (hperm : items.Perm items') : bucketCluster rt boundedIdentityDigest (key, items) =
      bucketCluster rt boundedIdentityDigest (key, items') := by
  have hne' : items' ≠ [] := fun hnil => hne (hnil ▸ hperm).eq_nil
  obtain ⟨first, last, primary, hfirst, hlast, hprimary, hcluster⟩ :=
    bucketCluster_eq rt boundedIdentityDigest key hne
  obtain ⟨first', last', primary', hfirst', hlast', hprimary', hcluster'⟩ :=
    bucketCluster_eq rt boundedIdentityDigest key hne'
  have hranks := hcollates.toRanks
  have hlead := (primaryRanks hranks).leads_of_head? hprimary
  have hlead' := leads_perm hperm ((primaryRanks hranks).leads_of_head? hprimary')
  have hfirsts : first.observedAt = first'.observedAt :=
    hkept.firstText _ _ ((firstRanks hranks).leads_of_head? hfirst)
      (leads_perm hperm ((firstRanks hranks).leads_of_head? hfirst'))
  have hlasts : last.observedAt = last'.observedAt :=
    hkept.lastText _ _ ((lastRanks hranks).leads_of_head? hlast)
      (leads_perm hperm ((lastRanks hranks).leads_of_head? hlast'))
  have hruns : (items.insertionSort (orderedLe rt)).map (fun item => item.runId) =
      (items'.insertionSort (orderedLe rt)).map fun item => item.runId := by
    have hall : ∀ run ∈ items.map fun item => item.runId, run.all isPlainChar = true := by
      intro run hrun
      obtain ⟨item, hitem, rfl⟩ := List.mem_map.mp hrun
      exact hplain item hitem
    have hsorted := ((runIds_perm rt items).trans (hperm.map _)).trans
      (runIds_perm rt items').symm
    refine hsorted.eq_of_pairwise ?_ (runIds_sorted hranks items) (runIds_sorted hranks items')
    intro s t hs ht hst hts
    have hs' := (runIds_perm rt items).mem_iff.mp hs
    have ht' := (hperm.map fun item => item.runId).mem_iff.mpr ((runIds_perm rt items').mem_iff.mp ht)
    exact hcollates.apart s t (hall s hs') (hall t ht') hst hts
  have hknown : knownId items = knownId items' := by
    rw [knownId, knownId, sortedSet_congr fun s => (hperm.filterMap _).mem_iff]
  have htiming : timingVariance items = timingVariance items' := by
    rw [timingVariance, timingVariance, hperm.any_eq, hperm.any_eq]
  obtain ⟨hprint, hfeatures⟩ := hsame primary hlead.1 primary' hlead'.1
  rw [hcluster, hcluster', clusterWith, clusterWith, hprint, hfeatures, hfirsts, hlasts, hruns,
    hknown, htiming, runId_of_leads hcollates hplain hlead hlead', hperm.length_eq,
    hperm.countP_eq]

end Orders

section Soundness

variable {rt : Runtime} {boundedIdentityDigest : JsValue → JsString}
  {dateParse : JsString → Option ℤ} {observations observations' : List AnomalyObservation}
  {maxOccurrences : ℕ} {key : JsString}

theorem primary_mem_iff (h : Collates rt) {items : List SanitizedAnomalyObservation}
    (hplain : ∀ item ∈ items, item.runId.all isPlainChar = true)
    {primary : SanitizedAnomalyObservation} (hmem : primary ∈ items) :
    primary.runId ∈ ((items.insertionSort (orderedLe rt)).map fun item => item.runId).take
        maxOccurrences ↔
      items.countP (fun b => !rt.localeLe primary.runId b.runId) < maxOccurrences := by
  have hperm := runIds_perm rt items
  have hcount : ((items.insertionSort (orderedLe rt)).map fun item => item.runId).countP
      (fun s => !rt.localeLe primary.runId s) =
      items.countP fun b => !rt.localeLe primary.runId b.runId := by
    rw [hperm.countP_eq, List.countP_map]
    rfl
  rw [← hcount]
  refine mem_take_iff_countP (runIds_sorted h.toRanks items) (h.toRanks.refl primary.runId) ?_
    (hperm.mem_iff.mpr (List.mem_map_of_mem hmem))
  intro s hs hle hge
  obtain ⟨item, hitem, rfl⟩ := List.mem_map.mp (hperm.mem_iff.mp hs)
  exact h.apart _ _ (hplain item hitem) (hplain primary hmem) hle hge

variable {a b : SanitizedAnomalyObservation}

theorem NotAfter.congr {a' : SanitizedAnomalyObservation} (h : NotAfter dateParse a b)
    (heq : a.observedAt = a'.observedAt) : NotAfter dateParse a' b :=
  fun s t hs ht => h s t (heq ▸ hs) ht

theorem NotAfter.congr_right {b' : SanitizedAnomalyObservation} (h : NotAfter dateParse a b)
    (heq : b.observedAt = b'.observedAt) : NotAfter dateParse a b' :=
  fun s t hs ht => h s t hs (heq ▸ ht)

theorem exists_front (h : a ∈ membersOf boundedIdentityDigest observations key) :
    ∃ observations', observations.Perm observations' ∧ ∃ rest,
      membersOf boundedIdentityDigest observations' key = a :: rest := by
  obtain ⟨input, hinput, hkey, rfl⟩ := mem_membersOf.mp h
  refine ⟨input :: observations.erase input, List.perm_cons_erase hinput,
    membersOf boundedIdentityDigest (observations.erase input) key, ?_⟩
  exact List.filter_cons_of_pos (decide_eq_true hkey)

variable {result : List AnomalyCluster}

theorem mem_boundedClusters (hvalid : Valid boundedIdentityDigest dateParse observations)
    (hmax : 1 ≤ maxOccurrences)
    (hresult : boundedClusters rt boundedIdentityDigest dateParse observations maxOccurrences =
      .ok result) {cluster : AnomalyCluster} : cluster ∈ result ↔ ∃ input ∈ observations, ∃ whole,
      bucketCluster rt boundedIdentityDigest (keyOf boundedIdentityDigest input,
        membersOf boundedIdentityDigest observations (keyOf boundedIdentityDigest input)) =
          some whole ∧ suppressed maxOccurrences whole = cluster := by
  rw [boundedClusters_eq rt hvalid hmax] at hresult
  obtain rfl := Except.ok.inj hresult
  simp only [List.mem_map, List.mem_insertionSort, mem_bucketClusters]
  constructor
  · rintro ⟨whole, ⟨input, hinput, hwhole⟩, rfl⟩
    exact ⟨input, hinput, whole, hwhole, rfl⟩
  · rintro ⟨input, hinput, whole, hwhole, rfl⟩
    exact ⟨whole, ⟨input, hinput, hwhole⟩, rfl⟩

variable {input : AnomalyObservation} {whole : AnomalyCluster}

section

variable (hvalid : Valid boundedIdentityDigest dateParse observations) (hmax : 1 ≤ maxOccurrences)
  (hresult : boundedClusters rt boundedIdentityDigest dateParse observations maxOccurrences =
    .ok result)
  (hpermuted : ∀ observations', observations.Perm observations' →
    boundedClusters rt boundedIdentityDigest dateParse observations' maxOccurrences =
      boundedClusters rt boundedIdentityDigest dateParse observations maxOccurrences)
  (hinput : input ∈ observations)
  (hwhole : bucketCluster rt boundedIdentityDigest (keyOf boundedIdentityDigest input,
    membersOf boundedIdentityDigest observations (keyOf boundedIdentityDigest input)) = some whole)

include hvalid hmax hresult hpermuted hinput hwhole

theorem exists_front_bucket
    (ha : a ∈ membersOf boundedIdentityDigest observations (keyOf boundedIdentityDigest input)) :
    ∃ rest, (membersOf boundedIdentityDigest observations
        (keyOf boundedIdentityDigest input)).Perm (a :: rest) ∧
      ∃ other, bucketCluster rt boundedIdentityDigest (keyOf boundedIdentityDigest input,
        a :: rest) = some other ∧ other.firstObserved = whole.firstObserved ∧
          other.lastObserved = whole.lastObserved := by
  obtain ⟨observations', hperm, rest, hmembers⟩ := exists_front ha
  have hresult' := (hpermuted observations' hperm).trans hresult
  have hmem := (mem_boundedClusters hvalid hmax hresult).mpr ⟨input, hinput, whole, hwhole, rfl⟩
  obtain ⟨input', hinput', other, hother, heq⟩ :=
    (mem_boundedClusters (hvalid.perm hperm) hmax hresult').mp hmem
  have hkey : keyOf boundedIdentityDigest input' = keyOf boundedIdentityDigest input := by
    rw [← (clusterKey_of_bucketCluster hother).1, ← (clusterKey_of_bucketCluster hwhole).1]
    show (suppressed maxOccurrences other).clusterKey = (suppressed maxOccurrences whole).clusterKey
    rw [heq]
  rw [hkey, hmembers] at hother
  refine ⟨rest, ?_, other, hother, ?_, ?_⟩
  · rw [← hmembers]
    exact membersOf_perm hperm
  · show (suppressed maxOccurrences other).firstObserved =
      (suppressed maxOccurrences whole).firstObserved
    rw [heq]
  · show (suppressed maxOccurrences other).lastObserved =
      (suppressed maxOccurrences whole).lastObserved
    rw [heq]

theorem ends_of_sound :
    (Leads (firstLe rt) (membersOf boundedIdentityDigest observations
        (keyOf boundedIdentityDigest input)) a → a.observedAt = whole.firstObserved) ∧
      (Leads (lastLe rt) (membersOf boundedIdentityDigest observations
        (keyOf boundedIdentityDigest input)) a → a.observedAt = whole.lastObserved) := by
  constructor
  · intro hlead
    obtain ⟨rest, hperm, other, hother, hfirst, -⟩ :=
      exists_front_bucket hvalid hmax hresult hpermuted hinput hwhole hlead.1
    obtain ⟨first, last, primary, hhead, -, -, hcluster⟩ :=
      bucketCluster_eq rt boundedIdentityDigest (keyOf boundedIdentityDigest input)
        (List.cons_ne_nil a rest)
    rw [hcluster, Option.some.injEq] at hother
    rw [head?_insertionSort_cons (leads_perm hperm.symm hlead).2, Option.some.injEq] at hhead
    rw [← hfirst, ← hother, hhead]
    rfl
  · intro hlead
    obtain ⟨rest, hperm, other, hother, -, hlast⟩ :=
      exists_front_bucket hvalid hmax hresult hpermuted hinput hwhole hlead.1
    obtain ⟨first, last, primary, -, hhead, -, hcluster⟩ :=
      bucketCluster_eq rt boundedIdentityDigest (keyOf boundedIdentityDigest input)
        (List.cons_ne_nil a rest)
    rw [hcluster, Option.some.injEq] at hother
    rw [head?_insertionSort_cons (leads_perm hperm.symm hlead).2, Option.some.injEq] at hhead
    rw [← hlast, ← hother, hhead]
    rfl

end

theorem kept_of_sound (hcollates : Collates rt)
    (hvalid : Valid boundedIdentityDigest dateParse observations) (hmax : 1 ≤ maxOccurrences)
    (hsound : Sound rt boundedIdentityDigest dateParse observations maxOccurrences)
    (hinput : input ∈ observations) :
    Kept rt dateParse maxOccurrences (membersOf boundedIdentityDigest observations
      (keyOf boundedIdentityDigest input)) := by
  obtain ⟨⟨result, hresult, hfaithful⟩, hpermuted⟩ := hsound
  have hplain : ∀ item ∈ membersOf boundedIdentityDigest observations
      (keyOf boundedIdentityDigest input), item.runId.all isPlainChar = true :=
    fun item hitem => hvalid.runId hitem
  obtain ⟨first, last, primary, hfirst, hlast, hprimary, hcluster⟩ :=
    bucketCluster_eq rt boundedIdentityDigest (keyOf boundedIdentityDigest input)
      (membersOf_ne_nil hinput)
  have hends := fun a => ends_of_sound hvalid hmax hresult hpermuted hinput hcluster
    (a := a)
  have hmem := (mem_boundedClusters hvalid hmax hresult).mpr
    ⟨input, hinput, _, hcluster, rfl⟩
  obtain ⟨hreproductions, -, hrun, ⟨early, -, hearly, hfirsts⟩, late, -, hlate, hlasts⟩ :=
    hfaithful _ hmem
  have hlead := (primaryRanks hcollates.toRanks).leads_of_head? hprimary
  have hbefore := (primary_mem_iff hcollates hplain hlead.1).mp hrun
  refine ⟨hreproductions.trans (min_le_right _ _), ?_, ?_, ?_, ?_, ?_⟩
  · intro a ha
    rw [runId_of_leads hcollates hplain ha hlead]
    exact hbefore
  · intro a ha b hb
    exact (hfirsts b hb).congr (hearly.trans ((hends a).1 ha).symm)
  · intro a ha b hb
    exact (hlasts b hb).congr_right (hlate.trans ((hends a).2 ha).symm)
  · intro a b ha hb
    exact ((hends a).1 ha).trans ((hends b).1 hb).symm
  · intro a b ha hb
    exact ((hends a).2 ha).trans ((hends b).2 hb).symm

theorem faithful_of_kept (hcollates : Collates rt)
    (hvalid : Valid boundedIdentityDigest dateParse observations) (hinput : input ∈ observations)
    (hkept : Kept rt dateParse maxOccurrences (membersOf boundedIdentityDigest observations
      (keyOf boundedIdentityDigest input)))
    (hwhole : bucketCluster rt boundedIdentityDigest (keyOf boundedIdentityDigest input,
      membersOf boundedIdentityDigest observations (keyOf boundedIdentityDigest input)) =
        some whole) :
    Faithful boundedIdentityDigest dateParse observations (suppressed maxOccurrences whole) := by
  obtain ⟨first, last, primary, hfirst, hlast, hprimary, hcluster⟩ :=
    bucketCluster_eq rt boundedIdentityDigest (keyOf boundedIdentityDigest input)
      (membersOf_ne_nil hinput)
  rw [hcluster] at hwhole
  obtain rfl := Option.some.inj hwhole
  have hranks := hcollates.toRanks
  have hleadFirst := (firstRanks hranks).leads_of_head? hfirst
  have hleadLast := (lastRanks hranks).leads_of_head? hlast
  have hlead := (primaryRanks hranks).leads_of_head? hprimary
  refine ⟨?_, ?_, ?_, ?_, ?_⟩
  · exact le_min List.countP_le_length hkept.reproductions
  · simp [suppressed, clusterWith, min_comm]
  · exact (primary_mem_iff hcollates (fun item hitem => hvalid.runId hitem) hlead.1).mpr
      (hkept.primary primary hlead)
  · exact ⟨first, hleadFirst.1, rfl, hkept.first first hleadFirst⟩
  · exact ⟨last, hleadLast.1, rfl, hkept.last last hleadLast⟩

theorem clusterId_plain (hdigests : Digests boundedIdentityDigest observations) (key : JsString) :
    (clusterIdOf boundedIdentityDigest key).all isPlainChar = true := by
  have htag : ∀ c ∈ "cluster:sha256:".toList, isPlainChar c = true := by decide +kernel
  rw [List.all_eq_true]
  intro c hc
  rcases List.mem_append.mp hc with hc | hc
  · exact htag c hc
  · rw [isPlainChar, hdigests.hex _ c hc, Bool.true_or]

theorem boundedClusters_perm (hcollates : Collates rt)
    (hdigests : Digests boundedIdentityDigest observations)
    (hvalid : Valid boundedIdentityDigest dateParse observations) (hmax : 1 ≤ maxOccurrences)
    (hkept : ∀ input ∈ observations, Kept rt dateParse maxOccurrences
      (membersOf boundedIdentityDigest observations (keyOf boundedIdentityDigest input)))
    (hperm : observations.Perm observations') :
    boundedClusters rt boundedIdentityDigest dateParse observations' maxOccurrences =
      boundedClusters rt boundedIdentityDigest dateParse observations maxOccurrences := by
  have hbucket : ∀ input ∈ observations, bucketCluster rt boundedIdentityDigest
      (keyOf boundedIdentityDigest input, membersOf boundedIdentityDigest observations
        (keyOf boundedIdentityDigest input)) =
      bucketCluster rt boundedIdentityDigest (keyOf boundedIdentityDigest input,
        membersOf boundedIdentityDigest observations' (keyOf boundedIdentityDigest input)) := by
    intro input hinput
    refine bucketCluster_perm hcollates (fun item hitem => hvalid.runId hitem) ?_
      (hkept input hinput) (membersOf_ne_nil hinput) (membersOf_perm hperm)
    intro a ha b hb
    obtain ⟨inputA, hinputA, hkeyA, rfl⟩ := mem_membersOf.mp ha
    obtain ⟨inputB, hinputB, hkeyB, rfl⟩ := mem_membersOf.mp hb
    exact hdigests.same_of_key hinputA hinputB (hkeyA.trans hkeyB.symm)
  have hclusters : (bucketClusters rt boundedIdentityDigest (observations'.map
      (sanitizedOf boundedIdentityDigest))).Perm (bucketClusters rt boundedIdentityDigest
        (observations.map (sanitizedOf boundedIdentityDigest))) := by
    refine (List.perm_ext_iff_of_nodup (nodup_clusterKeys _).of_map
      (nodup_clusterKeys _).of_map).mpr fun cluster => ?_
    rw [mem_bucketClusters, mem_bucketClusters]
    constructor
    · rintro ⟨input, hinput, hcluster⟩
      have hmem := hperm.mem_iff.mpr hinput
      exact ⟨input, hmem, (hbucket input hmem).trans hcluster⟩
    · rintro ⟨input, hinput, hcluster⟩
      exact ⟨input, hperm.mem_iff.mp hinput, (hbucket input hinput).symm.trans hcluster⟩
  have hsorted := insertionSort_perm (r := clusterIdLe rt)
    (fun a b => hcollates.total a.clusterId b.clusterId)
    (fun a b c => hcollates.trans a.clusterId b.clusterId c.clusterId) ?_ hclusters.symm
  · rw [boundedClusters_eq rt hvalid hmax, boundedClusters_eq rt (hvalid.perm hperm) hmax, hsorted]
  · intro a b ha hb hab hba
    obtain ⟨inputA, hinputA, hbucketA⟩ := mem_bucketClusters.mp ha
    obtain ⟨inputB, hinputB, hbucketB⟩ := mem_bucketClusters.mp hb
    have hidA := (clusterKey_of_bucketCluster hbucketA).2
    have hidB := (clusterKey_of_bucketCluster hbucketB).2
    have hid : a.clusterId = b.clusterId := by
      refine hcollates.apart _ _ ?_ ?_ hab hba
      · rw [hidA]
        exact clusterId_plain hdigests _
      · rw [hidB]
        exact clusterId_plain hdigests _
    have hkey := hdigests.key_of_id hinputA hinputB (hidA.symm.trans (hid.trans hidB))
    rw [hkey, hbucketB] at hbucketA
    exact (Option.some.inj hbucketA).symm

/-- The clusters of valid observations are sound exactly where the bound and the texts of the
times keep what they say. -/
theorem sound_iff_kept (hcollates : Collates rt)
    (hdigests : Digests boundedIdentityDigest observations)
    (hvalid : Valid boundedIdentityDigest dateParse observations) (hmax : 1 ≤ maxOccurrences) :
    Sound rt boundedIdentityDigest dateParse observations maxOccurrences ↔
      ∀ input ∈ observations, Kept rt dateParse maxOccurrences
        (membersOf boundedIdentityDigest observations (keyOf boundedIdentityDigest input)) := by
  constructor
  · intro hsound input hinput
    exact kept_of_sound hcollates hvalid hmax hsound hinput
  · intro hkept
    have hresult := boundedClusters_eq rt hvalid hmax
    refine ⟨⟨_, hresult, fun cluster hcluster => ?_⟩,
      fun observations' hperm => boundedClusters_perm hcollates hdigests hvalid hmax hkept hperm⟩
    obtain ⟨input, hinput, whole, hwhole, rfl⟩ :=
      (mem_boundedClusters hvalid hmax hresult).mp hcluster
    exact faithful_of_kept hcollates hvalid hinput (hkept input hinput) hwhole

theorem collates_plainRuntime : Collates plainRuntime where
  total s t := (le_total s t).imp decide_eq_true decide_eq_true
  trans _ _ _ hst htu := decide_eq_true (le_trans (of_decide_eq_true hst) (of_decide_eq_true htu))
  apart _ _ _ _ hst hts := le_antisymm (of_decide_eq_true hst) (of_decide_eq_true hts)

def countingDigest : JsValue → JsString
  | .obj fields => List.replicate 24 (if fields.length = 4 then 'a' else 'b')
  | _ => []

theorem countingDigest_payloadOf (input : AnomalyObservation) :
    countingDigest (payloadOf input) = List.replicate 24 'a' := rfl

theorem countingDigest_idPayload (key : JsString) :
    countingDigest (idPayload key) = List.replicate 24 'b' := rfl

def newYear : JsString := "2026-01-01T00:00:00.000Z".toList

def dayAfter : JsString := "2026-01-02T00:00:00.000Z".toList

/-- `Date.parse` on the two times. -/
def twoDates (s : JsString) : Option ℤ :=
  if s = newYear then some 1767225600000
  else if s = dayAfter then some 1767312000000
  else none

def reproducedIn (run : String) (time : JsString) : AnomalyObservation where
  runId := run.toList
  observedAt := time
  fingerprint := "fp:sha256:0123456789ab".toList
  features := ⟨none, none, "oracle".toList, none, none, none, none, none, none, none, none, none⟩
  timingClass := none
  reproduced := true
  minimized := false
  knownFalsePositiveId := none

theorem payloadOf_reproducedIn (run run' : String) (time time' : JsString) :
    payloadOf (reproducedIn run time) = payloadOf (reproducedIn run' time') := rfl

def reproducedTwice : List AnomalyObservation :=
  [reproducedIn "run-a" newYear, reproducedIn "run-b" dayAfter]

theorem digests_reproducedTwice : Digests countingDigest reproducedTwice := by
  constructor
  · intro payload c hc
    cases payload with
    | obj fields =>
        obtain rfl := List.eq_of_mem_replicate hc
        split <;> rfl
    | _ => contradiction
  · rintro payload ⟨input, hinput, hpayload⟩ payload' ⟨input', hinput', hpayload'⟩ heq
    have hkeys : keyOf countingDigest input = keyOf countingDigest input' := by
      show _ ++ countingDigest (payloadOf input) = _ ++ countingDigest (payloadOf input')
      rw [countingDigest_payloadOf, countingDigest_payloadOf]
    have hpayloads : payloadOf input = payloadOf input' := by
      simp only [reproducedTwice, List.mem_cons, List.not_mem_nil, or_false] at hinput hinput'
      rcases hinput with rfl | rfl <;> rcases hinput' with rfl | rfl <;>
        exact payloadOf_reproducedIn _ _ _ _
    rcases hpayload with rfl | rfl <;> rcases hpayload' with rfl | rfl
    · exact hpayloads
    · rw [countingDigest_payloadOf, countingDigest_idPayload] at heq
      exact absurd heq (by decide)
    · rw [countingDigest_payloadOf, countingDigest_idPayload] at heq
      exact absurd heq (by decide)
    · rw [hkeys]

theorem valid_reproducedTwice : Valid countingDigest twoDates reproducedTwice := by
  intro input hinput
  have hall : ∀ input ∈ reproducedTwice,
      (sanitizeAnomalyObservation countingDigest twoDates input).isOk = true := by
    decide +kernel
  cases hsanitized : sanitizeAnomalyObservation countingDigest twoDates input with
  | ok sanitized => exact ⟨sanitized, rfl⟩
  | error message =>
      have hok := hall input hinput
      rw [hsanitized] at hok
      contradiction

theorem sound_iff_kept_reproducedTwice :
    Sound plainRuntime countingDigest twoDates reproducedTwice 2 ↔
      ∀ input ∈ reproducedTwice, Kept plainRuntime twoDates 2
        (membersOf countingDigest reproducedTwice (keyOf countingDigest input)) :=
  sound_iff_kept collates_plainRuntime digests_reproducedTwice valid_reproducedTwice (by decide)

/-- Cut to one occurrence, the cluster still counts two reproductions. -/
theorem reproductions_exceed_bound : Valid countingDigest twoDates reproducedTwice ∧
      ¬ Sound plainRuntime countingDigest twoDates reproducedTwice 1 := by
  refine ⟨valid_reproducedTwice, fun hsound => ?_⟩
  obtain ⟨result, hresult, hfaithful⟩ := hsound.clusters
  have hrun : ∃ cluster,
      boundedClusters plainRuntime countingDigest twoDates reproducedTwice 1 = .ok [cluster] ∧
        cluster.reproductionCount = 2 ∧ cluster.occurrenceCount = 1 := ⟨_, rfl, rfl, rfl⟩
  obtain ⟨cluster, hcluster, hreproductions, hoccurrences⟩ := hrun
  rw [hcluster, Except.ok.injEq] at hresult
  have hle := (hfaithful cluster (hresult ▸ List.mem_singleton_self cluster)).reproductions
  omega

end Soundness

end NightWatch.Triage.ClusterInvariants
