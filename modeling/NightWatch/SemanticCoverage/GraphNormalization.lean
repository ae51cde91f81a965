import NightWatch.CampaignIntelligence.MinimizationV2
import NightWatch.Lib.Grouping
import NightWatch.Lib.TextOrder
import NightWatch.Triage.ReplayPlan

/-!
Duplicates in the graph of contracts, and the normalisation that merges those of them for which an
equivalence is proven. Version tags are left out.
-/

namespace NightWatch.SemanticCoverage.GraphNormalization

open Lib.JsText Lib.Guard Lib.Grouping Lib.TextOrder Triage.ReplayPlan
open CampaignIntelligence.MinimizationV2 (isSafeId)
open Relation

theorem leads_iff_ranked {α : Type} {r : α → α → Prop} {p : α → Prop} :
    (∀ a, ∃ root, ReflTransGen r a root ∧ p root) ↔
      ∃ rank : α → ℕ, ∀ a, ¬ p a → ∃ b, r a b ∧ rank b < rank a := by
  constructor
  · intro h
    let Within (n : ℕ) : α → Prop :=
      Nat.rec p (fun _ within a => ∃ b, r a b ∧ within b) n
    have hwithin : ∀ a, ∃ n, Within n a := by
      intro a
      obtain ⟨root, hchain, hroot⟩ := h a
      induction hchain using ReflTransGen.head_induction_on with
      | refl => exact ⟨0, hroot⟩
      | head hab _ ih =>
          obtain ⟨n, hn⟩ := ih
          exact ⟨n + 1, _, hab, hn⟩
    refine ⟨fun a => sInf {n | Within n a}, fun a ha => ?_⟩
    have hleast : Within (sInf {n | Within n a}) a := Nat.sInf_mem (hwithin a)
    rcases hn : sInf {n | Within n a} with _ | n
    · rw [hn] at hleast
      exact absurd hleast ha
    · rw [hn] at hleast
      obtain ⟨b, hab, hb⟩ := hleast
      refine ⟨b, hab, ?_⟩
      change sInf {n | Within n b} < sInf {n | Within n a}
      rw [hn]
      exact Nat.lt_succ_of_le (Nat.sInf_le hb)
  · rintro ⟨rank, h⟩ a
    induction hn : rank a using Nat.strong_induction_on generalizing a with
    | _ n ih =>
        by_cases ha : p a
        · exact ⟨a, .refl, ha⟩
        · obtain ⟨b, hab, hlt⟩ := h a ha
          obtain ⟨root, hchain, hroot⟩ := ih _ (hn ▸ hlt) b rfl
          exact ⟨root, .head hab hchain, hroot⟩

inductive GapClass where
  | notAdmitted
  | notProjectable
  | unexercised
  | replayGap
  | minimizationGap
  | staleSource
  | orphanedExpectation
  | singleSurface
  | differentialEligible
  | highImpactUncovered
  | duplicateCoverage
  deriving DecidableEq

structure ContractGraphGap where
  contractId : JsString
  gap : GapClass
  priorityComponent : ℕ
  reasonCode : JsString
  deriving DecidableEq

structure ContractCandidate (Shape : Type) where
  candidateId : JsString
  shape : Option Shape
  evidenceDigest : JsString

/-- The nodes, the edges and the counts, which normalisation passes on, are one part here. -/
structure ContractGraph (Body : Type) where
  body : Body
  gaps : List ContractGraphGap
  deterministicDigest : JsString

structure GraphDuplicateEquivalenceProof where
  primaryContractId : JsString
  duplicateContractId : JsString
  sourceEvidenceDigest : JsString
  mechanicallyProven : Bool

structure ContractGraphNormalization (Body : Type) where
  graph : ContractGraph Body
  mergedDuplicateContractIds : List JsString
  unresolvedDuplicateContractIds : List JsString
  deterministicDigest : JsString

-- `JSON.stringify` of a shape.
variable {Shape Body : Type} (shapeText : Option Shape → JsString)

/-- What `buildContractGraph` adds to the gaps for duplicates: all but the first contract of each
shape, the candidates being in the order of their identifiers. -/
def duplicateGaps (candidates : List (ContractCandidate Shape)) : List ContractGraphGap :=
  (group (fun candidate => shapeText candidate.shape)
    (candidates.filter fun candidate => candidate.shape.isSome)).flatMap fun entry =>
      ((entry.2.map fun candidate => candidate.candidateId).insertionSort textLe).tail.map fun id =>
        { contractId := id, gap := .duplicateCoverage, priorityComponent := 1,
          reasonCode := "DUPLICATE_SEMANTIC_SHAPE".toList }

def invalid (reason : String) : JsString := ("SEMANTIC_GRAPH_INVALID:" ++ reason).toList

/-- No safe identifier has the blanks that a key header needs. -/
def safeId (value : JsString) (label : String) : Except JsString Unit := do
  failIf (!isSafeId value) (invalid (label ++ "_ID"))
  failIf (hasSentinel value) (invalid (label ++ "_PRIVACY"))

/-- `candidates.get(id)`: of two candidates with one identifier the later one counts. -/
def candidateOf (candidates : List (ContractCandidate Shape)) (id : JsString) :
    Option (ContractCandidate Shape) :=
  candidates.reverse.find? fun candidate => candidate.candidateId = id

def duplicateIds (graph : ContractGraph Body) : List JsString :=
  (graph.gaps.filter fun gap => gap.gap = .duplicateCoverage).map fun gap => gap.contractId

/-- Both contracts are known and of one shape, and the evidence is that of one of them. -/
def joins (candidates : List (ContractCandidate Shape)) (proof : GraphDuplicateEquivalenceProof) :
    Bool :=
  match candidateOf candidates proof.primaryContractId,
      candidateOf candidates proof.duplicateContractId with
  | some primary, some duplicate =>
      decide (shapeText primary.shape = shapeText duplicate.shape ∧
        (proof.sourceEvidenceDigest = primary.evidenceDigest ∨
          proof.sourceEvidenceDigest = duplicate.evidenceDigest))
  | _, _ => false

def checkProof (graph : ContractGraph Body) (candidates : List (ContractCandidate Shape))
    (proof : GraphDuplicateEquivalenceProof) : Except JsString Unit := do
  safeId proof.primaryContractId "PRIMARY"
  safeId proof.duplicateContractId "DUPLICATE"
  failIf (decide (proof.duplicateContractId ∉ duplicateIds graph ∨
    proof.primaryContractId = proof.duplicateContractId ∨ proof.mechanicallyProven = false))
    (invalid "DUPLICATE_PROOF")
  failIf (!(isEvidenceDigest proof.sourceEvidenceDigest ||
    isTagged "contract-candidate:sha256:" 24 proof.sourceEvidenceDigest))
    (invalid "DUPLICATE_EVIDENCE")
  failIf (!joins shapeText candidates proof) (invalid "DUPLICATE_SHAPE_MISMATCH")

-- The digests of a graph and of a normalisation.
variable (graphIdentity : Body → List ContractGraphGap → JsString)
  (safeSemanticDigest : ContractGraph Body → List JsString → List JsString → JsString)

def normalizeContractGraph (graph : ContractGraph Body)
    (candidates : List (ContractCandidate Shape))
    (equivalences : List GraphDuplicateEquivalenceProof) :
    Except JsString (ContractGraphNormalization Body) := do
  forEach (checkProof shapeText graph candidates) equivalences
  let merged := equivalences.map fun proof => proof.duplicateContractId
  let gaps := graph.gaps.filter fun gap => !(gap.gap = .duplicateCoverage ∧ gap.contractId ∈ merged)
  let normalized :=
    { body := graph.body, gaps, deterministicDigest := graphIdentity graph.body gaps }
  let mergedIds := sortedSet merged
  let unresolvedIds := sortedSet ((duplicateIds graph).filter fun id => id ∉ merged)
  return {
    graph := normalized
    mergedDuplicateContractIds := mergedIds
    unresolvedDuplicateContractIds := unresolvedIds
    deterministicDigest := safeSemanticDigest normalized mergedIds unresolvedIds }

/-- An accepted proof joins a duplicate to its primary contract. -/
def Proves (equivalences : List GraphDuplicateEquivalenceProof) (duplicate primary : JsString) :
    Prop :=
  ∃ proof ∈ equivalences, proof.duplicateContractId = duplicate ∧ proof.primaryContractId = primary

def SameShape (candidates : List (ContractCandidate Shape)) (a b : JsString) : Prop :=
  ∃ x ∈ candidateOf candidates a, ∃ y ∈ candidateOf candidates b,
    shapeText x.shape = shapeText y.shape

/-- What normalisation is to leave of a graph. -/
structure Conserves (graph : ContractGraph Body) (candidates : List (ContractCandidate Shape))
    (equivalences : List GraphDuplicateEquivalenceProof)
    (result : ContractGraphNormalization Body) : Prop where
  represented : ∀ id ∈ result.mergedDuplicateContractIds, ∃ root,
    ReflTransGen (Proves equivalences) id root ∧ root ∉ result.mergedDuplicateContractIds ∧
      SameShape shapeText candidates id root
  partition : (result.mergedDuplicateContractIds ++ result.unresolvedDuplicateContractIds).Perm
    (duplicateIds graph).dedup
  kept : ∀ gap, ¬ (gap.gap = .duplicateCoverage ∧
      gap.contractId ∈ result.mergedDuplicateContractIds) →
    result.graph.gaps.count gap = graph.gaps.count gap

/-- Each merged contract has a proof such that these proofs run in no circle. -/
def Ranked (equivalences : List GraphDuplicateEquivalenceProof) : Prop :=
  ∃ rank : JsString → ℕ, ∀ proof ∈ equivalences, ∃ chosen ∈ equivalences,
    chosen.duplicateContractId = proof.duplicateContractId ∧
      rank chosen.primaryContractId < rank proof.duplicateContractId

section Runs

variable {shapeText} {graphIdentity} {safeSemanticDigest} {graph : ContractGraph Body}
  {candidates : List (ContractCandidate Shape)}
  {equivalences : List GraphDuplicateEquivalenceProof}

theorem checkProof_eq_ok {proof : GraphDuplicateEquivalenceProof}
    (h : checkProof shapeText graph candidates proof = .ok ()) :
    proof.duplicateContractId ∈ duplicateIds graph ∧
      SameShape shapeText candidates proof.duplicateContractId proof.primaryContractId := by
  rw [checkProof] at h
  obtain ⟨_, -, h⟩ := bind_eq_ok.mp h
  obtain ⟨_, -, h⟩ := bind_eq_ok.mp h
  obtain ⟨_, hproof, h⟩ := bind_eq_ok.mp h
  obtain ⟨_, -, hjoins⟩ := bind_eq_ok.mp h
  have hduplicate := failIf_eq_ok.mp hproof
  have hjoined : joins shapeText candidates proof = true := by simpa using failIf_eq_ok.mp hjoins
  rw [decide_eq_false_iff_not, not_or, not_not] at hduplicate
  refine ⟨hduplicate.1, ?_⟩
  rw [joins] at hjoined
  split at hjoined
  · rename_i primary duplicate hp hd
    exact ⟨duplicate, hd, primary, hp, (of_decide_eq_true hjoined).1.symm⟩
  · contradiction

theorem sameShape_trans {a b c : JsString} (hab : SameShape shapeText candidates a b)
    (hbc : SameShape shapeText candidates b c) : SameShape shapeText candidates a c := by
  obtain ⟨x, hx, y, hy, hxy⟩ := hab
  obtain ⟨y', hy', z, hz, hyz⟩ := hbc
  obtain rfl : y = y' := Option.some.inj (hy.symm.trans hy')
  exact ⟨x, hx, z, hz, hxy.trans hyz⟩

theorem sameShape_of_chain (hchecked : ∀ proof ∈ equivalences,
      checkProof shapeText graph candidates proof = .ok ()) {a root : JsString}
    (h : ReflTransGen (Proves equivalences) a root)
    (ha : a ∈ equivalences.map fun proof => proof.duplicateContractId) :
    SameShape shapeText candidates a root := by
  induction h with
  | refl =>
      obtain ⟨proof, hproof, rfl⟩ := List.mem_map.mp ha
      obtain ⟨x, hx, -⟩ := (checkProof_eq_ok (hchecked proof hproof)).2
      exact ⟨x, hx, x, hx, rfl⟩
  | tail _ hstep ih =>
      obtain ⟨proof, hproof, rfl, rfl⟩ := hstep
      exact sameShape_trans ih (checkProof_eq_ok (hchecked proof hproof)).2

theorem ranked_iff : Ranked equivalences ↔
    ∀ id, ∃ root, ReflTransGen (Proves equivalences) id root ∧
      root ∉ equivalences.map fun proof => proof.duplicateContractId := by
  rw [leads_iff_ranked]
  refine exists_congr fun rank => ?_
  constructor
  · intro h id hid
    obtain ⟨proof, hproof, rfl⟩ := List.mem_map.mp (not_not.mp hid)
    obtain ⟨chosen, hchosen, heq, hlt⟩ := h proof hproof
    exact ⟨_, ⟨chosen, hchosen, heq, rfl⟩, hlt⟩
  · intro h proof hproof
    obtain ⟨_, ⟨chosen, hchosen, heq, rfl⟩, hlt⟩ :=
      h proof.duplicateContractId (not_not.mpr (List.mem_map_of_mem hproof))
    exact ⟨chosen, hchosen, heq, hlt⟩

theorem normalization_conserves_iff {result : ContractGraphNormalization Body}
    (h : normalizeContractGraph shapeText graphIdentity safeSemanticDigest graph candidates
      equivalences = .ok result) :
    Conserves shapeText graph candidates equivalences result ↔ Ranked equivalences := by
  obtain ⟨_, hchecks, hresult⟩ := bind_eq_ok.mp h
  have hchecked := forEach_eq_ok.mp hchecks
  obtain rfl := Except.ok.inj hresult
  have hduplicate : ∀ id ∈ equivalences.map fun proof => proof.duplicateContractId,
      id ∈ duplicateIds graph := by
    intro id hid
    obtain ⟨proof, hproof, rfl⟩ := List.mem_map.mp hid
    exact (checkProof_eq_ok (hchecked proof hproof)).1
  rw [ranked_iff]
  constructor
  · intro hconserves id
    by_cases hid : id ∈ equivalences.map fun proof => proof.duplicateContractId
    · obtain ⟨root, hchain, hroot, -⟩ := hconserves.represented id (mem_sortedSet.mpr hid)
      exact ⟨root, hchain, fun hmem => hroot (mem_sortedSet.mpr hmem)⟩
    · exact ⟨id, .refl, hid⟩
  · intro hleads
    refine ⟨?_, ?_, ?_⟩
    · intro id hid
      obtain ⟨root, hchain, hroot⟩ := hleads id
      exact ⟨root, hchain, fun hmem => hroot (mem_sortedSet.mp hmem),
        sameShape_of_chain hchecked hchain (mem_sortedSet.mp hid)⟩
    · refine (List.perm_ext_iff_of_nodup ?_ (List.nodup_dedup _)).mpr ?_
      · refine nodup_sortedSet.append nodup_sortedSet ?_
        intro id hmerged hunresolved
        have hfree := (List.mem_filter.mp (mem_sortedSet.mp hunresolved)).2
        exact of_decide_eq_true hfree (mem_sortedSet.mp hmerged)
      · intro id
        rw [List.mem_append, mem_sortedSet, mem_sortedSet, List.mem_filter, List.mem_dedup,
          decide_eq_true_eq]
        constructor
        · rintro (hid | ⟨hid, -⟩)
          · exact hduplicate id hid
          · exact hid
        · intro hid
          by_cases hmerged : id ∈ equivalences.map fun proof => proof.duplicateContractId
          · exact .inl hmerged
          · exact .inr ⟨hid, hmerged⟩
    · intro gap hgap
      refine List.count_filter ?_
      rw [mem_sortedSet, not_and_or] at hgap
      simpa using hgap

end Runs

def sampleText : Option String → JsString
  | some shape => '"' :: (shape.toList ++ ['"'])
  | none => "null".toList

def sampleDigest : JsString := "ev:sha256:".toList ++ List.replicate 24 '0'

def sampleCandidates : List (ContractCandidate String) :=
  ["a", "b", "c"].map fun id =>
    { candidateId := id.toList, shape := some "object", evidenceDigest := sampleDigest }

def sampleGraph : ContractGraph Unit where
  body := ()
  gaps := (sampleCandidates.map fun candidate =>
      { contractId := candidate.candidateId, gap := .notAdmitted, priorityComponent := 6,
        reasonCode := "MECHANICALLY_PROVABLE_NOT_ADMITTED".toList }) ++
    duplicateGaps sampleText sampleCandidates
  deterministicDigest := []

def sampleProof (duplicate primary : String) : GraphDuplicateEquivalenceProof where
  primaryContractId := primary.toList
  duplicateContractId := duplicate.toList
  sourceEvidenceDigest := sampleDigest
  mechanicallyProven := true

def sampleRun (equivalences : List GraphDuplicateEquivalenceProof) :
    Except JsString (ContractGraphNormalization Unit) :=
  normalizeContractGraph sampleText (fun _ _ => []) (fun _ _ _ => []) sampleGraph sampleCandidates
    equivalences

theorem normalization_conserves_iff_sample :
    ∃ result, sampleRun [sampleProof "b" "a"] = .ok result ∧
      (Conserves sampleText sampleGraph sampleCandidates [sampleProof "b" "a"] result ↔
        Ranked [sampleProof "b" "a"]) := by
  have h : sampleRun [sampleProof "b" "a"] = .ok _ := rfl
  exact ⟨_, h, normalization_conserves_iff h⟩

def circle : List GraphDuplicateEquivalenceProof := [sampleProof "b" "c", sampleProof "c" "b"]

/-- Two duplicates that are each proven equivalent to the other are both merged. -/
theorem circle_is_merged : ∃ result, sampleRun circle = .ok result ∧
      ¬ Conserves sampleText sampleGraph sampleCandidates circle result := by
  refine ⟨_, rfl, fun h => ?_⟩
  have hmerged : ∀ id, id ∈ sortedSet (circle.map fun proof => proof.duplicateContractId) ↔
      id = "b".toList ∨ id = "c".toList := by
    intro id
    rw [mem_sortedSet]
    simp [circle, sampleProof]
  obtain ⟨root, hchain, hroot, -⟩ := h.represented "b".toList ((hmerged _).mpr (.inl rfl))
  refine hroot ((hmerged _).mpr ?_)
  induction hchain with
  | refl => exact .inl rfl
  | tail _ hstep _ =>
      obtain ⟨proof, hproof, -, rfl⟩ := hstep
      rcases List.mem_pair.mp hproof with rfl | rfl
      · exact .inr rfl
      · exact .inl rfl

end NightWatch.SemanticCoverage.GraphNormalization
