import NightWatch.Lib.Loop
import NightWatch.Portfolio.Allocation

namespace NightWatch.Portfolio.AllocationAudit

open Lib.JsText Lib.JsData Lib.Loop Portfolio.Members Portfolio.Allocation

structure CandidatePolicy where
  totalUnits : JsNumber
  perMemberCeiling : JsNumber
  reservedExplorationUnits : JsNumber

structure CandidateEntry where
  memberId : JsString
  allocatedUnits : JsNumber

structure CandidateAllocation where
  policy : CandidatePolicy
  selected : List CandidateEntry
  zeroBudget : List PortfolioZeroBudgetEntry
  unfundedEligibleMemberIds : List JsString
  allocatedUnits : JsNumber

inductive AllocationViolation where
  | budgetOverflow
  | blockedMemberFunded
  | ceilingOrAccountingViolation

structure AllocationVerdict where
  clean : Bool
  firstViolation : Option AllocationViolation
  budgetOverflowCount : Nat
  blockedWithBudgetCount : Nat
  ceilingViolationsCount : Nat

structure EntryAudit where
  seen : List JsString
  sum : JsNumber
  blockedWithBudget : Nat
  ceilingViolations : Nat

def zeroIds (a : CandidateAllocation) : List JsString :=
  a.zeroBudget.map PortfolioZeroBudgetEntry.memberId

def selectedIds (a : CandidateAllocation) : List JsString :=
  a.selected.map CandidateEntry.memberId

/-- `units > perMemberCeiling || units <= 0`. -/
def outOfBounds (a : CandidateAllocation) (entry : CandidateEntry) : Bool :=
  a.policy.perMemberCeiling.lt entry.allocatedUnits || (JsNumber.ofNat 0).ge entry.allocatedUnits

def auditEntry (a : CandidateAllocation) (audit : EntryAudit) (entry : CandidateEntry) :
    EntryAudit :=
  if entry.memberId ∈ audit.seen then { audit with ceilingViolations := audit.ceilingViolations + 1 }
  else
    { seen := audit.seen ++ [entry.memberId]
      sum := audit.sum.add entry.allocatedUnits
      blockedWithBudget := audit.blockedWithBudget + (if entry.memberId ∈ zeroIds a then 1 else 0)
      ceilingViolations := audit.ceilingViolations + (if outOfBounds a entry then 1 else 0) }

def auditSelected (a : CandidateAllocation) : EntryAudit :=
  a.selected.foldl (auditEntry a) ⟨[], .ofNat 0, 0, 0⟩

def appearances (a : CandidateAllocation) (seen : List JsString) (memberId : JsString) : Nat :=
  (if memberId ∈ seen then 1 else 0) + (if memberId ∈ zeroIds a then 1 else 0) +
    (if memberId ∈ a.unfundedEligibleMemberIds then 1 else 0)

def partitionViolations (a : CandidateAllocation) (seen : List JsString)
    (portfolio : CampaignPortfolio) : Nat :=
  portfolio.members.countP (fun member => appearances a seen member.memberId ≠ 1) +
    (if seen.length + (zeroIds a).dedup.length + a.unfundedEligibleMemberIds.dedup.length ≠
      portfolio.members.length then 1 else 0)

def firstViolation (overflow blockedWithBudget ceilingViolations : Nat) :
    Option AllocationViolation :=
  if 0 < overflow then some .budgetOverflow
  else if 0 < blockedWithBudget then some .blockedMemberFunded
  else if 0 < ceilingViolations then some .ceilingOrAccountingViolation
  else none

def verifyAllocationInvariants (a : CandidateAllocation) (portfolio : CampaignPortfolio) :
    AllocationVerdict :=
  let audit := auditSelected a
  let overflow := if a.policy.totalUnits.lt audit.sum then 1 else 0
  let ceilingViolations := audit.ceilingViolations + partitionViolations a audit.seen portfolio
  let violation := firstViolation overflow audit.blockedWithBudget ceilingViolations
  { clean := violation = none
    firstViolation := violation
    budgetOverflowCount := overflow
    blockedWithBudgetCount := audit.blockedWithBudget
    ceilingViolationsCount := ceilingViolations }

section Soundness

variable (a : CandidateAllocation) (portfolio : CampaignPortfolio)

def totalOf (entries : List CandidateEntry) : JsNumber :=
  (entries.map CandidateEntry.allocatedUnits).foldl JsNumber.add (.ofNat 0)

def nonExplorationEntries : List CandidateEntry :=
  a.selected.filter fun entry => portfolio.members.any fun member =>
    member.memberId = entry.memberId && member.input.kind ≠ .exploration

def HoldsUnits (memberId : JsString) : Prop :=
  ∃ entry ∈ a.selected, entry.memberId = memberId ∧
    (JsNumber.ofNat 0).lt entry.allocatedUnits = true

/-- What an allocation of the portfolio under its policy keeps. -/
structure SoundCandidate : Prop where
  partition : (selectedIds a ++ zeroIds a ++ a.unfundedEligibleMemberIds).Perm
    (portfolio.members.map PortfolioMember.memberId)
  blocked : ∀ member ∈ portfolio.members, portfolioEligibility member ≠ none →
    ¬ HoldsUnits a member.memberId
  reserve : (a.policy.totalUnits.sub a.policy.reservedExplorationUnits).ge
    (totalOf (nonExplorationEntries a portfolio)) = true
  granted : ∀ entry ∈ a.selected, entry.allocatedUnits.ge (.ofNat 1) = true ∧
    a.policy.perMemberCeiling.ge entry.allocatedUnits = true
  accounted : a.allocatedUnits = totalOf a.selected
  total : a.policy.totalUnits.ge a.allocatedUnits = true

/-- What the audit checks, in terms of the lists and numbers it is given. -/
structure Checked : Prop where
  distinct : (selectedIds a).Nodup
  bounds : ∀ entry ∈ a.selected, outOfBounds a entry = false
  unblocked : ∀ entry ∈ a.selected, entry.memberId ∉ zeroIds a
  total : a.policy.totalUnits.lt (totalOf a.selected) = false
  once : ∀ member ∈ portfolio.members, appearances a (selectedIds a) member.memberId = 1
  sizes : (selectedIds a).length + (zeroIds a).dedup.length +
    a.unfundedEligibleMemberIds.dedup.length = portfolio.members.length

/-- What the audit takes for granted. -/
structure TakenForGranted : Prop where
  members : (portfolio.members.map PortfolioMember.memberId).Nodup
  zeroBudget : (zeroIds a).Nodup
  unfunded : a.unfundedEligibleMemberIds.Nodup
  eligible : ∀ entry ∈ a.selected, ∀ member ∈ portfolio.members,
    member.memberId = entry.memberId → portfolioEligibility member = none
  reserve : (a.policy.totalUnits.sub a.policy.reservedExplorationUnits).ge
    (totalOf (nonExplorationEntries a portfolio)) = true
  wholeUnits : ∀ entry ∈ a.selected, entry.allocatedUnits.ge (.ofNat 1) = true ∧
    a.policy.perMemberCeiling ≠ .nan
  accounted : a.allocatedUnits = totalOf a.selected
  comparable : a.allocatedUnits ≠ .nan ∧ a.policy.totalUnits ≠ .nan

end Soundness

section Loop

variable {a : CandidateAllocation} {portfolio : CampaignPortfolio}

/-- No entry of a list is counted as a violation. -/
structure Passing (a : CandidateAllocation) (entries : List CandidateEntry) : Prop where
  distinct : (entries.map CandidateEntry.memberId).Nodup
  bounds : ∀ entry ∈ entries, outOfBounds a entry = false
  unblocked : ∀ entry ∈ entries, entry.memberId ∉ zeroIds a

variable {entries : List CandidateEntry}

theorem passing_concat {entry : CandidateEntry} :
    Passing a (entries ++ [entry]) ↔ Passing a entries ∧
      entry.memberId ∉ entries.map CandidateEntry.memberId ∧ outOfBounds a entry = false ∧
        entry.memberId ∉ zeroIds a := by
  constructor
  · rintro ⟨hdistinct, hbounds, hunblocked⟩
    rw [List.map_append, List.nodup_append] at hdistinct
    refine ⟨⟨hdistinct.1, fun e he => hbounds e (by simp [he]),
      fun e he => hunblocked e (by simp [he])⟩, ?_, hbounds entry (by simp),
      hunblocked entry (by simp)⟩
    intro hmem
    exact hdistinct.2.2 _ hmem _ (by simp) rfl
  · rintro ⟨⟨hdistinct, hbounds, hunblocked⟩, hfresh, hbound, hzero⟩
    constructor
    · rw [List.map_append, List.nodup_append]
      refine ⟨hdistinct, by simp, ?_⟩
      rintro id hid _ hlast rfl
      rw [List.mem_singleton.mp hlast] at hid
      exact hfresh hid
    · intro e he
      rcases List.mem_append.mp he with he | he
      · exact hbounds e he
      · rw [List.mem_singleton.mp he]
        exact hbound
    · intro e he
      rcases List.mem_append.mp he with he | he
      · exact hunblocked e he
      · rw [List.mem_singleton.mp he]
        exact hzero

theorem totalOf_concat (entries : List CandidateEntry) (entry : CandidateEntry) :
    totalOf (entries ++ [entry]) = (totalOf entries).add entry.allocatedUnits := by
  simp [totalOf]

/-- The loop after some entries: its counters are zero exactly when these pass, and then it
has seen and added up all of them. -/
structure Follows (a : CandidateAllocation) (entries : List CandidateEntry) (audit : EntryAudit) :
    Prop where
  counters : audit.blockedWithBudget = 0 ∧ audit.ceilingViolations = 0 ↔ Passing a entries
  seen : Passing a entries → audit.seen = entries.map CandidateEntry.memberId
  sum : Passing a entries → audit.sum = totalOf entries

theorem follows_step {audit : EntryAudit} (h : Follows a entries audit) (entry : CandidateEntry) :
    Follows a (entries ++ [entry]) (auditEntry a audit entry) := by
  by_cases hpassing : Passing a entries
  · have hseen := h.seen hpassing
    have hsum := h.sum hpassing
    obtain ⟨hblocked, hceiling⟩ := h.counters.mpr hpassing
    by_cases hfresh : entry.memberId ∈ entries.map CandidateEntry.memberId
    · have hnot : ¬ Passing a (entries ++ [entry]) :=
        fun hall => (passing_concat.mp hall).2.1 hfresh
      rw [auditEntry, hseen, if_pos hfresh]
      exact ⟨⟨fun hzero => by simp at hzero, fun hall => absurd hall hnot⟩,
        fun hall => absurd hall hnot, fun hall => absurd hall hnot⟩
    · rw [auditEntry, hseen, if_neg hfresh]
      refine ⟨?_, fun _ => by simp, fun _ => by rw [totalOf_concat, hsum]⟩
      rw [passing_concat]
      simp [hblocked, hceiling, hpassing, hfresh, and_comm]
  · have hnot : ¬ Passing a (entries ++ [entry]) := fun hall => hpassing (passing_concat.mp hall).1
    refine ⟨⟨fun hzero => ?_, fun hall => absurd hall hnot⟩, fun hall => absurd hall hnot,
      fun hall => absurd hall hnot⟩
    have hbefore : audit.blockedWithBudget = 0 ∧ audit.ceilingViolations = 0 := by
      rw [auditEntry] at hzero
      split at hzero
      · simp at hzero
      · obtain ⟨hblocked, hceiling⟩ := hzero
        simp only at hblocked hceiling
        omega
    exact absurd (h.counters.mp hbefore) hpassing

variable (a) in
theorem follows_selected : Follows a a.selected (auditSelected a) := by
  apply foldl_done (P := Follows a)
  · exact ⟨⟨fun _ => ⟨by simp, by simp, by simp⟩, fun _ => ⟨rfl, rfl⟩⟩, fun _ => rfl, fun _ => rfl⟩
  · intro done entry rest audit _ hdone
    exact follows_step hdone entry

variable (a portfolio) in
theorem clean_iff : (verifyAllocationInvariants a portfolio).clean = true ↔
    Checked a portfolio := by
  have hfollows := follows_selected a
  have hclean : (verifyAllocationInvariants a portfolio).clean = true ↔
      a.policy.totalUnits.lt (auditSelected a).sum = false ∧
        (auditSelected a).blockedWithBudget = 0 ∧ (auditSelected a).ceilingViolations = 0 ∧
        partitionViolations a (auditSelected a).seen portfolio = 0 := by
    simp only [verifyAllocationInvariants, firstViolation]
    split_ifs <;> simp_all <;> omega
  have hpartition : partitionViolations a (selectedIds a) portfolio = 0 ↔
      (∀ member ∈ portfolio.members, appearances a (selectedIds a) member.memberId = 1) ∧
        (selectedIds a).length + (zeroIds a).dedup.length +
          a.unfundedEligibleMemberIds.dedup.length = portfolio.members.length := by
    rw [partitionViolations, Nat.add_eq_zero_iff, List.countP_eq_zero]
    simp
  rw [hclean]
  constructor
  · rintro ⟨htotal, hblocked, hceiling, hviolations⟩
    have hpassing := hfollows.counters.mp ⟨hblocked, hceiling⟩
    rw [hfollows.seen hpassing] at hviolations
    rw [hfollows.sum hpassing] at htotal
    obtain ⟨honce, hsizes⟩ := hpartition.mp hviolations
    exact ⟨hpassing.distinct, hpassing.bounds, hpassing.unblocked, htotal, honce, hsizes⟩
  · rintro ⟨hdistinct, hbounds, hunblocked, htotal, honce, hsizes⟩
    have hpassing : Passing a a.selected := ⟨hdistinct, hbounds, hunblocked⟩
    obtain ⟨hblocked, hceiling⟩ := hfollows.counters.mpr hpassing
    rw [hfollows.seen hpassing, hfollows.sum hpassing]
    exact ⟨htotal, hblocked, hceiling, hpartition.mpr ⟨honce, hsizes⟩⟩

end Loop

section Results

variable {a : CandidateAllocation} {portfolio : CampaignPortfolio} {m n : JsNumber}

theorem ge_of_lt_false (hm : m ≠ .nan) (hn : n ≠ .nan) (h : m.lt n = false) : m.ge n = true := by
  cases m with
  | nan => contradiction
  | _ =>
      cases n with
      | nan => contradiction
      | _ => simp_all [JsNumber.ge]

theorem ne_nan_of_ge (h : m.ge n = true) : m ≠ .nan ∧ n ≠ .nan := by
  constructor
  · rintro rfl
    contradiction
  · rintro rfl
    cases m <;> contradiction

theorem pos_of_ge_one (h : n.ge (.ofNat 1) = true) : (JsNumber.ofNat 0).lt n = true := by
  cases n with
  | nan => contradiction
  | negInfinity => contradiction
  | posInfinity => rfl
  | finite q =>
      have hq : (1 : ℚ) ≤ q := by simpa [JsNumber.ge, JsNumber.lt, JsNumber.ofNat] using h
      have hpos : (0 : ℚ) < q := by linarith
      simpa [JsNumber.lt, JsNumber.ofNat] using hpos

theorem nodup_of_dedup_length {xs : List JsString} (h : xs.length ≤ xs.dedup.length) :
    xs.Nodup := by
  have heq := (List.dedup_sublist xs).eq_of_length_le h
  rw [← heq]
  exact List.nodup_dedup xs

theorem nodup_lists (h : Checked a portfolio)
    (hmembers : ∀ id ∈ selectedIds a ++ zeroIds a ++ a.unfundedEligibleMemberIds,
      ∃ member ∈ portfolio.members, member.memberId = id)
    (hzero : (zeroIds a).Nodup) (hunfunded : a.unfundedEligibleMemberIds.Nodup) :
    (selectedIds a ++ zeroIds a ++ a.unfundedEligibleMemberIds).Nodup := by
  have honce (id : JsString)
      (hid : id ∈ selectedIds a ++ zeroIds a ++ a.unfundedEligibleMemberIds) :
      appearances a (selectedIds a) id = 1 := by
    obtain ⟨member, hmember, rfl⟩ := hmembers id hid
    exact h.once member hmember
  rw [List.nodup_append, List.nodup_append]
  refine ⟨⟨h.distinct, hzero, ?_⟩, hunfunded, ?_⟩
  · rintro id hselected _ hid rfl
    have hcount := honce id (by simp [hselected])
    rw [appearances, if_pos hselected, if_pos hid] at hcount
    omega
  · rintro id hid _ hlast rfl
    have hcount := honce id (by simp [hlast])
    rw [appearances, if_pos hlast] at hcount
    rcases List.mem_append.mp hid with hselected | hzeroId
    · rw [if_pos hselected] at hcount
      omega
    · rw [if_pos hzeroId] at hcount
      omega

theorem takenForGranted_of_sound (h : Checked a portfolio) (hsound : SoundCandidate a portfolio) :
    TakenForGranted a portfolio := by
  have hlength := hsound.partition.length_eq
  rw [List.length_append, List.length_append, List.length_map, ← h.sizes] at hlength
  have hzeroLe := (List.dedup_sublist (zeroIds a)).length_le
  have hunfundedLe := (List.dedup_sublist a.unfundedEligibleMemberIds).length_le
  have hzero : (zeroIds a).Nodup := nodup_of_dedup_length (by omega)
  have hunfunded : a.unfundedEligibleMemberIds.Nodup := nodup_of_dedup_length (by omega)
  have hlists := nodup_lists h (fun id hid => by
    simpa using List.mem_map.mp (hsound.partition.mem_iff.mp hid)) hzero hunfunded
  constructor
  · exact hsound.partition.nodup_iff.mp hlists
  · exact hzero
  · exact hunfunded
  · intro entry hentry member hmember hid
    by_contra hblocked
    exact hsound.blocked member hmember hblocked
      ⟨entry, hentry, hid.symm, pos_of_ge_one (hsound.granted entry hentry).1⟩
  · exact hsound.reserve
  · intro entry hentry
    obtain ⟨hone, hceiling⟩ := hsound.granted entry hentry
    exact ⟨hone, (ne_nan_of_ge hceiling).1⟩
  · exact hsound.accounted
  · exact (ne_nan_of_ge hsound.total).symm

theorem sound_of_takenForGranted (h : Checked a portfolio)
    (hgranted : TakenForGranted a portfolio) : SoundCandidate a portfolio := by
  constructor
  · have hsubset : portfolio.members.map PortfolioMember.memberId ⊆
        selectedIds a ++ zeroIds a ++ a.unfundedEligibleMemberIds := by
      intro id hid
      obtain ⟨member, hmember, rfl⟩ := List.mem_map.mp hid
      have hcount := h.once member hmember
      by_contra hnone
      simp only [List.mem_append, not_or] at hnone
      rw [appearances, if_neg hnone.1.1, if_neg hnone.1.2, if_neg hnone.2] at hcount
      omega
    refine ((List.subperm_of_subset hgranted.members hsubset).perm_of_length_le ?_).symm
    have hsizes := h.sizes
    rw [hgranted.zeroBudget.dedup, hgranted.unfunded.dedup] at hsizes
    rw [List.length_append, List.length_append, List.length_map, hsizes]
  · rintro member hmember hblocked ⟨entry, hentry, hid, -⟩
    exact hblocked (hgranted.eligible entry hentry member hmember hid.symm)
  · exact hgranted.reserve
  · intro entry hentry
    obtain ⟨hone, hceiling⟩ := hgranted.wholeUnits entry hentry
    have hbounds := h.bounds entry hentry
    rw [outOfBounds, Bool.or_eq_false_iff] at hbounds
    exact ⟨hone, ge_of_lt_false hceiling (ne_nan_of_ge hone).1 hbounds.1⟩
  · exact hgranted.accounted
  · have htotal := h.total
    rw [← hgranted.accounted] at htotal
    exact ge_of_lt_false hgranted.comparable.2 hgranted.comparable.1 htotal

/-- A clean verdict is right exactly where everything that the audit takes for granted
holds of the lists it lets through. -/
theorem clean_is_sound_iff (a : CandidateAllocation) (portfolio : CampaignPortfolio) :
    ((verifyAllocationInvariants a portfolio).clean = true → SoundCandidate a portfolio) ↔
      (Checked a portfolio → TakenForGranted a portfolio) := by
  rw [clean_iff]
  constructor
  · intro h hchecked
    exact takenForGranted_of_sound hchecked (h hchecked)
  · intro h hchecked
    exact sound_of_takenForGranted hchecked (h hchecked)

def frozenMember : PortfolioMember where
  memberId := "pm:frozen".toList
  input := {
    targetId := "target".toList
    journeyId := none
    kind := .api
    semanticScope := "scope".toList
    currentness := .current
    sourceSha := none
    evidenceDigest := none
    derivationVersion := none
    contractVersion := none
    depthClass := .none
    replayable := true
    executionCostClass := .low
    starvationAgeBuckets := 0
    historicalYield := ⟨0, 0, 0, 0, 0, 0, 0, 0⟩
    ownerBlockedOperations := []
    phaseFrozen := true }
  duplicatePressure := 0

def frozenPortfolio : CampaignPortfolio := ⟨["target".toList], [frozenMember], []⟩

def frozenAllocation : CandidateAllocation where
  policy := ⟨.ofNat 10, .ofNat 4, .ofNat 0⟩
  selected := [⟨frozenMember.memberId, .ofNat 3⟩]
  zeroBudget := []
  unfundedEligibleMemberIds := []
  allocatedUnits := .ofNat 3

theorem frozen_member_is_funded :
    (verifyAllocationInvariants frozenAllocation frozenPortfolio).clean = true ∧
      ¬ SoundCandidate frozenAllocation frozenPortfolio := by
  constructor
  · rw [clean_iff]
    constructor
    · decide
    · decide +kernel
    · decide
    · decide +kernel
    · decide
    · decide
  · intro hsound
    apply hsound.blocked frozenMember (by simp [frozenPortfolio]) (by decide)
    exact ⟨_, List.mem_cons_self .., rfl, by decide +kernel⟩

end Results

end NightWatch.Portfolio.AllocationAudit
