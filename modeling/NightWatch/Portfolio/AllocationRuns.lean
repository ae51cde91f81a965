import NightWatch.Lib.Loop
import NightWatch.Portfolio.Allocation

namespace NightWatch.Portfolio.AllocationRuns

open Lib.JsText Lib.JsData Lib.JsRuntime Lib.Guard Lib.Loop Portfolio.Members Portfolio.Allocation

section Limits

variable {policy : PortfolioBudgetPolicy}

/-- The kinds that draw on the same limits. -/
def SameClass (kind kind' : PortfolioMemberKind) : Prop :=
  kind = .exploration ↔ kind' = .exploration

theorem available_congr {g : Grants} {kind kind' : PortfolioMemberKind} (h : SameClass kind kind') :
    available policy g kind = available policy g kind' := by
  rw [available, available]
  by_cases hkind : kind = .exploration
  · rw [if_pos hkind, if_pos (h.mp hkind)]
  · rw [if_neg hkind, if_neg (mt h.mpr hkind)]

variable (g : Grants)

variable (policy) in
theorem available_grant_le (c : RankedCandidate) (n : Nat) (kind : PortfolioMemberKind) :
    available policy (grant policy g c n) kind ≤ available policy g kind := by
  simp only [available, grant]
  by_cases hkind : kind = .exploration
  · rw [if_pos hkind, if_pos hkind]
    omega
  · rw [if_neg hkind, if_neg hkind]
    split <;> omega

theorem available_grant_self (c : RankedCandidate) :
    available policy (grant policy g c (available policy g c.kind)) c.kind = 0 := by
  simp only [available, grant]
  split <;> omega

@[simp] theorem grant_zero (c : RankedCandidate) : grant policy g c 0 = g := by
  simp [grant]

theorem grant_units_self (c : RankedCandidate) (n : Nat) :
    (grant policy g c n).units c.memberId = g.units c.memberId + n := Function.update_self ..

theorem grant_units_of_ne {c : RankedCandidate} (n : Nat) {memberId : JsString}
    (h : memberId ≠ c.memberId) : (grant policy g c n).units memberId = g.units memberId :=
  Function.update_of_ne h ..

theorem available_floorApplied (ids : List JsString) (kind : PortfolioMemberKind) :
    available policy { g with floorApplied := ids } kind = available policy g kind := rfl

def floorGrant (policy : PortfolioBudgetPolicy) (g : Grants) (c : RankedCandidate) : Nat :=
  if c.starvationEligible then min (headroomFor policy g c) policy.floorUnits else 0

variable (policy) in
theorem floorStep_eq (c : RankedCandidate) : ∃ ids, floorStep policy g c =
      { grant policy g c (floorGrant policy g c) with floorApplied := ids } := by
  rw [floorStep, floorGrant]
  cases hstarved : c.starvationEligible with
  | false => exact ⟨g.floorApplied, by simp⟩
  | true =>
      by_cases hfloor : policy.floorUnits = 0
      · exact ⟨g.floorApplied, by simp [hfloor]⟩
      · by_cases hgrantable : 0 < min (headroomFor policy g c) policy.floorUnits
        · exact ⟨g.floorApplied ++ [c.memberId], by simp [hfloor, hgrantable]⟩
        · have hzero : min (headroomFor policy g c) policy.floorUnits = 0 := by omega
          exact ⟨g.floorApplied, by simp [hfloor, hzero]⟩

theorem fillStep_eq (c : RankedCandidate) :
    fillStep policy g c = grant policy g c (headroomFor policy g c) := by
  rw [fillStep]
  by_cases hzero : headroomFor policy g c = 0
  · rw [if_pos hzero, hzero, grant_zero]
  · rw [if_neg hzero]

end Limits

section Accounts

variable {policy : PortfolioBudgetPolicy} {ranked : List RankedCandidate}

theorem sum_update (hnodup : (ranked.map RankedCandidate.memberId).Nodup) {c : RankedCandidate}
    (hc : c ∈ ranked) (p : RankedCandidate → Bool) (u : JsString → Nat) (n : Nat) :
    (ranked.map fun x => if p x then
        Function.update u c.memberId (u c.memberId + n) x.memberId else 0).sum =
      (ranked.map fun x => if p x then u x.memberId else 0).sum + if p c then n else 0 := by
  have hothers (rest : List RankedCandidate) (hrest : c.memberId ∉ rest.map RankedCandidate.memberId) :
      (rest.map fun x => if p x then
        Function.update u c.memberId (u c.memberId + n) x.memberId else 0) =
      rest.map fun x => if p x then u x.memberId else 0 := by
    apply List.map_congr_left
    intro x hx
    have hne : x.memberId ≠ c.memberId := fun h => hrest (h ▸ List.mem_map_of_mem hx)
    rw [Function.update_of_ne hne]
  induction ranked with
  | nil => contradiction
  | cons first rest ih =>
      rw [List.map_cons, List.nodup_cons] at hnodup
      rw [List.map_cons, List.map_cons, List.sum_cons, List.sum_cons]
      rcases List.mem_cons.mp hc with rfl | hrest
      · rw [hothers rest hnodup.1, Function.update_self]
        by_cases hp : p c = true
        · rw [if_pos hp, if_pos hp, if_pos hp]
          omega
        · rw [if_neg hp, if_neg hp, if_neg hp]
          omega
      · have hne : first.memberId ≠ c.memberId :=
          fun h => hnodup.1 (h ▸ List.mem_map_of_mem hrest)
        rw [ih hnodup.2 hrest, Function.update_of_ne hne]
        omega

def unitsSum (ranked : List RankedCandidate) (g : Grants) : Nat :=
  (ranked.map fun c => g.units c.memberId).sum

def nonExplorationSum (ranked : List RankedCandidate) (g : Grants) : Nat :=
  (ranked.map fun c => if c.kind ≠ .exploration then g.units c.memberId else 0).sum

structure Balanced (policy : PortfolioBudgetPolicy) (ranked : List RankedCandidate) (g : Grants) :
    Prop where
  total : unitsSum ranked g = g.totalAllocated
  nonExploration : nonExplorationSum ranked g = g.nonExplorationAllocated
  ceiling : ∀ memberId, g.units memberId ≤ policy.perMemberCeiling
  withinTotal : g.totalAllocated ≤ policy.totalUnits
  withinReserve : g.nonExplorationAllocated ≤ policy.totalUnits - policy.reservedExplorationUnits

theorem balanced_noGrants : Balanced policy ranked noGrants := by
  constructor
  · simp [unitsSum, noGrants]
  · simp [nonExplorationSum, noGrants]
  · exact fun memberId => Nat.zero_le _
  · exact Nat.zero_le _
  · exact Nat.zero_le _

theorem Balanced.grant (hnodup : (ranked.map RankedCandidate.memberId).Nodup) {g : Grants}
    (hg : Balanced policy ranked g) {c : RankedCandidate} (hc : c ∈ ranked) {n : Nat}
    (hn : n ≤ headroomFor policy g c) : Balanced policy ranked (grant policy g c n) := by
  have hceiling := hg.ceiling c.memberId
  have hwithin := hg.withinTotal
  have hreserve := hg.withinReserve
  rw [headroomFor] at hn
  constructor
  · have hsum := sum_update hnodup hc (fun _ => true) g.units n
    simp only [if_true] at hsum
    exact hsum.trans (congrArg (· + n) hg.total)
  · have hsum := sum_update hnodup hc (fun x => x.kind ≠ .exploration) g.units n
    simp only [decide_eq_true_eq] at hsum
    refine hsum.trans ?_
    have hbefore := hg.nonExploration
    rw [nonExplorationSum] at hbefore
    rw [hbefore]
    by_cases hkind : c.kind = .exploration
    · simp [Allocation.grant, hkind]
    · simp [Allocation.grant, hkind]
  · intro memberId
    by_cases heq : memberId = c.memberId
    · rw [heq, grant_units_self]
      omega
    · rw [grant_units_of_ne g n heq]
      exact hg.ceiling memberId
  · simp only [Allocation.grant]
    simp only [available] at hn
    split at hn <;> omega
  · simp only [Allocation.grant]
    simp only [available] at hn
    split at hn
    · rename_i hkind
      rw [if_pos hkind]
      exact hreserve
    · rename_i hkind
      rw [if_neg hkind]
      omega

end Accounts

section Passes

variable {policy : PortfolioBudgetPolicy} {ranked : List RankedCandidate}

/-- The candidates that the limits treat alike. -/
def EquallyConstrained (c d : RankedCandidate) : Prop :=
  SameClass c.kind d.kind ∧ c.starvationEligible = d.starvationEligible

/-- An earlier candidate has at least the units of a later one treated alike. -/
def Monotone (g : Grants) (candidates : List RankedCandidate) : Prop :=
  candidates.Pairwise fun hi lo => EquallyConstrained hi lo →
    g.units lo.memberId ≤ g.units hi.memberId

variable {done : List RankedCandidate} {c : RankedCandidate}

theorem ne_of_done {rest : List RankedCandidate}
    (hnodup : ((done ++ c :: rest).map RankedCandidate.memberId).Nodup) {d : RankedCandidate}
    (hd : d ∈ done) : d.memberId ≠ c.memberId := by
  rw [List.map_append, List.nodup_append] at hnodup
  exact hnodup.2.2 _ (List.mem_map_of_mem hd) _ (List.mem_map_of_mem (List.mem_cons_self ..))

theorem monotone_concat {g g' : Grants}
    (hdone : Monotone g done) (hkept : ∀ d ∈ done, g'.units d.memberId = g.units d.memberId)
    (hlast : ∀ d ∈ done, EquallyConstrained d c → g'.units c.memberId ≤ g'.units d.memberId) :
    Monotone g' (done ++ [c]) := by
  rw [Monotone, List.pairwise_append]
  refine ⟨?_, List.pairwise_singleton _ _, ?_⟩
  · refine List.Pairwise.imp_of_mem ?_ hdone
    intro hi lo hhi hlo h hequal
    rw [hkept hi hhi, hkept lo hlo]
    exact h hequal
  · intro d hd c' hc'
    obtain rfl := List.mem_singleton.mp hc'
    exact hlast d hd

structure Floored (policy : PortfolioBudgetPolicy) (ranked done : List RankedCandidate) (g : Grants) :
    Prop where
  balanced : Balanced policy ranked g
  pending : ∀ c ∈ ranked, c.memberId ∉ done.map RankedCandidate.memberId → g.units c.memberId = 0
  unstarved : ∀ c ∈ done, c.starvationEligible = false → g.units c.memberId = 0
  starved : ∀ c ∈ done, c.starvationEligible = true →
    g.units c.memberId = policy.floorUnits ∨ available policy g c.kind = 0
  ordered : Monotone g done

theorem floors_spec (hnodup : (ranked.map RankedCandidate.memberId).Nodup)
    (hfloor : policy.floorUnits ≤ policy.perMemberCeiling) :
    Floored policy ranked ranked (floors policy ranked) := by
  apply foldl_done (P := fun done g => Floored policy ranked done g)
  · exact ⟨balanced_noGrants, fun _ _ _ => rfl, by simp, by simp, List.Pairwise.nil⟩
  intro done c rest g hranked hg
  have hc : c ∈ ranked := by simp [hranked]
  have hne {d : RankedCandidate} (hd : d ∈ done) : d.memberId ≠ c.memberId :=
    ne_of_done (hranked ▸ hnodup) hd
  have hzero : g.units c.memberId = 0 := by
    apply hg.pending c hc
    intro hmem
    obtain ⟨d, hd, hid⟩ := List.mem_map.mp hmem
    exact hne hd hid
  obtain ⟨ids, hstep⟩ := floorStep_eq policy g c
  rw [hstep]
  generalize hn : floorGrant policy g c = n
  have hroom : n ≤ headroomFor policy g c := by
    rw [← hn, floorGrant]
    split <;> omega
  have hself : (grant policy g c n).units c.memberId = n := by
    rw [grant_units_self, hzero, Nat.zero_add]
  have hkept (d : RankedCandidate) (hd : d ∈ done) :
      (grant policy g c n).units d.memberId = g.units d.memberId :=
    grant_units_of_ne g n (hne hd)
  constructor
  · have hbalanced := hg.balanced.grant hnodup hc hroom
    exact ⟨hbalanced.total, hbalanced.nonExploration, hbalanced.ceiling, hbalanced.withinTotal,
      hbalanced.withinReserve⟩
  · intro d hd hnotDone
    rw [List.map_append, List.mem_append, not_or] at hnotDone
    have hdc : d.memberId ≠ c.memberId := by simpa using hnotDone.2
    change (grant policy g c n).units d.memberId = 0
    rw [grant_units_of_ne g n hdc]
    exact hg.pending d hd hnotDone.1
  · intro d hd hunstarved
    change (grant policy g c n).units d.memberId = 0
    rcases List.mem_append.mp hd with hd | hd
    · rw [hkept d hd]
      exact hg.unstarved d hd hunstarved
    · obtain rfl := List.mem_singleton.mp hd
      rw [hself, ← hn, floorGrant, hunstarved]
      rfl
  · intro d hd hstarved
    rw [available_floorApplied]
    change (grant policy g c n).units d.memberId = _ ∨ _
    rcases List.mem_append.mp hd with hd | hd
    · rw [hkept d hd]
      rcases hg.starved d hd hstarved with hfull | hempty
      · exact .inl hfull
      · have := available_grant_le policy g c n d.kind
        exact .inr (by omega)
    · obtain rfl := List.mem_singleton.mp hd
      rw [floorGrant, hstarved, if_pos rfl, headroomFor, hzero] at hn
      rcases Nat.lt_or_ge (available policy g d.kind) policy.floorUnits with hscarce | hplenty
      · right
        have hall : n = available policy g d.kind := by omega
        rw [hall]
        exact available_grant_self g d
      · left
        rw [hself]
        omega
  · refine monotone_concat hg.ordered hkept ?_
    intro d hd hequal
    change (grant policy g c n).units c.memberId ≤ (grant policy g c n).units d.memberId
    rw [hself, hkept d hd]
    cases hstarved : c.starvationEligible with
    | false =>
        rw [floorGrant, hstarved] at hn
        simp only [Bool.false_eq_true, if_false] at hn
        omega
    | true =>
        rw [floorGrant, hstarved, if_pos rfl, headroomFor] at hn
        rcases hg.starved d hd (hequal.2.trans hstarved) with hfull | hempty
        · omega
        · rw [available_congr hequal.1] at hempty
          omega

/-- The state of the fill pass, over the units the floors have left. -/
structure Filled (policy : PortfolioBudgetPolicy) (ranked : List RankedCandidate)
    (floor : JsString → Nat) (done : List RankedCandidate) (g : Grants) : Prop where
  balanced : Balanced policy ranked g
  pending : ∀ c ∈ ranked, c.memberId ∉ done.map RankedCandidate.memberId →
    g.units c.memberId = floor c.memberId
  grown : ∀ c ∈ done, floor c.memberId ≤ g.units c.memberId
  full : ∀ c ∈ done, g.units c.memberId = policy.perMemberCeiling ∨ available policy g c.kind = 0
  ordered : Monotone g done

theorem grants_spec (hnodup : (ranked.map RankedCandidate.memberId).Nodup)
    (hfloor : policy.floorUnits ≤ policy.perMemberCeiling) :
    Filled policy ranked (floors policy ranked).units ranked (grants policy ranked) := by
  have hfloors := floors_spec hnodup hfloor
  apply foldl_done (P := fun done g => Filled policy ranked (floors policy ranked).units done g)
  · exact ⟨hfloors.balanced, fun _ _ _ => rfl, by simp, by simp, List.Pairwise.nil⟩
  intro done c rest g hranked hg
  have hc : c ∈ ranked := by simp [hranked]
  have hne {d : RankedCandidate} (hd : d ∈ done) : d.memberId ≠ c.memberId :=
    ne_of_done (hranked ▸ hnodup) hd
  have hbefore : g.units c.memberId = (floors policy ranked).units c.memberId := by
    apply hg.pending c hc
    intro hmem
    obtain ⟨d, hd, hid⟩ := List.mem_map.mp hmem
    exact hne hd hid
  rw [fillStep_eq]
  generalize hn : headroomFor policy g c = n
  have hself : (grant policy g c n).units c.memberId = g.units c.memberId + n :=
    grant_units_self g c n
  have hkept (d : RankedCandidate) (hd : d ∈ done) :
      (grant policy g c n).units d.memberId = g.units d.memberId :=
    grant_units_of_ne g n (hne hd)
  have hceiling := hg.balanced.ceiling c.memberId
  rw [headroomFor] at hn
  have hbalanced : Balanced policy ranked (grant policy g c n) :=
    hg.balanced.grant hnodup hc (by rw [headroomFor, hn])
  constructor
  · exact hbalanced
  · intro d hd hnotDone
    rw [List.map_append, List.mem_append, not_or] at hnotDone
    have hdc : d.memberId ≠ c.memberId := by simpa using hnotDone.2
    rw [grant_units_of_ne g n hdc]
    exact hg.pending d hd hnotDone.1
  · intro d hd
    rcases List.mem_append.mp hd with hd | hd
    · rw [hkept d hd]
      exact hg.grown d hd
    · obtain rfl := List.mem_singleton.mp hd
      rw [hself, hbefore]
      omega
  · intro d hd
    rcases List.mem_append.mp hd with hd | hd
    · rw [hkept d hd]
      rcases hg.full d hd with hfull | hempty
      · exact .inl hfull
      · have := available_grant_le policy g c n d.kind
        exact .inr (by omega)
    · obtain rfl := List.mem_singleton.mp hd
      rcases Nat.lt_or_ge (available policy g d.kind)
          (policy.perMemberCeiling - g.units d.memberId) with hscarce | hplenty
      · right
        have hall : n = available policy g d.kind := by omega
        rw [hall]
        exact available_grant_self g d
      · left
        rw [hself]
        omega
  · refine monotone_concat hg.ordered hkept ?_
    intro d hd hequal
    rw [hkept d hd]
    rcases hg.full d hd with hfull | hempty
    · rw [hfull]
      exact hbalanced.ceiling c.memberId
    · -- the class has nothing left, so the order of the floors decides
      rw [available_congr hequal.1] at hempty
      have hnothing : n = 0 := by omega
      rw [hself, hnothing, Nat.add_zero, hbefore]
      have hordered : Monotone (floors policy ranked) (done ++ c :: rest) := by
        rw [← hranked]
        exact hfloors.ordered
      rw [Monotone, List.pairwise_append] at hordered
      exact (hordered.2.2 d hd c (List.mem_cons_self ..) hequal).trans (hg.grown d hd)

end Passes

section Results

variable {rt : Runtime} {input : AllocationInput} {portfolio : CampaignPortfolio}

variable (rt input portfolio) in
theorem map_selected {β : Type} (read : PortfolioAllocationEntry → β)
    (readCandidate : RankedCandidate → β) (h : ∀ c index, read (entryOf input.policy
      (grants input.policy (rankedCandidates rt input portfolio)) c index) = readCandidate c) :
    (allocationOf rt input portfolio).selected.map read =
      ((rankedCandidates rt input portfolio).filter fun c =>
        0 < (grants input.policy (rankedCandidates rt input portfolio)).units c.memberId).map
          readCandidate := by
  rw [allocationOf]
  apply List.ext_getElem
  · simp
  · intro index hleft hright
    simp [h]

theorem sum_filter_pos (ranked : List RankedCandidate) (p : RankedCandidate → Bool)
    (u : JsString → Nat) :
    ((ranked.filter fun c => 0 < u c.memberId).map fun c => if p c then u c.memberId else 0).sum =
      (ranked.map fun c => if p c then u c.memberId else 0).sum := by
  induction ranked with
  | nil => rfl
  | cons c rest ih =>
      rw [List.filter_cons]
      by_cases hpos : 0 < u c.memberId
      · simp only [hpos, decide_true, if_true, List.map_cons, List.sum_cons, ih]
      · have hzero : u c.memberId = 0 := by omega
        rw [if_neg (by simpa using hpos), List.map_cons, List.sum_cons, ih, hzero, ite_self,
          Nat.zero_add]

def unitsOf (a : PortfolioAllocation) (memberId : JsString) : Nat :=
  ((a.selected.map fun entry => (entry.memberId, entry.allocatedUnits)).lookup memberId).getD 0

def nonExplorationUnits (a : PortfolioAllocation) : Nat :=
  (a.selected.map fun entry => if entry.kind ≠ .exploration then entry.allocatedUnits else 0).sum

theorem unitsOf_ranked {c : RankedCandidate} (hc : c ∈ rankedCandidates rt input portfolio) :
    unitsOf (allocationOf rt input portfolio) c.memberId =
      (grants input.policy (rankedCandidates rt input portfolio)).units c.memberId := by
  generalize hg : grants input.policy (rankedCandidates rt input portfolio) = g
  have hselected := map_selected rt input portfolio
    (fun entry => (entry.memberId, entry.allocatedUnits))
    (fun c => (c.memberId, g.units c.memberId)) (fun c index => by rw [hg]; rfl)
  rw [unitsOf, hselected, hg]
  have hgraph : ((rankedCandidates rt input portfolio).filter fun c => 0 < g.units c.memberId).map
        (fun c => (c.memberId, g.units c.memberId)) =
      (((rankedCandidates rt input portfolio).filter fun c => 0 < g.units c.memberId).map
        RankedCandidate.memberId).map fun memberId => (memberId, g.units memberId) := by
    rw [List.map_map]
    rfl
  rw [hgraph]
  by_cases hpos : 0 < g.units c.memberId
  · rw [List.lookup_graph g.units (List.mem_map_of_mem (List.mem_filter.mpr ⟨hc, by simpa using hpos⟩))]
    rfl
  · have hzero : g.units c.memberId = 0 := by omega
    rw [hzero]
    cases hfound : (List.map (fun memberId => (memberId, g.units memberId))
        (List.map RankedCandidate.memberId
          (List.filter (fun c => decide (0 < g.units c.memberId))
            (rankedCandidates rt input portfolio)))).lookup c.memberId with
    | none => rfl
    | some units =>
        obtain ⟨before, after, hsplit, -⟩ := List.lookup_eq_some_iff.mp hfound
        have hmem : (c.memberId, units) ∈ List.map (fun memberId => (memberId, g.units memberId))
            (List.map RankedCandidate.memberId
              (List.filter (fun c => decide (0 < g.units c.memberId))
                (rankedCandidates rt input portfolio))) := by
          rw [hsplit]
          simp
        obtain ⟨memberId, -, heq⟩ := List.mem_map.mp hmem
        obtain ⟨rfl, rfl⟩ := Prod.mk.inj heq
        rw [hzero]
        rfl

theorem sum_selected : ((allocationOf rt input portfolio).selected.map
        PortfolioAllocationEntry.allocatedUnits).sum =
      unitsSum (rankedCandidates rt input portfolio)
        (grants input.policy (rankedCandidates rt input portfolio)) := by
  rw [map_selected rt input portfolio _ (fun c => (grants input.policy
    (rankedCandidates rt input portfolio)).units c.memberId) fun c index => rfl]
  have hsum := sum_filter_pos (rankedCandidates rt input portfolio) (fun _ => true)
    (grants input.policy (rankedCandidates rt input portfolio)).units
  simp only [if_true] at hsum
  exact hsum

theorem nonExplorationUnits_eq : nonExplorationUnits (allocationOf rt input portfolio) =
      nonExplorationSum (rankedCandidates rt input portfolio)
        (grants input.policy (rankedCandidates rt input portfolio)) := by
  rw [nonExplorationUnits, map_selected rt input portfolio _ (fun c => if c.kind ≠ .exploration then
    (grants input.policy (rankedCandidates rt input portfolio)).units c.memberId else 0)
    fun c index => rfl]
  have hsum := sum_filter_pos (rankedCandidates rt input portfolio)
    (fun c => c.kind ≠ .exploration)
    (grants input.policy (rankedCandidates rt input portfolio)).units
  simp only [decide_eq_true_eq] at hsum
  exact hsum

def partitionIds (a : PortfolioAllocation) : List JsString :=
  a.selected.map PortfolioAllocationEntry.memberId ++
    a.zeroBudget.map PortfolioZeroBudgetEntry.memberId ++ a.unfundedEligibleMemberIds

variable (rt input portfolio) in
theorem rankedIds_perm : ((rankedCandidates rt input portfolio).map RankedCandidate.memberId).Perm
      ((portfolio.members.filter fun member => (portfolioEligibility member).isNone).map
        PortfolioMember.memberId) := by
  have hperm := (List.perm_insertionSort (ranksBefore rt)
    ((portfolio.members.filter fun member => (portfolioEligibility member).isNone).map
      (candidateOf input))).map RankedCandidate.memberId
  rw [List.map_map] at hperm
  exact hperm

variable (rt portfolio) in
theorem zeroIds_perm : ((zeroBudgetEntries rt portfolio).map PortfolioZeroBudgetEntry.memberId).Perm
      ((portfolio.members.filter fun member => !(portfolioEligibility member).isNone).map
        PortfolioMember.memberId) := by
  have hperm := (List.perm_insertionSort (fun left right : PortfolioZeroBudgetEntry =>
    rt.localeLe left.memberId right.memberId = true)
    (portfolio.members.filterMap zeroBudgetOf)).map PortfolioZeroBudgetEntry.memberId
  have hids : (portfolio.members.filterMap zeroBudgetOf).map PortfolioZeroBudgetEntry.memberId =
      (portfolio.members.filter fun member => !(portfolioEligibility member).isNone).map
        PortfolioMember.memberId := by
    induction portfolio.members with
    | nil => rfl
    | cons member rest ih =>
        rw [List.filterMap_cons, List.filter_cons, zeroBudgetOf]
        cases portfolioEligibility member with
        | none => exact ih
        | some reason => exact congrArg (member.memberId :: ·) ih
  rw [hids] at hperm
  exact hperm

variable (rt input portfolio) in
theorem partitionIds_perm : (partitionIds (allocationOf rt input portfolio)).Perm
      (portfolio.members.map PortfolioMember.memberId) := by
  generalize hg : grants input.policy (rankedCandidates rt input portfolio) = g
  have hselected : (allocationOf rt input portfolio).selected.map
        PortfolioAllocationEntry.memberId =
      ((rankedCandidates rt input portfolio).filter fun c => 0 < g.units c.memberId).map
        RankedCandidate.memberId := by
    rw [← hg]
    exact map_selected rt input portfolio _ _ fun c index => rfl
  have hunfunded : (allocationOf rt input portfolio).unfundedEligibleMemberIds.Perm
      (((rankedCandidates rt input portfolio).filter fun c => !decide (0 < g.units c.memberId)).map
        RankedCandidate.memberId) := by
    rw [← hg]
    have hfilter : (fun c : RankedCandidate => decide
          ((grants input.policy (rankedCandidates rt input portfolio)).units c.memberId = 0)) =
        fun c => !decide (0 <
          (grants input.policy (rankedCandidates rt input portfolio)).units c.memberId) := by
      funext c
      rw [← decide_not]
      exact decide_eq_decide.mpr (by omega)
    rw [allocationOf, localeSorted]
    simp only [hfilter]
    exact List.perm_insertionSort _ _
  have hranked := rankedIds_perm rt input portfolio
  calc
    partitionIds (allocationOf rt input portfolio)
    _ = (allocationOf rt input portfolio).selected.map PortfolioAllocationEntry.memberId ++
          (zeroBudgetEntries rt portfolio).map PortfolioZeroBudgetEntry.memberId ++
          (allocationOf rt input portfolio).unfundedEligibleMemberIds := rfl
    List.Perm _ (((rankedCandidates rt input portfolio).filter
            fun c => 0 < g.units c.memberId).map RankedCandidate.memberId ++
          ((rankedCandidates rt input portfolio).filter
            fun c => !decide (0 < g.units c.memberId)).map RankedCandidate.memberId ++
          (zeroBudgetEntries rt portfolio).map PortfolioZeroBudgetEntry.memberId) := by
      rw [hselected, List.append_assoc, List.append_assoc]
      exact (List.perm_append_comm.trans (hunfunded.append_right _)).append_left _
    List.Perm _ ((rankedCandidates rt input portfolio).map RankedCandidate.memberId ++
          (zeroBudgetEntries rt portfolio).map PortfolioZeroBudgetEntry.memberId) := by
      rw [← List.map_append]
      exact ((List.filter_append_perm _ _).map _).append_right _
    List.Perm _ ((portfolio.members.filter fun member => (portfolioEligibility member).isNone).map
            PortfolioMember.memberId ++
          (portfolio.members.filter fun member => !(portfolioEligibility member).isNone).map
            PortfolioMember.memberId) := hranked.append (zeroIds_perm rt portfolio)
    List.Perm _ (portfolio.members.map PortfolioMember.memberId) := by
      rw [← List.map_append]
      exact (List.filter_append_perm _ _).map _

end Results

section Verification

variable {rt : Runtime} {input : AllocationInput} {portfolio : CampaignPortfolio}

theorem auditSelected_eq {a : PortfolioAllocation}
    (hnodup : (a.selected.map PortfolioAllocationEntry.memberId).Nodup)
    (hunits : ∀ entry ∈ a.selected,
      0 < entry.allocatedUnits ∧ entry.allocatedUnits ≤ a.policy.perMemberCeiling)
    (hblocked : ∀ entry ∈ a.selected,
      entry.memberId ∉ a.zeroBudget.map PortfolioZeroBudgetEntry.memberId) :
    auditSelected a = ⟨a.selected.map PortfolioAllocationEntry.memberId,
      (a.selected.map PortfolioAllocationEntry.allocatedUnits).sum, 0, 0⟩ := by
  apply foldl_done (P := fun done audit => audit =
    (⟨done.map PortfolioAllocationEntry.memberId,
      (done.map PortfolioAllocationEntry.allocatedUnits).sum, 0, 0⟩ : SelectedAudit))
  · rfl
  rintro done entry rest audit hselected rfl
  have hentry : entry ∈ a.selected := by simp [hselected]
  have hfresh : entry.memberId ∉ done.map PortfolioAllocationEntry.memberId := by
    rw [hselected, List.map_append, List.nodup_append] at hnodup
    intro hmem
    exact hnodup.2.2 _ hmem _ (List.mem_map_of_mem (List.mem_cons_self ..)) rfl
  have hbounds := hunits entry hentry
  rw [auditEntry, if_neg hfresh, if_neg (hblocked entry hentry), if_neg (by omega)]
  simp

theorem countThree {xs ys zs : List JsString} (hnodup : (xs ++ ys ++ zs).Nodup) {s : JsString}
    (hs : s ∈ xs ++ ys ++ zs) :
    (if s ∈ xs then 1 else 0) + (if s ∈ ys then 1 else 0) + (if s ∈ zs then 1 else 0) = 1 := by
  have hcount := List.count_eq_one_of_mem hnodup hs
  rw [List.nodup_append, List.nodup_append] at hnodup
  obtain ⟨⟨hxs, hys, -⟩, hzs, -⟩ := hnodup
  rw [List.count_append, List.count_append, List.Nodup.count hxs, List.Nodup.count hys,
    List.Nodup.count hzs] at hcount
  exact hcount

theorem verify_allocationOf (hmembers : (portfolio.members.map PortfolioMember.memberId).Nodup)
    (hfloor : input.policy.floorUnits ≤ input.policy.perMemberCeiling) :
    verifyAllocationInvariants (allocationOf rt input portfolio) portfolio = true := by
  have hperm := partitionIds_perm rt input portfolio
  have hnodup := hperm.nodup_iff.mpr hmembers
  have hranked : ((rankedCandidates rt input portfolio).map RankedCandidate.memberId).Nodup := by
    refine (rankedIds_perm rt input portfolio).nodup_iff.mpr ?_
    exact hmembers.sublist (List.filter_sublist.map _)
  have hbalanced := (grants_spec hranked hfloor).balanced
  have hparts := hnodup
  rw [partitionIds, List.nodup_append, List.nodup_append] at hparts
  obtain ⟨⟨hselected, hzero, hdisjoint⟩, hunfunded, -⟩ := hparts
  have haudit : auditSelected (allocationOf rt input portfolio) =
      ⟨(allocationOf rt input portfolio).selected.map PortfolioAllocationEntry.memberId,
        ((allocationOf rt input portfolio).selected.map
          PortfolioAllocationEntry.allocatedUnits).sum, 0, 0⟩ := by
    apply auditSelected_eq hselected
    · intro entry hentry
      have hunits := List.mem_map_of_mem (f := PortfolioAllocationEntry.allocatedUnits) hentry
      rw [map_selected rt input portfolio _ (fun c => (grants input.policy
        (rankedCandidates rt input portfolio)).units c.memberId) fun c index => rfl] at hunits
      obtain ⟨c, hc, hcunits⟩ := List.mem_map.mp hunits
      rw [← hcunits]
      exact ⟨by simpa using (List.mem_filter.mp hc).2, hbalanced.ceiling c.memberId⟩
    · intro entry hentry hmem
      exact hdisjoint _ (List.mem_map_of_mem hentry) _ hmem rfl
  have hpartition : partitionViolations (allocationOf rt input portfolio) portfolio = 0 := by
    rw [partitionViolations, haudit]
    have hlength := hperm.length_eq
    rw [partitionIds, List.length_append, List.length_append, List.length_map,
      List.length_map] at hlength
    have hcounts : portfolio.members.countP (fun member => appearances
        (allocationOf rt input portfolio)
        ((allocationOf rt input portfolio).selected.map PortfolioAllocationEntry.memberId)
        member.memberId ≠ 1) = 0 := by
      rw [List.countP_eq_zero]
      intro member hmember
      have hone := countThree hnodup (hperm.mem_iff.mpr (List.mem_map_of_mem hmember))
      simpa [appearances] using hone
    simp only [hcounts, hzero.dedup, hunfunded.dedup, List.length_map] at hlength ⊢
    simp [hlength]
  rw [verifyAllocationInvariants, haudit, hpartition, sum_selected, hbalanced.total]
  simp [allocationOf, hbalanced.withinTotal]

/-- What an allocation of a portfolio under a policy keeps. -/
structure SoundAllocation (rt : Runtime) (input : AllocationInput) (portfolio : CampaignPortfolio)
    (a : PortfolioAllocation) : Prop where
  sum : (a.selected.map PortfolioAllocationEntry.allocatedUnits).sum = a.allocatedUnits
  total : a.allocatedUnits ≤ input.policy.totalUnits
  reserve : nonExplorationUnits a ≤ input.policy.totalUnits - input.policy.reservedExplorationUnits
  ceiling : ∀ member ∈ portfolio.members,
    unitsOf a member.memberId ≤ input.policy.perMemberCeiling
  blocked : ∀ member ∈ portfolio.members, portfolioEligibility member ≠ none →
    unitsOf a member.memberId = 0
  partition : (partitionIds a).Nodup ∧
    (partitionIds a).Perm (portfolio.members.map PortfolioMember.memberId)
  /-- One more unit for an eligible member below its ceiling would break the total, or
  the exploration reserve. -/
  conserving : ∀ member ∈ portfolio.members, portfolioEligibility member = none →
    unitsOf a member.memberId < input.policy.perMemberCeiling →
    input.policy.totalUnits < a.allocatedUnits + 1 ∨
      member.input.kind ≠ .exploration ∧
        input.policy.totalUnits - input.policy.reservedExplorationUnits < nonExplorationUnits a + 1
  ranked : (rankedCandidates rt input portfolio).Pairwise fun hi lo =>
    EquallyConstrained hi lo → unitsOf a lo.memberId ≤ unitsOf a hi.memberId

variable (rt input) in
theorem candidate_mem {member : PortfolioMember} (hmember : member ∈ portfolio.members)
    (heligible : portfolioEligibility member = none) :
    candidateOf input member ∈ rankedCandidates rt input portfolio := by
  rw [rankedCandidates, List.mem_insertionSort]
  exact List.mem_map_of_mem (List.mem_filter.mpr ⟨hmember, by simp [heligible]⟩)

theorem unitsOf_blocked (hmembers : (portfolio.members.map PortfolioMember.memberId).Nodup)
    {member : PortfolioMember} (hmember : member ∈ portfolio.members)
    (hblocked : portfolioEligibility member ≠ none) :
    unitsOf (allocationOf rt input portfolio) member.memberId = 0 := by
  have hnone : ((allocationOf rt input portfolio).selected.map fun entry =>
      (entry.memberId, entry.allocatedUnits)).lookup member.memberId = none := by
    rw [List.lookup_eq_none_iff]
    intro pair hpair
    have hid := List.mem_map_of_mem (f := Prod.fst) hpair
    rw [List.map_map] at hid
    have hselected : member.memberId ∉ (allocationOf rt input portfolio).selected.map
        PortfolioAllocationEntry.memberId := by
      intro hmem
      have hnodup := (partitionIds_perm rt input portfolio).nodup_iff.mpr hmembers
      rw [partitionIds, List.nodup_append, List.nodup_append] at hnodup
      refine hnodup.1.2.2 _ hmem _ ?_ rfl
      apply (zeroIds_perm rt portfolio).mem_iff.mpr
      refine List.mem_map_of_mem (List.mem_filter.mpr ⟨hmember, ?_⟩)
      simpa [Option.isSome_iff_ne_none] using hblocked
    have hne : member.memberId ≠ pair.1 := fun heq => hselected (heq ▸ hid)
    simpa using hne
  rw [unitsOf, hnone]
  rfl

theorem soundAllocation (hmembers : (portfolio.members.map PortfolioMember.memberId).Nodup)
    (hfloor : input.policy.floorUnits ≤ input.policy.perMemberCeiling)
    (hreserve : input.policy.reservedExplorationUnits ≤ input.policy.totalUnits) :
    SoundAllocation rt input portfolio (allocationOf rt input portfolio) := by
  have hranked : ((rankedCandidates rt input portfolio).map RankedCandidate.memberId).Nodup := by
    refine (rankedIds_perm rt input portfolio).nodup_iff.mpr ?_
    exact hmembers.sublist (List.filter_sublist.map _)
  have hfilled := grants_spec hranked hfloor
  have hbalanced := hfilled.balanced
  have hallocated : (allocationOf rt input portfolio).allocatedUnits =
      (grants input.policy (rankedCandidates rt input portfolio)).totalAllocated := rfl
  have hnonExploration : nonExplorationUnits (allocationOf rt input portfolio) =
      (grants input.policy (rankedCandidates rt input portfolio)).nonExplorationAllocated :=
    nonExplorationUnits_eq.trans hbalanced.nonExploration
  constructor
  · exact sum_selected.trans hbalanced.total
  · exact hbalanced.withinTotal
  · rw [hnonExploration]
    exact hbalanced.withinReserve
  · intro member hmember
    by_cases heligible : portfolioEligibility member = none
    · have hunits := unitsOf_ranked (candidate_mem rt input hmember heligible)
      exact hunits.trans_le (hbalanced.ceiling member.memberId)
    · rw [unitsOf_blocked hmembers hmember heligible]
      exact Nat.zero_le _
  · intro member hmember hblocked
    exact unitsOf_blocked hmembers hmember hblocked
  · exact ⟨(partitionIds_perm rt input portfolio).nodup_iff.mpr hmembers,
      partitionIds_perm rt input portfolio⟩
  · intro member hmember heligible hbelow
    have hc := candidate_mem rt input hmember heligible
    have hunits : unitsOf (allocationOf rt input portfolio) member.memberId = _ := unitsOf_ranked hc
    rw [hallocated, hnonExploration]
    rcases hfilled.full _ hc with hfull | hempty
    · rw [hunits, hfull] at hbelow
      omega
    · have hkind : (candidateOf input member).kind = member.input.kind := rfl
      rw [available, hkind] at hempty
      by_cases hexploration : member.input.kind = .exploration
      · rw [if_pos hexploration] at hempty
        exact .inl (by omega)
      · rw [if_neg hexploration] at hempty
        rcases Nat.lt_or_ge (grants input.policy (rankedCandidates rt input portfolio)).totalAllocated
          input.policy.totalUnits with hleft | hfull
        · exact .inr ⟨hexploration, by omega⟩
        · exact .inl (by omega)
  · refine List.Pairwise.imp_of_mem ?_ hfilled.ordered
    intro hi lo hhi hlo h hequal
    rw [unitsOf_ranked hhi, unitsOf_ranked hlo]
    exact h hequal

end Verification

section Portfolios

variable {rt : Runtime} {portfolioTextSafe : JsString → Bool} {campaignDigest : JsValue → JsString}
  {approved : List JsString} {inputs inputs' : List PortfolioMemberInput}

theorem buildPortfolio_eq_ok {portfolio : CampaignPortfolio}
    (h : buildPortfolio rt portfolioTextSafe campaignDigest approved inputs = .ok portfolio) :
    (inputs.map (portfolioMemberId campaignDigest)).Nodup ∧
      portfolio.members = sortedById rt (inputs.map (memberOf campaignDigest inputs)) := by
  rw [buildPortfolio] at h
  split at h
  · contradiction
  split at h
  · contradiction
  split at h
  · contradiction
  split at h
  · contradiction
  split at h
  · rename_i hnodup
    obtain rfl := Except.ok.inj h
    exact ⟨hnodup, rfl⟩
  · contradiction

theorem memberIds_nodup {portfolio : CampaignPortfolio}
    (h : buildPortfolio rt portfolioTextSafe campaignDigest approved inputs = .ok portfolio) :
    (portfolio.members.map PortfolioMember.memberId).Nodup := by
  obtain ⟨hnodup, hmembers⟩ := buildPortfolio_eq_ok h
  rw [hmembers]
  have hperm := (List.perm_insertionSort (fun left right : PortfolioMember =>
    rt.localeLe left.memberId right.memberId = true)
    (inputs.map (memberOf campaignDigest inputs))).map PortfolioMember.memberId
  rw [List.map_map] at hperm
  exact hperm.nodup_iff.mpr hnodup

/-- The order of texts is the host's; it is a linear order of the member identities. -/
structure OrdersIds (rt : Runtime) (campaignDigest : JsValue → JsString) : Prop where
  total : ∀ s t, rt.localeLe s t = true ∨ rt.localeLe t s = true
  trans : ∀ s t u, rt.localeLe s t = true → rt.localeLe t u = true → rt.localeLe s u = true
  antisymm : ∀ a b, rt.localeLe (portfolioMemberId campaignDigest a)
      (portfolioMemberId campaignDigest b) = true →
    rt.localeLe (portfolioMemberId campaignDigest b)
      (portfolioMemberId campaignDigest a) = true →
    portfolioMemberId campaignDigest a = portfolioMemberId campaignDigest b

theorem sortedById_perm (horder : OrdersIds rt campaignDigest)
    (hnodup : (inputs.map (portfolioMemberId campaignDigest)).Nodup) (hperm : inputs.Perm inputs') :
    sortedById rt (inputs'.map (memberOf campaignDigest inputs')) =
      sortedById rt (inputs.map (memberOf campaignDigest inputs)) := by
  have hmember : memberOf campaignDigest inputs' = memberOf campaignDigest inputs := by
    funext input
    simp only [memberOf, hperm.countP_eq]
  rw [hmember]
  let r : PortfolioMember → PortfolioMember → Prop := fun left right =>
    rt.localeLe left.memberId right.memberId = true
  have : Std.Total r := ⟨fun left right => horder.total _ _⟩
  have : IsTrans PortfolioMember r := ⟨fun _ _ _ => horder.trans _ _ _⟩
  have hanti : ∀ left right,
      left ∈ sortedById rt (inputs'.map (memberOf campaignDigest inputs)) →
      right ∈ sortedById rt (inputs.map (memberOf campaignDigest inputs)) →
      r left right → r right left → left = right := by
    intro left right hleft hright hle hge
    rw [sortedById, List.mem_insertionSort] at hleft hright
    obtain ⟨a, ha, rfl⟩ := List.mem_map.mp hleft
    obtain ⟨b, hb, rfl⟩ := List.mem_map.mp hright
    have hid := horder.antisymm a b hle hge
    have hsame : a = b := List.inj_on_of_nodup_map hnodup (hperm.mem_iff.mpr ha) hb hid
    rw [hsame]
  apply List.Perm.eq_of_pairwise hanti (List.pairwise_insertionSort r _)
    (List.pairwise_insertionSort r _)
  exact (List.perm_insertionSort r _).trans
    ((hperm.symm.map _).trans (List.perm_insertionSort r _).symm)

theorem buildPortfolio_perm (horder : OrdersIds rt campaignDigest) {portfolio : CampaignPortfolio}
    (h : buildPortfolio rt portfolioTextSafe campaignDigest approved inputs = .ok portfolio)
    (hperm : inputs.Perm inputs') :
    buildPortfolio rt portfolioTextSafe campaignDigest approved inputs' = .ok portfolio := by
  have hnodup := (buildPortfolio_eq_ok h).1
  have hnodup' := (hperm.map (portfolioMemberId campaignDigest)).nodup_iff.mp hnodup
  rw [buildPortfolio] at h ⊢
  split at h
  · contradiction
  split at h
  · contradiction
  split at h
  · contradiction
  rename_i hempty hsafe hunique
  rw [if_neg hempty, if_neg hsafe, if_neg hunique]
  have hcheck : forEach (checkMemberInput portfolioTextSafe approved) inputs = .ok () := by
    split at h
    · contradiction
    · assumption
  have hcheck' : forEach (checkMemberInput portfolioTextSafe approved) inputs' = .ok () := by
    rw [forEach_eq_ok] at hcheck ⊢
    exact fun input hinput => hcheck input (hperm.mem_iff.mpr hinput)
  rw [hcheck] at h
  rw [hcheck']
  simp only [if_pos hnodup', sortedById_perm horder hnodup hperm]
  simpa only [if_pos hnodup] using h

theorem policy_bounds {policy : PortfolioBudgetPolicy}
    (h : validatePortfolioBudgetPolicy policy = .ok ()) :
    policy.floorUnits ≤ policy.perMemberCeiling ∧
      policy.reservedExplorationUnits ≤ policy.totalUnits := by
  rw [validatePortfolioBudgetPolicy, bind_eq_ok] at h
  obtain ⟨_, -, h⟩ := h
  rw [bind_eq_ok] at h
  obtain ⟨_, -, h⟩ := h
  rw [bind_eq_ok] at h
  obtain ⟨_, hfloor, hreserve⟩ := h
  exact ⟨Nat.not_lt.mp (throwIf_eq_ok.mp hfloor), Nat.not_lt.mp (throwIf_eq_ok.mp hreserve)⟩

def waitingInput : PortfolioMemberInput :=
  { targetId := "rates".toList
    journeyId := none
    kind := .api
    semanticScope := "api:rates".toList
    currentness := .current
    sourceSha := none
    evidenceDigest := none
    derivationVersion := none
    contractVersion := none
    depthClass := .none
    replayable := true
    executionCostClass := .low
    starvationAgeBuckets := 2
    historicalYield := ⟨0, 0, 0, 0, 0, 0, 0, 0⟩
    ownerBlockedOperations := []
    phaseFrozen := false }

def steadyDigest (_ : JsValue) : JsString := List.replicate 24 'a'

def waitingPortfolio : CampaignPortfolio where
  approvedTargets := ["rates".toList]
  members := [memberOf steadyDigest [waitingInput] waitingInput]
  portfolioDigest := "pf:sha256:".toList ++ List.replicate 24 'a'

def waitingAllocation : AllocationInput where
  policy := ⟨portfolioAllocationVersion, 5, 3, 1, 2, 1, 2⟩
  previousProvenance := fun _ => none
  overlay := ⟨none, none⟩

theorem waitingPortfolio_built : buildPortfolio plainRuntime (fun _ => true) steadyDigest
    ["rates".toList] [waitingInput] = .ok waitingPortfolio := rfl

end Portfolios

end NightWatch.Portfolio.AllocationRuns
