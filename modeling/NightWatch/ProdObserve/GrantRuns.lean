import NightWatch.Lib.Machine
import NightWatch.ProdObserve.AdmissionChain

/-!
Histories of the grant registry. Every call that reaches it, whether made by a caller,
by a probe or by an evaluation that allows, is one entry of a flat list of calls; what an
evaluation may conclude is read off the calls before it.
-/

namespace NightWatch.ProdObserve.GrantRuns

open Lib.JsText Lib.JsData Lib.JsRuntime Lib.Machine ProdObserve.Types ProdObserve.Budget
  ProdObserve.Authorization ProdObserve.Authorization.GrantRegistry ProdObserve.RunGate
  ProdObserve.AdmissionChain

abbrev EvaluationResult := Except JsString ProductionAdmissionOutcome

inductive AdmissionEvent where
  | issue (request : IssueGrantRequest) (random : RandomHex)
  | revoke (candidate : GrantCandidate)
  | consume (candidate : GrantCandidate)
  | evaluate (input : ProductionAdmissionInput) (ledger : ProductionBudgetLedger)
      (result : EvaluationResult)

def reachesPredispatch : EvaluationResult → Bool
  | .error _ => false
  | .ok outcome => outcome.outcomes.getLast? != some (skipped .killSwitchPredispatch)

def isAllowed : EvaluationResult → Bool
  | .error _ => false
  | .ok outcome => outcome.allowed

def probeCalls (input : ProductionAdmissionInput) (result : EvaluationResult) : List RegistryCall :=
  input.killSwitchProbe.entry.calls ++
    if reachesPredispatch result then input.killSwitchProbe.predispatch.calls else []

def AdmissionEvent.calls : AdmissionEvent → List RegistryCall
  | .issue request random => [.issue request random]
  | .revoke candidate => [.revoke candidate]
  | .consume candidate => [.consume candidate]
  | .evaluate input _ result =>
      probeCalls input result ++ if isAllowed result then [.consume input.grant] else []

variable (rt : Runtime) (digest : JsString → JsString)

/-- The ledger of an evaluation is the caller's, in whatever state it is. -/
inductive Step (registry : GrantRegistry) : AdmissionEvent → GrantRegistry → Prop
  | issue (request : IssueGrantRequest) (random : RandomHex) :
      Step registry (.issue request random) (registry.perform (.issue request random))
  | revoke (candidate : GrantCandidate) :
      Step registry (.revoke candidate) (registry.revokeProdObserveGrant candidate)
  | consume (candidate : GrantCandidate) :
      Step registry (.consume candidate) (registry.consumeProdObserveGrant candidate).2
  | evaluate (input : ProductionAdmissionInput) (ledger : ProductionBudgetLedger) :
      Step registry
        (.evaluate input ledger
          (evaluateProductionAdmission rt digest input ⟨registry, ledger⟩).1)
        (evaluateProductionAdmission rt digest input ⟨registry, ledger⟩).2.registry

def admissions : System GrantRegistry AdmissionEvent where
  start := .empty
  step := Step rt digest

def callsBefore (history : List AdmissionEvent) (i : Nat) : List RegistryCall :=
  (history.take i).flatMap AdmissionEvent.calls

section Calls

variable {rt digest} {input : ProductionAdmissionInput} {world : AdmissionWorld}

theorem released_registry (progress : Progress) :
    progress.released.registry = progress.world.registry := by
  unfold Progress.released
  cases progress.reservation with
  | none => rfl
  | some reservation => rfl

variable {after : GrantRegistry} {gate : ProductionAdmissionGate} {code : ProductionDenialCode}
  {registry : GrantRegistry}

theorem consume_perform {candidate : GrantCandidate} {code : Option ProductionDenialCode}
    (h : registry.consumeProdObserveGrant candidate = (code, after)) :
    registry.perform (.consume candidate) = after :=
  congrArg Prod.snd h

theorem registry_denied
    {progress : Progress} (hcheck : gateCheck rt input gate (progressBefore input world gate) =
      .ok (some code, progress)) :
    progress.world.registry = world.registry.performAll (input.killSwitchProbe.entry.calls ++
      if gate = .killSwitchPredispatch then input.killSwitchProbe.predispatch.calls else []) := by
  by_cases hentry : gate = .killSwitchEntry
  · subst hentry
    rw [gateCheck] at hcheck
    rw [← (Prod.mk.inj (Except.ok.inj hcheck)).2, if_neg (by decide), List.append_nil]
    rfl
  · by_cases hpredispatch : gate = .killSwitchPredispatch
    · subst hpredispatch
      rw [gateCheck] at hcheck
      rw [← (Prod.mk.inj (Except.ok.inj hcheck)).2, if_pos rfl, performAll_append]
      rfl
    · have hsame : progress = progressBefore input world gate := by
        by_cases hbudget : gate = .budgetReservation
        · subst hbudget
          rw [gateCheck] at hcheck
          split at hcheck
          · contradiction
          · exact (Prod.mk.inj (Except.ok.inj hcheck)).2.symm
          · simp at hcheck
        · exact gateCheck_quiet ⟨hentry, hbudget, hpredispatch⟩ hcheck
      rw [hsame, if_neg hpredispatch, List.append_nil]
      cases gate with
      | killSwitchEntry => contradiction
      | _ => rfl

theorem reachesPredispatch_denied {before after : List ProductionAdmissionGate}
    {reservation : Option BudgetReservation}
    (hgates : productionAdmissionGates = before ++ gate :: after) :
    reachesPredispatch (.ok (decision rt digest
      (before.map passed ++ ⟨gate, .deny, some code⟩ :: after.map skipped) false (some code)
      (some gate) reservation)) = decide (gate = .killSwitchPredispatch) := by
  have hlast := congrArg List.getLast? hgates
  rw [List.getLast?_append_cons] at hlast
  show (List.getLast? (before.map passed ++ _ :: after.map skipped) != _) = _
  rw [List.getLast?_append_cons]
  cases after with
  | nil =>
      have hgate : gate = .killSwitchPredispatch := (Option.some.inj hlast).symm
      simp [hgate, skipped]
  | cons other rest =>
      have hnot : gate ≠ .killSwitchPredispatch := by
        rintro rfl
        have hnodup : (before ++ .killSwitchPredispatch :: other :: rest).Nodup :=
          hgates ▸ (by decide)
        have hmem : ProductionAdmissionGate.killSwitchPredispatch ∈ other :: rest :=
          List.mem_of_getLast? ((List.getLast?_cons_cons ..).symm.trans hlast.symm)
        exact (List.nodup_cons.mp (List.nodup_append.mp hnodup).2.1).1 hmem
      rw [List.getLast?_cons_cons] at hlast
      rw [List.map_cons, List.getLast?_cons_cons, ← List.map_cons, List.getLast?_map, ← hlast]
      simp [hnot, productionAdmissionGates]

theorem registry_evaluateProductionAdmission (rt : Runtime) (digest : JsString → JsString)
    (input : ProductionAdmissionInput) (world : AdmissionWorld) :
    (evaluateProductionAdmission rt digest input world).2.registry =
      world.registry.performAll (AdmissionEvent.evaluate input world.ledger
        (evaluateProductionAdmission rt digest input world).1).calls := by
  have hevaluates := evaluates_evaluateProductionAdmission rt digest input world
  generalize evaluateProductionAdmission rt digest input world = evaluated at hevaluates ⊢
  obtain ⟨result, final⟩ := evaluated
  dsimp only at hevaluates ⊢
  cases hevaluates with
  | @threw gate thrown hcheck =>
      have hworld : thrown.world = entryWorld input world := by
        unfold gateCheck at hcheck
        split at hcheck
        · contradiction
        · contradiction
        · split at hcheck
          · rw [← Except.error.inj hcheck]
            rfl
          · contradiction
          · contradiction
        · contradiction
        · split at hcheck
          · rename_i hquiet message hfact
            rw [← Except.error.inj hcheck]
            cases gate with
            | breakerState => simp [factDenial] at hfact
            | killSwitchEntry => contradiction
            | killSwitchPredispatch => contradiction
            | _ => rfl
          · contradiction
      rw [hworld]
      simp [AdmissionEvent.calls, probeCalls, reachesPredispatch, isAllowed, entryWorld,
        AdmissionWorld.probed]
  | @denied before after gate code progress hgates hbefore hcheck =>
      rw [released_registry, registry_denied hcheck]
      simp only [AdmissionEvent.calls, probeCalls, reachesPredispatch_denied hgates,
        decide_eq_true_eq]
      simp [isAllowed, decision]
  | @overtaken code registry hpasses hspent =>
      rw [released_registry, fullProgress_registry]
      simp [AdmissionEvent.calls, probeCalls, reachesPredispatch, isAllowed, decision, passed,
        skipped, productionAdmissionGates]
  | @allowed registry hpasses hconsumed =>
      have hregistry := consume_perform hconsumed
      rw [fullProgress_registry] at hregistry
      simp [AdmissionEvent.calls, probeCalls, reachesPredispatch, isAllowed, decision, passed,
        skipped, productionAdmissionGates, hregistry]

variable {event : AdmissionEvent}

theorem step_calls
    (h : Step rt digest registry event after) : after = registry.performAll event.calls := by
  cases h with
  | issue request random => rfl
  | revoke candidate => rfl
  | consume candidate => rfl
  | evaluate input ledger =>
      exact registry_evaluateProductionAdmission rt digest input ⟨registry, ledger⟩

variable {history : List AdmissionEvent}

theorem registry_of_run (hrun : Run (admissions rt digest) history registry) :
    registry = GrantRegistry.empty.performAll (history.flatMap AdmissionEvent.calls) := by
  induction hrun with
  | start => rfl
  | step hrun hstep ih =>
      rw [List.flatMap_append, performAll_append, ← ih, step_calls hstep]
      simp

theorem registry_at (hrun : Run (admissions rt digest) history registry) {i : Nat}
    (hi : history[i]? = some event) :
    ∃ after, Step rt digest (GrantRegistry.empty.performAll (callsBefore history i)) event after := by
  obtain ⟨before, after, hbefore, hstep⟩ := hrun.at hi
  rw [registry_of_run hbefore] at hstep
  exact ⟨after, hstep⟩

theorem validated_of_owner (h : ownerAuthorizationDenial input registry = none) :
    ∃ object, registry.registeredEntry input.grant = some ⟨object, .issued⟩ ∧
      object.grant.campaignId = input.campaignId ∧ input.nowMs.lt object.grant.notBeforeMs = false ∧
      input.nowMs.ge object.grant.expiresAtMs = false := by
  unfold ownerAuthorizationDenial validateProdObserveGrant at h
  cases hentry : registry.registeredEntry input.grant with
  | none => simp [hentry] at h
  | some entry =>
      obtain ⟨object, state⟩ := entry
      rw [hentry] at h
      cases state with
      | consumed => simp at h
      | revoked => simp at h
      | issued =>
          refine ⟨object, rfl, ?_⟩
          by_cases hcampaign : object.grant.campaignId = input.campaignId
          · refine ⟨hcampaign, ?_⟩
            by_cases hexpired : (input.nowMs.lt object.grant.notBeforeMs ||
                input.nowMs.ge object.grant.expiresAtMs) = true
            · simp [hcampaign, hexpired] at h
            · simpa using hexpired
          · simp [hcampaign] at h

theorem allowed_evaluation {outcome : ProductionAdmissionOutcome}
    (hresult : (evaluateProductionAdmission rt digest input world).1 = .ok outcome)
    (hallowed : outcome.allowed = true) : PassesEveryGate rt input world ∧ StillIssued input world ∧
      reachesPredispatch (.ok outcome) = true := by
  have hevaluates := evaluates_evaluateProductionAdmission rt digest input world
  generalize evaluateProductionAdmission rt digest input world = evaluated at hevaluates hresult
  obtain ⟨result, final⟩ := evaluated
  dsimp only at hevaluates hresult
  subst hresult
  cases hevaluates with
  | denied hgates hbefore hcheck => contradiction
  | overtaken hpasses hspent => contradiction
  | allowed hpasses hconsumed =>
      refine ⟨hpasses, ?_, ?_⟩
      · rw [StillIssued, ← fullProgress_registry, ← consume_fst_eq_none, hconsumed]
      · simp [reachesPredispatch, decision, passed, skipped, productionAdmissionGates]

theorem owner_of_passes (h : PassesEveryGate rt input world) : ownerAuthorizationDenial input
      (world.registry.performAll input.killSwitchProbe.entry.calls) = none := by
  obtain ⟨after, hcheck⟩ := h .ownerAuthorization
  rw [gateCheck] at hcheck
  exact (Prod.mk.inj (Except.ok.inj hcheck)).1

end Calls

/-- The grant is in its window. -/
def InWindow (grant : ProdObserveGrant) (nowMs : JsNumber) : Prop :=
  nowMs.ge grant.notBeforeMs = true ∧ nowMs.lt grant.expiresAtMs = true

theorem inWindow_iff {grant : ProdObserveGrant} {nowMs : JsNumber}
    (hfrom : grant.notBeforeMs.isFinite = true) (hto : grant.expiresAtMs.isFinite = true)
    (hlt : nowMs.lt grant.notBeforeMs = false) (hge : nowMs.ge grant.expiresAtMs = false) :
    InWindow grant nowMs ↔ nowMs ≠ .nan := by
  unfold InWindow
  generalize grant.notBeforeMs = notBefore at *
  generalize grant.expiresAtMs = expires at *
  cases notBefore with
  | finite a =>
      cases expires with
      | finite b =>
          cases nowMs with
          | nan => simp [JsNumber.ge]
          | negInfinity => contradiction
          | posInfinity => contradiction
          | finite q => simpa [JsNumber.ge, hlt] using hge
      | _ => contradiction
  | _ => contradiction

variable {object : GrantObject} {registry : GrantRegistry}

theorem window_of_issue {after : GrantRegistry} {request : IssueGrantRequest}
    {random : RandomHex} (h : registry.issueProdObserveGrant request random = .ok (object, after)) :
    object.grant.notBeforeMs.isFinite = true ∧ object.grant.expiresAtMs.isFinite = true := by
  rw [(issue_eq_ok h).1]
  unfold issueProdObserveGrant at h
  split_ifs at h with hcampaign hfinite hordered
  simpa [mintedGrant] using hfinite

/-- The evaluation at a position, with the outcome it returned. -/
def EvaluationAt (history : List AdmissionEvent) (i : Nat) (input : ProductionAdmissionInput)
    (result : EvaluationResult) : Prop :=
  ∃ ledger, history[i]? = some (.evaluate input ledger result)

/-- The calls made before the consumption of the evaluation at a position, its own
probe's among them. -/
def callsUpTo (history : List AdmissionEvent) (i : Nat) (input : ProductionAdmissionInput) :
    List RegistryCall :=
  callsBefore history i ++ input.killSwitchProbe.entry.calls ++
    input.killSwitchProbe.predispatch.calls

section Runs

variable {rt : Runtime} {digest : JsString → JsString} {history : List AdmissionEvent}
  {registry : GrantRegistry} {i : Nat} {input : ProductionAdmissionInput}
  {outcome : ProductionAdmissionOutcome}

theorem allowed_at (hrun : Run (admissions rt digest) history registry)
    (hi : EvaluationAt history i input (.ok outcome)) (hallowed : outcome.allowed = true) :
    reachesPredispatch (.ok outcome) = true ∧ ∃ object,
      (GrantRegistry.empty.performAll (callsUpTo history i input)).registeredEntry input.grant =
        some ⟨object, .issued⟩ ∧
      input.grant = .minted object ∧ object.grant.campaignId = input.campaignId ∧
      input.nowMs.lt object.grant.notBeforeMs = false ∧
      input.nowMs.ge object.grant.expiresAtMs = false := by
  obtain ⟨ledger, hi⟩ := hi
  obtain ⟨after, hstep⟩ := registry_at hrun hi
  generalize hresult : (Except.ok outcome : EvaluationResult) = result at hstep
  cases hstep with
  | evaluate =>
      rw [← hresult]
      obtain ⟨hpasses, hissued, hreaches⟩ := allowed_evaluation hresult.symm hallowed
      obtain ⟨object, hentry, hcampaign, hlt, hge⟩ := validated_of_owner (owner_of_passes hpasses)
      have hobject := (registeredEntry_eq_some.mp hentry).1
      refine ⟨hreaches, object, ?_, hobject, hcampaign, hlt, hge⟩
      rw [callsUpTo, performAll_append, performAll_append]
      obtain ⟨entry, hlater, hstate⟩ := Option.map_eq_some_iff.mp hissued
      obtain ⟨object', state⟩ := entry
      cases hstate
      have hsame : object = object' := GrantCandidate.minted.inj
        (hobject.symm.trans (registeredEntry_eq_some.mp hlater).1)
      rw [hsame]
      exact hlater

variable {object : GrantObject}

theorem unspent_of_registered {calls : List RegistryCall} {candidate : GrantCandidate}
    (h : (GrantRegistry.empty.performAll calls).registeredEntry candidate =
      some ⟨object, .issued⟩) : UnspentAfter calls object ∧
      object.identity < (GrantRegistry.empty.performAll calls).objects := by
  obtain ⟨-, -, hlookup⟩ := registeredEntry_eq_some.mp h
  have hheld := held_performAll calls
  exact ⟨hheld.unspent _ _ hlookup rfl, (hheld.known _ _ hlookup).1⟩

theorem not_unspent_of_spends {front rest : List RegistryCall} {call : RegistryCall}
    (hspends : call.Spends object)
    (hknown : object.identity < (GrantRegistry.empty.performAll front).objects) :
    ¬ UnspentAfter (front ++ call :: rest) object := by
  rintro ⟨past, request, random, after, tail, hsplit, hissue, htail⟩
  have hidentity : object.identity = (GrantRegistry.empty.performAll past).objects := by
    rw [(issue_eq_ok hissue).1]
  rcases List.append_eq_append_iff.mp hsplit with ⟨more, hpast, -⟩ | ⟨more, -, htails⟩
  · have hle := objects_le_performAll (GrantRegistry.empty.performAll front) more
    rw [← performAll_append, ← hpast] at hle
    omega
  · cases more with
    | nil =>
        have hcall := (List.cons.inj htails).1
        rcases hspends with rfl | rfl
        · contradiction
        · contradiction
    | cons first more =>
        have hrest := (List.cons.inj htails).2
        apply htail call _ hspends
        rw [hrest]
        exact List.mem_append_right _ List.mem_cons_self

variable {j : Nat}

theorem callsBefore_of_lt {event : AdmissionEvent} (hij : i < j) (hi : history[i]? = some event) :
    ∃ rest, callsBefore history j = callsBefore history i ++ event.calls ++ rest := by
  obtain ⟨hlt, hget⟩ := List.getElem?_eq_some_iff.mp hi
  have hsplit : history.take j = history.take i ++ event :: (history.drop (i + 1)).take (j - i - 1) := by
    have hj : j = i + ((j - i - 1) + 1) := by omega
    conv_lhs => rw [hj]
    rw [List.take_add, List.drop_eq_getElem_cons hlt, hget, List.take_succ_cons]
  refine ⟨((history.drop (i + 1)).take (j - i - 1)).flatMap AdmissionEvent.calls, ?_⟩
  rw [callsBefore, hsplit, List.flatMap_append, List.flatMap_cons, callsBefore, List.append_assoc]

theorem callsUpTo_of_allowed (later : ProductionAdmissionInput) (hij : i < j)
    (hi : EvaluationAt history i input (.ok outcome)) (hallowed : outcome.allowed = true)
    (hreaches : reachesPredispatch (.ok outcome) = true) : ∃ rest, callsUpTo history j later =
      callsUpTo history i input ++ .consume input.grant :: rest := by
  obtain ⟨ledger, hi⟩ := hi
  obtain ⟨rest, hrest⟩ := callsBefore_of_lt hij hi
  have hcalls : (AdmissionEvent.evaluate input ledger (.ok outcome)).calls =
      input.killSwitchProbe.entry.calls ++ input.killSwitchProbe.predispatch.calls ++
        [.consume input.grant] := by
    rw [AdmissionEvent.calls, probeCalls, if_pos hreaches]
    exact congrArg _ (if_pos hallowed)
  refine ⟨rest ++ later.killSwitchProbe.entry.calls ++ later.killSwitchProbe.predispatch.calls, ?_⟩
  rw [callsUpTo, hrest, hcalls, callsUpTo]
  simp

theorem not_allowed_twice (hrun : Run (admissions rt digest) history registry)
    {later : ProductionAdmissionInput} {outcome' : ProductionAdmissionOutcome} (hij : i < j)
    (hi : EvaluationAt history i input (.ok outcome)) (hallowed : outcome.allowed = true)
    (hj : EvaluationAt history j later (.ok outcome')) (hallowed' : outcome'.allowed = true) :
    input.grant ≠ later.grant := by
  intro hgrant
  obtain ⟨hreaches, object, hentry, hobject, -⟩ := allowed_at hrun hi hallowed
  obtain ⟨-, object', hentry', hobject', -⟩ := allowed_at hrun hj hallowed'
  have hsame : object = object' :=
    GrantCandidate.minted.inj (hobject.symm.trans (hgrant.trans hobject'))
  obtain ⟨rest, hcalls⟩ := callsUpTo_of_allowed later hij hi hallowed hreaches
  have hunspent := (unspent_of_registered hentry').1
  rw [hcalls, ← hsame, hobject] at hunspent
  exact not_unspent_of_spends (Or.inr rfl) (unspent_of_registered hentry).2 hunspent

end Runs

/-- The call could take the grant out of its entry: it spends the grant, or mints another
one under its id. -/
def Touches (call : RegistryCall) (object : GrantObject) : Prop :=
  call.Spends object ∨ ∃ request random, call = .issue request random ∧
    (mintedGrant request random).grantId = object.grant.grantId

theorem lookup_perform {call : RegistryCall}
    (hregistered : registry.registeredEntry (.minted object) = some ⟨object, .issued⟩)
    (htouches : ¬ Touches call object) :
    (registry.perform call).registeredEntry (.minted object) = some ⟨object, .issued⟩ := by
  obtain ⟨-, hform, hlookup⟩ := registeredEntry_eq_some.mp hregistered
  have hperforms := performs_perform registry call
  generalize registry.perform call = after at hperforms ⊢
  cases hperforms with
  | @minted request random other after hissue =>
      have hkey : object.grant.grantId ≠ other.grant.grantId := by
        intro heq
        apply htouches
        refine Or.inr ⟨request, random, rfl, ?_⟩
        rw [heq, (issue_eq_ok hissue).1]
      rw [(issue_eq_ok hissue).2, registeredEntry_eq_some]
      refine ⟨rfl, hform, ?_⟩
      rw [lookup_mapSet, if_neg hkey]
      exact hlookup
  | @spent _ other state hspends hentry hstate =>
      obtain ⟨-, -, hother⟩ := registeredEntry_eq_some.mp hentry
      have hkey : object.grant.grantId ≠ other.grant.grantId := by
        intro heq
        dsimp only at hother hlookup
        rw [← heq, hlookup] at hother
        have hsame : object = other := congrArg RegistryEntry.object (Option.some.inj hother)
        exact htouches (Or.inl (hsame ▸ hspends))
      rw [setState, registeredEntry_eq_some]
      refine ⟨rfl, hform, ?_⟩
      rw [lookup_mapSet, if_neg hkey]
      exact hlookup
  | kept hidle => exact hregistered

variable {calls : List RegistryCall}

theorem lookup_performAll
    (hregistered : registry.registeredEntry (.minted object) = some ⟨object, .issued⟩)
    (htouches : ∀ call ∈ calls, ¬ Touches call object) :
    (registry.performAll calls).registeredEntry (.minted object) = some ⟨object, .issued⟩ := by
  induction calls generalizing registry with
  | nil => exact hregistered
  | cons call rest ih =>
      apply ih (lookup_perform hregistered (htouches call List.mem_cons_self))
      intro later hlater
      exact htouches later (List.mem_cons_of_mem _ hlater)

/-- Every grant is allowed at most once, never after a call that revoked or consumed it,
and an evaluation that does not allow leaves every grant issued that its probe leaves alone. -/
theorem grants_are_one_shot (rt : Runtime) (digest : JsString → JsString)
    {history : List AdmissionEvent} {registry : GrantRegistry}
    (hrun : Run (admissions rt digest) history registry) :
    (∀ i j input later outcome outcome', EvaluationAt history i input (.ok outcome) →
        outcome.allowed = true → EvaluationAt history j later (.ok outcome') →
        outcome'.allowed = true → input.grant = later.grant → i = j) ∧
      (∀ i input outcome, EvaluationAt history i input (.ok outcome) → outcome.allowed = true →
        ∃ object, input.grant = .minted object ∧ UnspentAfter (callsUpTo history i input) object) ∧
      ∀ i input ledger result before after, history[i]? = some (.evaluate input ledger result) →
        Run (admissions rt digest) (history.take i) before →
        Step rt digest before (.evaluate input ledger result) after → isAllowed result = false →
        after = before.performAll (probeCalls input result) ∧
          ∀ object, before.grantLifecycleState (.minted object) = some .issued →
            (∀ call ∈ probeCalls input result, ¬ Touches call object) →
            after.grantLifecycleState (.minted object) = some .issued := by
  refine ⟨?_, ?_, ?_⟩
  · intro i j input later outcome outcome' hi hallowed hj hallowed' hgrant
    rcases Nat.lt_trichotomy i j with hlt | heq | hgt
    · exact absurd hgrant (not_allowed_twice hrun hlt hi hallowed hj hallowed')
    · exact heq
    · exact absurd hgrant.symm (not_allowed_twice hrun hgt hj hallowed' hi hallowed)
  · intro i input outcome hi hallowed
    obtain ⟨-, object, hentry, hobject, -⟩ := allowed_at hrun hi hallowed
    exact ⟨object, hobject, (unspent_of_registered hentry).1⟩
  · intro i input ledger result before after _ _ hstep hdenied
    have hafter : after = before.performAll (probeCalls input result) := by
      rw [step_calls hstep]
      simp [AdmissionEvent.calls, hdenied]
    refine ⟨hafter, ?_⟩
    intro object hissued htouches
    obtain ⟨entry, hentry, hstate⟩ := Option.map_eq_some_iff.mp hissued
    obtain ⟨other, state⟩ := entry
    cases hstate
    have hsame := registeredEntry_minted hentry
    dsimp only at hsame
    rw [hsame] at hentry
    rw [hafter, grantLifecycleState, lookup_performAll hentry htouches]
    rfl

theorem exists_allowed (input : ProductionAdmissionInput) (world : AdmissionWorld)
    (h : isAllowed (evaluateProductionAdmission plainRuntime id input world).1 = true) :
    ∃ outcome, (evaluateProductionAdmission plainRuntime id input world).1 = .ok outcome ∧
      outcome.allowed = true := by
  cases hresult : (evaluateProductionAdmission plainRuntime id input world).1 with
  | error message =>
      rw [hresult] at h
      contradiction
  | ok outcome =>
      rw [hresult] at h
      exact ⟨outcome, rfl, h⟩

def sampleHistory (input : ProductionAdmissionInput) (result : EvaluationResult) :
    List AdmissionEvent :=
  [.issue sampleRequest zeroRandom, .evaluate input sampleWorld.ledger result]

theorem run_sampleHistory {input : ProductionAdmissionInput} {result : EvaluationResult}
    (h : (evaluateProductionAdmission plainRuntime id input sampleWorld).1 = result) :
    Run (admissions plainRuntime id) (sampleHistory input result)
      (evaluateProductionAdmission plainRuntime id input sampleWorld).2.registry := by
  have hissue : Run (admissions plainRuntime id) [.issue sampleRequest zeroRandom]
      sampleWorld.registry :=
    Run.step .start (.issue sampleRequest zeroRandom)
  subst h
  exact hissue.step (.evaluate input sampleWorld.ledger)

theorem sample_one_shot : ∃ history outcome,
    EvaluationAt history 1 sampleInput (.ok outcome) ∧ outcome.allowed = true ∧
      ∃ object, sampleInput.grant = .minted object ∧
        UnspentAfter (callsUpTo history 1 sampleInput) object := by
  obtain ⟨outcome, hresult, hallowed⟩ := exists_allowed sampleInput sampleWorld
    (by decide +kernel)
  have hrun := run_sampleHistory hresult
  have hat : EvaluationAt (sampleHistory sampleInput (.ok outcome)) 1 sampleInput (.ok outcome) :=
    ⟨sampleWorld.ledger, rfl⟩
  exact ⟨_, outcome, hat, hallowed,
    (grants_are_one_shot plainRuntime id hrun).2.1 1 sampleInput outcome hat hallowed⟩

/-- What an allow must have established: its grant was minted, is neither consumed nor revoked, is
in its window, and is scoped to the input's campaign and stage. -/
structure Authorized (history : List AdmissionEvent) (i : Nat) (input : ProductionAdmissionInput)
    (object : GrantObject) : Prop where
  presented : input.grant = .minted object
  unspent : UnspentAfter (callsUpTo history i input) object
  window : InWindow object.grant input.nowMs
  campaign : object.grant.campaignId = input.campaignId
  stage : object.grant.stage = input.stage

/-- What the kernel does not compare: the stage of the grant, and whether there is a time
at all. -/
def StageAndTimeGiven (input : ProductionAdmissionInput) : Prop :=
  (∃ object, input.grant = .minted object ∧ object.grant.stage = input.stage) ∧ input.nowMs ≠ .nan

theorem window_of_unspent (h : UnspentAfter calls object) :
    object.grant.notBeforeMs.isFinite = true ∧ object.grant.expiresAtMs.isFinite = true := by
  obtain ⟨past, request, random, after, rest, -, hissue, -⟩ := h
  exact window_of_issue hissue

/-- In every history an allow is properly authorized exactly when the stages agree and
the time is a number. -/
theorem authorized_iff (rt : Runtime) (digest : JsString → JsString)
    {history : List AdmissionEvent} {registry : GrantRegistry}
    (hrun : Run (admissions rt digest) history registry) {i : Nat}
    {input : ProductionAdmissionInput} {outcome : ProductionAdmissionOutcome}
    (hi : EvaluationAt history i input (.ok outcome)) (hallowed : outcome.allowed = true) :
    (∃ object, Authorized history i input object) ↔ StageAndTimeGiven input := by
  obtain ⟨-, object, hentry, hobject, hcampaign, hlt, hge⟩ := allowed_at hrun hi hallowed
  have hunspent := (unspent_of_registered hentry).1
  obtain ⟨hfrom, hto⟩ := window_of_unspent hunspent
  have hwindow := inWindow_iff hfrom hto hlt hge
  constructor
  · rintro ⟨other, hauthorized⟩
    have hsame : object = other :=
      GrantCandidate.minted.inj (hobject.symm.trans hauthorized.presented)
    refine ⟨⟨other, hauthorized.presented, hauthorized.stage⟩, ?_⟩
    exact hwindow.mp (hsame ▸ hauthorized.window)
  · rintro ⟨⟨other, hother, hstage⟩, hnan⟩
    have hsame : object = other := GrantCandidate.minted.inj (hobject.symm.trans hother)
    exact ⟨object, hobject, hunspent, hwindow.mpr hnan, hcampaign, hsame ▸ hstage⟩

theorem sample_authorized : ∃ history outcome,
    EvaluationAt history 1 sampleInput (.ok outcome) ∧ outcome.allowed = true ∧
      ∃ object, Authorized history 1 sampleInput object := by
  obtain ⟨outcome, hresult, hallowed⟩ := exists_allowed sampleInput sampleWorld
    (by decide +kernel)
  have hat : EvaluationAt (sampleHistory sampleInput (.ok outcome)) 1 sampleInput (.ok outcome) :=
    ⟨sampleWorld.ledger, rfl⟩
  refine ⟨_, outcome, hat, hallowed, ?_⟩
  apply (authorized_iff plainRuntime id (run_sampleHistory hresult) hat hallowed).mpr
  exact ⟨⟨sampleGrant, rfl, rfl⟩, JsNumber.noConfusion⟩

def otherStageInput : ProductionAdmissionInput := { sampleInput with stage := .p4 }

theorem other_stage_allowed : ∃ history registry outcome,
    Run (admissions plainRuntime id) history registry ∧
      EvaluationAt history 1 otherStageInput (.ok outcome) ∧ outcome.allowed = true ∧
      ¬ ∃ object, Authorized history 1 otherStageInput object := by
  obtain ⟨outcome, hresult, hallowed⟩ := exists_allowed otherStageInput sampleWorld
    (by decide +kernel)
  refine ⟨_, _, outcome, run_sampleHistory hresult, ⟨sampleWorld.ledger, rfl⟩, hallowed, ?_⟩
  rintro ⟨object, hauthorized⟩
  have hobject : sampleGrant = object := GrantCandidate.minted.inj hauthorized.presented
  have hstage := hauthorized.stage
  rw [← hobject] at hstage
  exact absurd hstage (by decide)

end NightWatch.ProdObserve.GrantRuns
