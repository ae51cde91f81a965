import NightWatch.ProdObserve.RunGate

/-!
Everything one evaluation can do, stated once: it is thrown out by a gate, denied by the
first gate that does not pass, overtaken by someone else who spends the grant, or allowed.
-/

namespace NightWatch.ProdObserve.AdmissionChain

open Lib.JsText Lib.JsData Lib.JsRuntime Lib.GateChain ProdObserve.Types ProdObserve.Budget
  ProdObserve.Authorization ProdObserve.RunGate

def gateOutcome : ProductionAdmissionGate × Verdict ProductionDenialCode → GateOutcome
  | (gate, .pass) => ⟨gate, .pass, none⟩
  | (gate, .deny code) => ⟨gate, .deny, some code⟩
  | (gate, .notEvaluated) => ⟨gate, .notEvaluated, none⟩

def passed (gate : ProductionAdmissionGate) : GateOutcome := ⟨gate, .pass, none⟩

def skipped (gate : ProductionAdmissionGate) : GateOutcome := ⟨gate, .notEvaluated, none⟩

section Codes

variable {rt : Runtime} {input : ProductionAdmissionInput} {gate : ProductionAdmissionGate}
  {code : ProductionDenialCode}

theorem denyUnless_eq_some {condition : Bool} {expected : ProductionDenialCode}
    (h : denyUnless condition expected = some code) : code = expected := by
  unfold denyUnless at h
  split_ifs at h
  exact (Option.some.inj h).symm

theorem authorizationClassDenial_code (h : authorizationClassDenial input = .ok (some code)) :
    code ∈ gateDenialCodes .authorizationClass := by
  have hcode : code = .authorizationClassNotProdObserve := by
    unfold authorizationClassDenial at h
    split_ifs at h
    · simpa [eq_comm] using h
    · split at h
      · split_ifs at h
        · simp at h
        · simpa [eq_comm] using h
      · contradiction
      · split at h
        · split_ifs at h
          · simp at h
          · simpa [eq_comm] using h
        · simpa [eq_comm] using h
      · simpa [eq_comm] using h
  simp [hcode, gateDenialCodes]

theorem observerIdentityDenial_code {stage : ProductionObservationStage}
    {actual : ObserverIdentityClass} (h : observerIdentityDenial stage actual = some code) :
    code ∈ gateDenialCodes .observerIdentity := by
  unfold observerIdentityDenial at h
  grind [gateDenialCodes]

theorem organizationWindowDenial_code (h : organizationWindowDenial input = some code) :
    code ∈ gateDenialCodes .organizationWindow := by
  unfold organizationWindowDenial at h
  grind [gateDenialCodes]

theorem routeAuthorityDenial_code (h : routeAuthorityDenial input = some code) :
    code ∈ gateDenialCodes .routeAuthority := by
  unfold routeAuthorityDenial at h
  grind [gateDenialCodes]

theorem hostAdmissionDenial_code (h : hostAdmissionDenial rt input = some code) :
    code ∈ gateDenialCodes .hostAdmission := by
  unfold hostAdmissionDenial at h
  grind [gateDenialCodes]

theorem privacyCapabilityDenial_code (h : privacyCapabilityDenial input = some code) :
    code ∈ gateDenialCodes .privacyCapability := by
  unfold privacyCapabilityDenial at h
  grind [gateDenialCodes]

theorem factDenial_code (h : factDenial rt input gate = .ok (some code)) :
    code ∈ gateDenialCodes gate := by
  cases gate with
  | authorizationClass => exact authorizationClassDenial_code h
  | observerIdentity => exact observerIdentityDenial_code (Except.ok.inj h)
  | organizationWindow => exact organizationWindowDenial_code (Except.ok.inj h)
  | routeAuthority => exact routeAuthorityDenial_code (Except.ok.inj h)
  | hostAdmission => exact hostAdmissionDenial_code (Except.ok.inj h)
  | privacyCapability => exact privacyCapabilityDenial_code (Except.ok.inj h)
  | sourceCurrency =>
      have hcode := Except.ok.inj h
      unfold sourceCurrencyDenial at hcode
      grind [gateDenialCodes]
  | readOnlyProof =>
      have hcode := Except.ok.inj h
      unfold readOnlyProofDenial at hcode
      grind [gateDenialCodes]
  | methodAndBody =>
      have hcode := Except.ok.inj h
      unfold methodAndBodyDenial at hcode
      grind [gateDenialCodes]
  | parameterProvenance =>
      have hcode := Except.ok.inj h
      unfold parameterProvenanceDenial at hcode
      grind [gateDenialCodes]
  | configurationIntegrity => simp [denyUnless_eq_some (Except.ok.inj h), gateDenialCodes]
  | addressPolicy => simp [denyUnless_eq_some (Except.ok.inj h), gateDenialCodes]
  | containmentReadiness => simp [denyUnless_eq_some (Except.ok.inj h), gateDenialCodes]
  | breakerState => simp [denyUnless_eq_some (Except.ok.inj h), gateDenialCodes]
  | killSwitchEntry | ownerAuthorization | budgetReservation | killSwitchPredispatch =>
      simp [factDenial] at h

theorem validateProdObserveGrant_code {registry : GrantRegistry} {candidate : GrantCandidate}
    {campaignId : JsString} {nowMs : JsNumber}
    (h : registry.validateProdObserveGrant candidate campaignId nowMs = .error code) :
    code ∈ gateDenialCodes .ownerAuthorization := by
  unfold GrantRegistry.validateProdObserveGrant at h
  grind [gateDenialCodes]

theorem gateCheck_code {progress after : Progress}
    (h : gateCheck rt input gate progress = .ok (some code, after)) :
    code ∈ gateDenialCodes gate := by
  unfold gateCheck at h
  split at h
  · simp [denyUnless_eq_some (Prod.mk.inj (Except.ok.inj h)).1, gateDenialCodes]
  · have howner := (Prod.mk.inj (Except.ok.inj h)).1
    unfold ownerAuthorizationDenial at howner
    split at howner
    · contradiction
    · rename_i hvalidate
      rw [← Option.some.inj howner]
      exact validateProdObserveGrant_code hvalidate
  · split at h
    · contradiction
    · simp [← Option.some.inj (Prod.mk.inj (Except.ok.inj h)).1, gateDenialCodes]
    · simp at h
  · simp [denyUnless_eq_some (Prod.mk.inj (Except.ok.inj h)).1, gateDenialCodes]
  · split at h
    · contradiction
    · rename_i hfact
      rw [(Prod.mk.inj (Except.ok.inj h)).1] at hfact
      exact factDenial_code hfact

end Codes

section Loop

variable (rt : Runtime) (input : ProductionAdmissionInput)

def extend (state : ChainState)
    (ending : Ending ProductionAdmissionGate ProductionDenialCode Progress) : ChainState where
  outcomes := state.outcomes ++ ending.outcomes.map gateOutcome
  denialCode := ending.denial.map (·.2)
  deniedAtGate := ending.denial.map (·.1)
  progress := ending.state

theorem foldlM_stepGate_denied (state : ChainState) (h : state.denialCode.isSome = true)
    (gates : List ProductionAdmissionGate) : gates.foldlM (stepGate rt input) state =
      .ok { state with outcomes := state.outcomes ++ gates.map skipped } := by
  induction gates generalizing state with
  | nil => simp [pure, Except.pure]
  | cons gate rest ih =>
      rw [List.foldlM_cons, stepGate, if_pos h]
      show rest.foldlM (stepGate rt input) (state.push gate .notEvaluated) = _
      rw [ih (state.push gate .notEvaluated) h]
      simp [ChainState.push, skipped]

theorem foldlM_stepGate (gates : List ProductionAdmissionGate) (state : ChainState)
    (hcode : state.denialCode = none) (hgate : state.deniedAtGate = none) :
    gates.foldlM (stepGate rt input) state =
      (chain (gateCheck rt input) gates state.progress).map (extend state) := by
  induction gates generalizing state with
  | nil =>
      obtain ⟨outcomes, denialCode, deniedAtGate, progress⟩ := state
      cases hcode
      cases hgate
      simp [chain, extend, pure, Except.pure, Except.map]
  | cons gate rest ih =>
      have hundenied : ¬ state.denialCode.isSome = true := by simp [hcode]
      rw [List.foldlM_cons, stepGate, if_neg hundenied, chain]
      rcases hcheck : gateCheck rt input gate state.progress with thrown | ⟨denial, progress⟩
      · rfl
      · cases denial with
        | some code =>
            have hown := gateCheck_code hcheck
            simp only [ChainState.deny, not_true_eq_false, hown, if_false]
            show rest.foldlM (stepGate rt input) _ = _
            rw [foldlM_stepGate_denied rt input _ rfl]
            simp [extend, gateOutcome, Except.map, skipped, Function.comp_def]
        | none =>
            show rest.foldlM (stepGate rt input)
              (({ state with progress := progress } : ChainState).push gate .pass) = _
            rw [ih (({ state with progress := progress } : ChainState).push gate .pass) hcode
              hgate]
            cases hchain : chain (gateCheck rt input) rest progress with
            | error thrown => simp [ChainState.push, hchain, Except.map]
            | ok ending => simp [ChainState.push, hchain, Except.map, extend, gateOutcome]

def entryWorld (world : AdmissionWorld) : AdmissionWorld :=
  world.probed input.killSwitchProbe.entry

def reservedProgress (world : AdmissionWorld) : Progress where
  world := { entryWorld input world with ledger := world.ledger.reserved (reservationRequest input) }
  reservation := some (world.ledger.reservationFor (reservationRequest input))

def fullProgress (world : AdmissionWorld) : Progress :=
  { reservedProgress input world with
    world := (reservedProgress input world).world.probed input.killSwitchProbe.predispatch }

def progressBefore (world : AdmissionWorld) : ProductionAdmissionGate → Progress
  | .killSwitchEntry => ⟨world, none⟩
  | .breakerState | .killSwitchPredispatch => reservedProgress input world
  | _ => ⟨entryWorld input world, none⟩

/-- Every gate passes in its turn. -/
def PassesEveryGate (world : AdmissionWorld) : Prop :=
  ∀ gate, ∃ after, gateCheck rt input gate (progressBefore input world gate) = .ok (none, after)

/-- The gate changes nothing. -/
def Quiet (gate : ProductionAdmissionGate) : Prop :=
  gate ≠ .killSwitchEntry ∧ gate ≠ .budgetReservation ∧ gate ≠ .killSwitchPredispatch

instance : DecidablePred Quiet := fun gate => inferInstanceAs (Decidable (gate ≠ _ ∧ _))

variable {rt input} {world : AdmissionWorld} {progress : Progress}

theorem gateCheck_quiet {gate : ProductionAdmissionGate} (hquiet : Quiet gate)
    {after : Progress} {denial : Option ProductionDenialCode}
    (h : gateCheck rt input gate progress = .ok (denial, after)) : after = progress := by
  obtain ⟨hentry, hbudget, hpredispatch⟩ := hquiet
  unfold gateCheck at h
  split at h
  · contradiction
  · exact (Prod.mk.inj (Except.ok.inj h)).2.symm
  · contradiction
  · contradiction
  · split at h
    · contradiction
    · exact (Prod.mk.inj (Except.ok.inj h)).2.symm

variable {gates : List ProductionAdmissionGate}

theorem passes_quiet (hquiet : ∀ gate ∈ gates, Quiet gate)
    {after : Progress} (h : Passes (gateCheck rt input) gates progress after) :
    after = progress := by
  apply h.preserves (P := (· = progress)) _ rfl
  intro gate hgate s s' hcheck hs
  rw [gateCheck_quiet (hquiet gate hgate) hcheck, hs]

variable {rest : List ProductionAdmissionGate} {after : Progress}

theorem passes_entry
    (h : Passes (gateCheck rt input) (.killSwitchEntry :: rest) ⟨world, none⟩ after) :
    Passes (gateCheck rt input) rest ⟨entryWorld input world, none⟩ after := by
  cases h with
  | cons hcheck hrest =>
      rw [gateCheck] at hcheck
      rw [← (Prod.mk.inj (Except.ok.inj hcheck)).2] at hrest
      exact hrest

theorem passes_budget (h : Passes (gateCheck rt input) (.budgetReservation :: rest)
      ⟨entryWorld input world, none⟩ after) :
    Passes (gateCheck rt input) rest (reservedProgress input world) after := by
  cases h with
  | cons hcheck hrest =>
      rw [gateCheck] at hcheck
      split at hcheck
      · contradiction
      · simp at hcheck
      · rename_i reservation ledger hreserve
        rcases reserve_eq_ok hreserve with ⟨scope, -, hexhausted, -⟩ | ⟨-, hok, hledger⟩
        · contradiction
        · cases hok
          rw [← (Prod.mk.inj (Except.ok.inj hcheck)).2, hledger] at hrest
          exact hrest

theorem passes_predispatch
    (h : Passes (gateCheck rt input) [.killSwitchPredispatch] (reservedProgress input world)
      after) : after = fullProgress input world := by
  cases h with
  | cons hcheck hrest =>
      cases hrest
      rw [gateCheck] at hcheck
      exact (Prod.mk.inj (Except.ok.inj hcheck)).2.symm

def gatesBefore (gate : ProductionAdmissionGate) : List ProductionAdmissionGate :=
  productionAdmissionGates.takeWhile (· ≠ gate)

theorem eq_gatesBefore {before after : List ProductionAdmissionGate}
    {gate : ProductionAdmissionGate} (h : productionAdmissionGates = before ++ gate :: after) :
    before = gatesBefore gate := by
  have hnodup : (before ++ gate :: after).Nodup := h ▸ (by decide)
  have hnot : ∀ other ∈ before, decide (other ≠ gate) = true := by
    intro other hother
    have hdisjoint := (List.nodup_append.mp hnodup).2.2 other hother gate List.mem_cons_self
    exact decide_eq_true hdisjoint
  rw [gatesBefore, h, List.takeWhile_append_of_pos hnot]
  simp

theorem passes_gatesBefore {gate : ProductionAdmissionGate}
    (h : Passes (gateCheck rt input) (gatesBefore gate) ⟨world, none⟩ after) :
    after = progressBefore input world gate := by
  have hquiet : ∀ gates : List ProductionAdmissionGate, (∀ gate ∈ gates, Quiet gate) →
      ∀ {after}, Passes (gateCheck rt input) (.killSwitchEntry :: gates) ⟨world, none⟩ after →
      after = ⟨entryWorld input world, none⟩ :=
    fun gates hgates _ h => passes_quiet hgates (passes_entry h)
  have hreserved : ∀ gates : List ProductionAdmissionGate, (∀ gate ∈ gates, Quiet gate) →
      ∀ {after}, Passes (gateCheck rt input) (.killSwitchEntry :: .ownerAuthorization ::
        (factGates ++ .budgetReservation :: gates)) ⟨world, none⟩ after →
      after = reservedProgress input world := by
    intro gates hgates after h
    obtain ⟨middle, hmiddle, hrest⟩ :=
      (passes_append (.killSwitchEntry :: .ownerAuthorization :: factGates) _).mp h
    rw [hquiet (.ownerAuthorization :: factGates) (by decide) hmiddle] at hrest
    exact passes_quiet hgates (passes_budget hrest)
  cases gate with
  | killSwitchEntry =>
      cases h
      rfl
  | breakerState => exact hreserved [] (by decide) h
  | killSwitchPredispatch => exact hreserved [.breakerState] (by decide) h
  | _ => exact hquiet _ (by decide) h

theorem passes_all (h : Passes (gateCheck rt input) productionAdmissionGates ⟨world, none⟩ after) :
    after = fullProgress input world := by
  obtain ⟨middle, hmiddle, hlast⟩ := (passes_append (gatesBefore .killSwitchPredispatch) _).mp h
  rw [passes_gatesBefore hmiddle] at hlast
  exact passes_predispatch hlast

theorem check_of_passes (hgates : productionAdmissionGates = gates ++ rest)
    (h : Passes (gateCheck rt input) gates ⟨world, none⟩ after) : ∀ gate ∈ gates, ∃ next,
      gateCheck rt input gate (progressBefore input world gate) = .ok (none, next) := by
  intro gate hgate
  obtain ⟨before, later, rfl⟩ := List.append_of_mem hgate
  obtain ⟨middle, hmiddle, hlater⟩ := (passes_append _ _).mp h
  rw [List.append_assoc] at hgates
  rw [eq_gatesBefore hgates] at hmiddle
  rw [passes_gatesBefore hmiddle] at hlater
  cases hlater with
  | cons hcheck _ => exact ⟨_, hcheck⟩

theorem passesEveryGate_of_passes
    (h : Passes (gateCheck rt input) productionAdmissionGates ⟨world, none⟩ after) :
    PassesEveryGate rt input world :=
  fun gate => check_of_passes (List.append_nil _).symm h gate (mem_productionAdmissionGates gate)

end Loop

section Evaluation

variable (rt : Runtime) (digest : JsString → JsString) (input : ProductionAdmissionInput)
  (world : AdmissionWorld)

/-- Everything an evaluation can do. -/
inductive Evaluates : Except JsString ProductionAdmissionOutcome → AdmissionWorld → Prop
  | threw {gate : ProductionAdmissionGate} {thrown : Thrown}
      (hcheck : gateCheck rt input gate (progressBefore input world gate) = .error thrown) :
      Evaluates (.error thrown.message) thrown.world
  | denied {before after : List ProductionAdmissionGate} {gate : ProductionAdmissionGate}
      {code : ProductionDenialCode} {progress : Progress}
      (hgates : productionAdmissionGates = before ++ gate :: after)
      (hbefore : ∀ gate ∈ before, ∃ next,
        gateCheck rt input gate (progressBefore input world gate) = .ok (none, next))
      (hcheck : gateCheck rt input gate (progressBefore input world gate) =
        .ok (some code, progress)) :
      Evaluates (.ok (decision rt digest
        (before.map passed ++ ⟨gate, .deny, some code⟩ :: after.map skipped) false (some code)
        (some gate) progress.reservation)) progress.released
  | overtaken {code : ProductionDenialCode} {registry : GrantRegistry}
      (hpasses : PassesEveryGate rt input world)
      (hspent : (fullProgress input world).world.registry.consumeProdObserveGrant input.grant =
        (some code, registry)) :
      Evaluates (.ok (decision rt digest
        ((productionAdmissionGates.map passed).set 1 ⟨.ownerAuthorization, .deny, some code⟩) false
        (some code) (some .ownerAuthorization) (fullProgress input world).reservation))
        (fullProgress input world).released
  | allowed {registry : GrantRegistry} (hpasses : PassesEveryGate rt input world)
      (hconsumed : (fullProgress input world).world.registry.consumeProdObserveGrant input.grant =
        (none, registry)) :
      Evaluates (.ok (decision rt digest (productionAdmissionGates.map passed) true none none
        (fullProgress input world).reservation))
        { (fullProgress input world).world with registry := registry }

theorem evaluateProductionAdmission_eq : evaluateProductionAdmission rt digest input world =
      match chain (gateCheck rt input) productionAdmissionGates ⟨world, none⟩ with
      | .error thrown => (.error thrown.message, thrown.world)
      | .ok ending =>
          let concluded := concludeAdmission rt digest input (extend (.start world) ending)
          (.ok concluded.1, concluded.2) := by
  have hloop := foldlM_stepGate rt input productionAdmissionGates (.start world) rfl rfl
  have hstart : (ChainState.start world).progress = ⟨world, none⟩ := rfl
  rw [evaluateProductionAdmission, hloop, hstart]
  cases chain (gateCheck rt input) productionAdmissionGates ⟨world, none⟩ with
  | error thrown => rfl
  | ok ending => rfl

theorem map_gateOutcome_pass (gates : List ProductionAdmissionGate) :
    (gates.map fun gate => (gate, (.pass : Verdict ProductionDenialCode))).map gateOutcome =
      gates.map passed := by
  rw [List.map_map]
  rfl

theorem map_gateOutcome_notEvaluated (gates : List ProductionAdmissionGate) :
    (gates.map fun gate => (gate, (.notEvaluated : Verdict ProductionDenialCode))).map
      gateOutcome = gates.map skipped := by
  rw [List.map_map]
  rfl

theorem evaluates_evaluateProductionAdmission :
    Evaluates rt digest input world (evaluateProductionAdmission rt digest input world).1
      (evaluateProductionAdmission rt digest input world).2 := by
  rw [evaluateProductionAdmission_eq]
  have hcourse : Course (gateCheck rt input) productionAdmissionGates ⟨world, none⟩ _ :=
    course_chain _ _
  generalize chain (gateCheck rt input) productionAdmissionGates ⟨world, none⟩ = result at hcourse ⊢
  cases hcourse with
  | @failed before after gate thrown progress hgates hpasses hcheck =>
      rw [eq_gatesBefore hgates] at hpasses
      rw [passes_gatesBefore hpasses] at hcheck
      exact .threw hcheck
  | @denied before after gate code progress final hgates hpasses hcheck =>
      have heach := check_of_passes hgates hpasses
      have hbefore := eq_gatesBefore hgates
      rw [hbefore] at hpasses
      rw [passes_gatesBefore hpasses] at hcheck
      simp only [concludeAdmission, extend, ChainState.start, List.map_append, List.map_cons,
        map_gateOutcome_pass, map_gateOutcome_notEvaluated, List.nil_append, Option.map_some,
        Option.isSome_some, if_true]
      exact .denied hgates heach hcheck
  | @passed final hpasses =>
      have hall := passesEveryGate_of_passes hpasses
      have hfinal := passes_all hpasses
      subst hfinal
      simp only [concludeAdmission, extend, ChainState.start, map_gateOutcome_pass,
        List.nil_append, Option.map_none, Option.isSome_none, Bool.false_eq_true, if_false]
      rcases hconsume : (fullProgress input world).world.registry.consumeProdObserveGrant
        input.grant with ⟨code, registry⟩
      cases code with
      | none => exact .allowed hall hconsume
      | some code => exact .overtaken hall hconsume

end Evaluation

/-- The eighteen gates in chain order; an allow passed all of them, and a denial is the one
denial of its gate, after passes and before gates that were not evaluated. -/
structure FirstDenialShape (outcome : ProductionAdmissionOutcome) : Prop where
  ordered : outcome.outcomes.map (·.gate) = productionAdmissionGates
  allowed_iff : outcome.allowed = true ↔ ∀ entry ∈ outcome.outcomes, entry.result = .pass
  denied_iff : outcome.allowed = false ↔ ∃ before gate code after,
    outcome.outcomes = before ++ ⟨gate, .deny, some code⟩ :: after ∧
      outcome.deniedAtGate = some gate ∧ outcome.denialCode = some code ∧
      (∀ entry ∈ before, entry.result = .pass) ∧ ∀ entry ∈ after, entry.result = .notEvaluated

/-- After both calls of the probe the grant is still registered, and issued. -/
def StillIssued (input : ProductionAdmissionInput) (world : AdmissionWorld) : Prop :=
  ((world.registry.performAll input.killSwitchProbe.entry.calls).performAll
    input.killSwitchProbe.predispatch.calls).grantLifecycleState input.grant = some .issued

instance (input : ProductionAdmissionInput) (world : AdmissionWorld) :
    Decidable (StillIssued input world) := inferInstanceAs (Decidable (_ = _))

theorem map_gate_passed (gates : List ProductionAdmissionGate) :
    (gates.map passed).map (·.gate) = gates := by
  simp [passed, Function.comp_def]

theorem map_gate_skipped (gates : List ProductionAdmissionGate) :
    (gates.map skipped).map (·.gate) = gates := by
  simp [skipped, Function.comp_def]

variable {gates : List ProductionAdmissionGate}

theorem result_of_mem_passed : ∀ entry ∈ gates.map passed, entry.result = .pass := by
  intro entry hentry
  obtain ⟨gate, -, rfl⟩ := List.mem_map.mp hentry
  rfl

theorem result_of_mem_skipped : ∀ entry ∈ gates.map skipped, entry.result = .notEvaluated := by
  intro entry hentry
  obtain ⟨gate, -, rfl⟩ := List.mem_map.mp hentry
  rfl

section Shape

variable {rt : Runtime} {digest : JsString → JsString} {input : ProductionAdmissionInput}
  {world : AdmissionWorld}

theorem shape_denied (rt : Runtime) (digest : JsString → JsString)
    {before after : List ProductionAdmissionGate} {gate : ProductionAdmissionGate}
    (code : ProductionDenialCode) (reservation : Option BudgetReservation)
    (hgates : productionAdmissionGates = before ++ gate :: after) :
    FirstDenialShape (decision rt digest
      (before.map passed ++ ⟨gate, .deny, some code⟩ :: after.map skipped) false (some code)
      (some gate) reservation) where
  ordered := by
    show List.map _ (_ ++ _ :: _) = _
    rw [List.map_append, List.map_cons, map_gate_passed, map_gate_skipped, hgates]
  allowed_iff := by
    constructor
    · intro hallowed
      contradiction
    · intro hall
      have hdeny := hall ⟨gate, .deny, some code⟩ (List.mem_append_right _ List.mem_cons_self)
      contradiction
  denied_iff := by
    apply iff_of_true rfl
    exact ⟨_, _, _, _, rfl, rfl, rfl, result_of_mem_passed, result_of_mem_skipped⟩

theorem shape_allowed {reservation : Option BudgetReservation} :
    FirstDenialShape (decision rt digest (productionAdmissionGates.map passed) true none none
      reservation) where
  ordered := map_gate_passed _
  allowed_iff := iff_of_true rfl result_of_mem_passed
  denied_iff := by
    constructor
    · intro hdenied
      contradiction
    · rintro ⟨_, gate, _, _, -, hgate, -⟩
      contradiction

theorem not_shape_overtaken {outcome : ProductionAdmissionOutcome} {code : ProductionDenialCode}
    (hallowed : outcome.allowed = false) (houtcomes : outcome.outcomes =
      (productionAdmissionGates.map passed).set 1 ⟨.ownerAuthorization, .deny, some code⟩) :
    ¬ FirstDenialShape outcome := by
  intro h
  obtain ⟨before, gate, code', after, hsplit, -, -, -, hafter⟩ := h.denied_iff.mp hallowed
  have hlast : passed .killSwitchPredispatch ∈ after := by
    have hgetLast := congrArg List.getLast? (houtcomes.symm.trans hsplit)
    rw [List.getLast?_append_cons] at hgetLast
    cases after with
    | nil => simp [productionAdmissionGates, passed] at hgetLast
    | cons entry rest =>
        rw [List.getLast?_cons_cons] at hgetLast
        exact List.mem_of_getLast? hgetLast.symm
  exact absurd (hafter _ hlast) (by decide)

theorem consume_fst_eq_none {registry : GrantRegistry} {candidate : GrantCandidate} :
    (registry.consumeProdObserveGrant candidate).1 = none ↔
      registry.grantLifecycleState candidate = some .issued := by
  unfold GrantRegistry.consumeProdObserveGrant GrantRegistry.grantLifecycleState
  cases registry.registeredEntry candidate with
  | none => simp
  | some entry =>
      by_cases hissued : entry.state = .issued
      · simp [hissued]
      · simp [hissued]

theorem fullProgress_registry : (fullProgress input world).world.registry =
    (world.registry.performAll input.killSwitchProbe.entry.calls).performAll
      input.killSwitchProbe.predispatch.calls := rfl

/-- The outcomes tell the first denial unless a chain that passes every gate finds the
grant spent when it comes to consume it. -/
theorem firstDenialShape_iff (rt : Runtime) (digest : JsString → JsString)
    (input : ProductionAdmissionInput) (world : AdmissionWorld) :
    (∀ outcome, (evaluateProductionAdmission rt digest input world).1 = .ok outcome →
        FirstDenialShape outcome) ↔ (PassesEveryGate rt input world → StillIssued input world) := by
  have hevaluates := evaluates_evaluateProductionAdmission rt digest input world
  generalize evaluateProductionAdmission rt digest input world = result at hevaluates ⊢
  obtain ⟨result, final⟩ := result
  dsimp only at hevaluates ⊢
  cases hevaluates with
  | @threw gate thrown hcheck =>
      apply iff_of_true
      · intro outcome houtcome
        contradiction
      · intro hpasses
        obtain ⟨after, hpass⟩ := hpasses gate
        rw [hcheck] at hpass
        contradiction
  | @denied before after gate code progress hgates hbefore hcheck =>
      apply iff_of_true
      · intro outcome houtcome
        rw [← Except.ok.inj houtcome]
        exact shape_denied rt digest _ _ hgates
      · intro hpasses
        obtain ⟨after, hpass⟩ := hpasses gate
        rw [hcheck] at hpass
        simp at hpass
  | @overtaken code registry hpasses hspent =>
      apply iff_of_false
      · intro h
        exact not_shape_overtaken rfl rfl (h _ rfl)
      · intro h
        have hissued := consume_fst_eq_none.mpr (h hpasses)
        rw [← fullProgress_registry, hspent] at hissued
        contradiction
  | @allowed registry hpasses hconsumed =>
      apply iff_of_true
      · intro outcome houtcome
        rw [← Except.ok.inj houtcome]
        exact shape_allowed
      · intro _
        rw [StillIssued, ← fullProgress_registry, ← consume_fst_eq_none, hconsumed]

end Shape

def zeroRandom : RandomHex where
  text := List.replicate 32 '0'
  length := rfl
  hex := by decide

def sampleRequest : IssueGrantRequest where
  campaignId := "campaign".toList
  stage := .pq
  notBeforeMs := .ofNat 0
  expiresAtMs := .ofNat 1000

def sampleGrant : GrantObject := ⟨0, GrantRegistry.mintedGrant sampleRequest zeroRandom⟩

def clearProbe : ProbeCall := ⟨[], .clear⟩

def sampleInput : ProductionAdmissionInput where
  campaignId := "campaign".toList
  stage := .pq
  nowMs := .ofNat 10
  environmentClass := .local
  killSwitchProbe := ⟨clearProbe, clearProbe⟩
  requestedAuthorizationClass := .prodObserve
  grant := .minted sampleGrant
  config := some ⟨["example.test".toList], ⟨.ofNat 0, .ofNat 1000⟩⟩
  observerIdentityClass := .orgEnforcedReadOnly
  source := ⟨.complete, .current⟩
  readOnlyProof := ⟨true, .ofNat 2, false⟩
  routeVocabulary := .vocabulary (some .production) ["GET /things".toList]
  resolvedAddressesAdmitted := true
  intent := ⟨"GET".toList, "example.test".toList, "GET /things".toList, false, none, [],
    "service".toList, "route".toList⟩
  privacyPolicy := some ⟨.production⟩
  containment := .proven
  breakers := []

def overtakenInput : ProductionAdmissionInput :=
  { sampleInput with
    killSwitchProbe := ⟨clearProbe, [.consume (.minted sampleGrant)], .clear⟩ }

def sampleWorld : AdmissionWorld where
  registry := GrantRegistry.empty.perform (.issue sampleRequest zeroRandom)
  ledger := .create none (.ofNat 0)

theorem overtaken_not_shaped : ∃ outcome,
    (evaluateProductionAdmission plainRuntime id overtakenInput sampleWorld).1 = .ok outcome ∧
      ¬ FirstDenialShape outcome := by
  have houtcome : (evaluateProductionAdmission plainRuntime id overtakenInput
      sampleWorld).1.toOption.map (fun outcome => (outcome.allowed, outcome.outcomes)) =
        some (false, (productionAdmissionGates.map passed).set 1
          ⟨.ownerAuthorization, .deny, some .alreadyConsumed⟩) := by
    decide +kernel
  cases hresult : (evaluateProductionAdmission plainRuntime id overtakenInput sampleWorld).1 with
  | error message =>
      rw [hresult] at houtcome
      contradiction
  | ok outcome =>
      rw [hresult] at houtcome
      obtain ⟨hallowed, houtcomes⟩ := Prod.mk.inj (Option.some.inj houtcome)
      exact ⟨outcome, rfl, not_shape_overtaken hallowed houtcomes⟩

end NightWatch.ProdObserve.AdmissionChain
