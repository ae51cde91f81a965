import NightWatch.Lib.OneShot
import NightWatch.ProdObserve.AdmissionChain
import NightWatch.ProdObserve.Receipt

/-!
What an accepted receipt says about the chain. The validator checks each outcome by
itself; that the outcomes are those of one run of the chain also depends on neighbours
and on the codes that belong to a gate.
-/

namespace NightWatch.ProdObserve.ReceiptShape

open Lib.JsText Lib.JsData Lib.Guard Lib Lib.JsRuntime ProdObserve.Types ProdObserve.RunGate
  ProdObserve.AdmissionChain ProdObserve.Receipt

def resultOf (entry : JsValue) : JsValue := entryField entry "result".toList

def codeOf (entry : JsValue) : JsValue := entryField entry "denialCode".toList

def codeValue : Option ProductionDenialCode → JsValue
  | none => .null
  | some code => .str code.text

/-- The entry of a receipt reads as the outcome of a gate. -/
structure OutcomeIs (entry : JsValue) (outcome : GateOutcome) : Prop where
  gate : entryField entry "gate".toList = .str outcome.gate.text
  result : resultOf entry = .str outcome.result.text
  code : codeOf entry = codeValue outcome.denialCode

/-- The outcomes of a chain over `gates`: all passed, or passes, one denial with a code of its gate,
and gates not evaluated. -/
def ChainOutcomes (gates : List ProductionAdmissionGate) (outcomes : List GateOutcome)
    (allowed : Bool) : Prop :=
  (allowed = true ∧ outcomes = gates.map passed) ∨
    (allowed = false ∧ ∃ before gate code after, gates = before ++ gate :: after ∧
      code ∈ gateDenialCodes gate ∧
      outcomes = before.map passed ++ ⟨gate, .deny, some code⟩ :: after.map skipped)

/-- The receipt reports outcomes that the admission chain can produce, and their result. -/
def Producible (fields : List (JsString × JsValue)) : Prop :=
  ∃ items outcomes allowed, JsValue.field fields "gateOutcomes".toList = .arr items ∧
    List.Forall₂ OutcomeIs items outcomes ∧
    ChainOutcomes productionAdmissionGates outcomes allowed ∧
    JsValue.field fields "finalResult".toList =
      .str (if allowed then "QUALIFIED".toList else "DENIED".toList)

/-- Each result may follow the one before: while all passed, anything but `NOT_EVALUATED`;
afterwards, nothing else. -/
def FollowsFrom : Bool → List JsValue → Prop
  | _, [] => True
  | true, entry :: rest =>
      isText (resultOf entry) "NOT_EVALUATED".toList = false ∧
        FollowsFrom (isText (resultOf entry) "PASS".toList) rest
  | false, entry :: rest =>
      isText (resultOf entry) "NOT_EVALUATED".toList = true ∧ FollowsFrom false rest

def IsString (value : JsValue) : Prop := ∃ s, value = .str s

/-- What the validator does not compare: that results are strings, not values that print as one,
that each follows the one before, and that a code belongs to its gate. -/
structure Coherent (fields : List (JsString × JsValue)) (items : List JsValue) : Prop where
  strings : ∀ entry ∈ items, IsString (resultOf entry)
  finalString : IsString (JsValue.field fields "finalResult".toList)
  follows : FollowsFrom true items
  ownCodes : ∀ pair ∈ items.zip productionAdmissionGates,
    isText (resultOf pair.1) "DENY".toList = true →
      ∃ code ∈ gateDenialCodes pair.2, codeOf pair.1 = .str code.text

/-- What acceptance says of the outcomes and the final result. -/
structure OutcomesAccepted (rt : Runtime) (fields : List (JsString × JsValue))
    (items : List JsValue) : Prop where
  items_eq : JsValue.field fields "gateOutcomes".toList = .arr items
  length : items.length = productionAdmissionGates.length
  entries : ∀ pair ∈ items.zip productionAdmissionGates, checkOutcome rt pair = .ok ()
  qualified : isText (JsValue.field fields "finalResult".toList) "QUALIFIED".toList = true →
    (items.all fun entry => isText (resultOf entry) "PASS".toList) = true
  denied : isText (JsValue.field fields "finalResult".toList) "DENIED".toList = true →
    (items.all fun entry => isText (resultOf entry) "PASS".toList) = false
  final : stringOf rt (JsValue.field fields "finalResult".toList) ∈ finalResultTexts

theorem refuseIf_eq_ok {condition : Bool} {rejection : PqReceiptRejection} :
    refuseIf condition rejection = .ok () ↔ condition = false := by
  unfold refuseIf
  cases condition with
  | false => simp
  | true => simp

theorem isText_iff {value : JsValue} {text : JsString} :
    isText value text = true ↔ value = .str text := by
  cases value with
  | str s => simp [isText]
  | _ => simp [isText]

theorem isNull_iff {value : JsValue} : isNull value = true ↔ value = .null := by
  cases value with
  | null => simp [isNull]
  | _ => simp [isNull]

theorem mem_gateResultTexts {s : JsString} :
    s ∈ gateResultTexts ↔ s = "PASS".toList ∨ s = "DENY".toList ∨ s = "NOT_EVALUATED".toList := by
  rw [gateResultTexts, List.mem_cons, List.mem_cons, List.mem_singleton]

section Accepted

variable {rt : Runtime} {digest : JsString → JsString} {fields : List (JsString × JsValue)}
  {items : List JsValue}

theorem checkOutcomes_eq_ok {outcomes : JsValue} :
    checkOutcomes rt outcomes = .ok items ↔ outcomes = .arr items ∧
      items.length = productionAdmissionGates.length ∧
      ∀ pair ∈ items.zip productionAdmissionGates, checkOutcome rt pair = .ok () := by
  cases outcomes with
  | arr given =>
      rw [checkOutcomes]
      constructor
      · intro h
        obtain ⟨_, hlength, h⟩ := bind_eq_ok.mp h
        obtain ⟨_, hentries, h⟩ := bind_eq_ok.mp h
        cases h
        exact ⟨rfl, by simpa using refuseIf_eq_ok.mp hlength, forEach_eq_ok.mp hentries⟩
      · rintro ⟨hgiven, hlength, hentries⟩
        cases hgiven
        refine bind_eq_ok.mpr ⟨(), refuseIf_eq_ok.mpr (by simpa using hlength), ?_⟩
        exact bind_eq_ok.mpr ⟨(), forEach_eq_ok.mpr hentries, rfl⟩
  | _ =>
      constructor
      · intro h
        contradiction
      · rintro ⟨h, -⟩
        contradiction

theorem outcomesAccepted_of_validate (h : validatePqReceipt rt digest (.obj fields) = .ok ()) :
    ∃ items, OutcomesAccepted rt fields items := by
  simp only [validatePqReceipt, bind_eq_ok] at h
  obtain ⟨-, -, -, -, -, -, items, hitems, _, hqualified, _, hdenied, _, hfinal, -⟩ := h
  obtain ⟨heq, hlength, hentries⟩ := checkOutcomes_eq_ok.mp hitems
  refine ⟨items, heq, hlength, hentries, ?_, ?_,
    not_not.mp (of_decide_eq_false (refuseIf_eq_ok.mp hfinal))⟩
  · intro hq
    have hnot := refuseIf_eq_ok.mp hqualified
    rw [hq, Bool.true_and, Bool.not_eq_false'] at hnot
    exact hnot
  · intro hd
    have hnot := refuseIf_eq_ok.mp hdenied
    rw [hd, Bool.true_and] at hnot
    exact hnot

variable {entry : JsValue} {gate : ProductionAdmissionGate} {gates : List ProductionAdmissionGate}
  {outcomes : List GateOutcome}

section

variable (h : checkOutcome rt (entry, gate) = .ok ())

include h

theorem entry_of_check : entryField entry "gate".toList = .str gate.text ∧
      stringOf rt (resultOf entry) ∈ gateResultTexts ∧
      (isText (resultOf entry) "DENY".toList = false → codeOf entry = .null) := by
  simp only [checkOutcome, bind_eq_ok] at h
  obtain ⟨-, -, _, hgate, _, hresult, -, -, -, -, h⟩ := h
  refine ⟨?_, not_not.mp (of_decide_eq_false (refuseIf_eq_ok.mp hresult)), ?_⟩
  · have htext := refuseIf_eq_ok.mp hgate
    rw [Bool.not_eq_false'] at htext
    exact isText_iff.mp htext
  · intro hdeny
    have hnull := refuseIf_eq_ok.mp h
    change (!isText (resultOf entry) "DENY".toList && !isNull (codeOf entry)) = false at hnull
    rw [hdeny, Bool.not_false, Bool.true_and, Bool.not_eq_false'] at hnull
    exact isNull_iff.mp hnull

theorem outcomeIs_pass
    (hpass : resultOf entry = .str "PASS".toList) : OutcomeIs entry (passed gate) := by
  obtain ⟨hgate, -, hcode⟩ := entry_of_check h
  refine ⟨hgate, hpass, hcode ?_⟩
  rw [hpass]
  decide

theorem outcomeIs_skipped
    (hskipped : resultOf entry = .str "NOT_EVALUATED".toList) : OutcomeIs entry (skipped gate) := by
  obtain ⟨hgate, -, hcode⟩ := entry_of_check h
  refine ⟨hgate, hskipped, hcode ?_⟩
  rw [hskipped]
  decide

end

variable {items : List JsValue}

theorem outcomes_skipped (hlength : items.length = gates.length)
    (hentries : ∀ pair ∈ items.zip gates, checkOutcome rt pair = .ok ())
    (hfollows : FollowsFrom false items) : List.Forall₂ OutcomeIs items (gates.map skipped) := by
  induction items generalizing gates with
  | nil =>
      cases gates with
      | nil => exact .nil
      | cons gate rest => contradiction
  | cons entry items ih =>
      cases gates with
      | nil => contradiction
      | cons gate rest =>
          obtain ⟨hresult, hrest⟩ := hfollows
          refine .cons (outcomeIs_skipped (hentries (entry, gate) ?_) (isText_iff.mp hresult))
            (ih (Nat.succ.inj hlength) ?_ hrest)
          · exact List.mem_cons_self
          · intro pair hpair
            exact hentries pair (List.mem_cons_of_mem _ hpair)

theorem chainOutcomes_of_coherent (hlength : items.length = gates.length)
    (hentries : ∀ pair ∈ items.zip gates, checkOutcome rt pair = .ok ())
    (hstrings : ∀ entry ∈ items, IsString (resultOf entry)) (hfollows : FollowsFrom true items)
    (hcodes : ∀ pair ∈ items.zip gates, isText (resultOf pair.1) "DENY".toList = true →
      ∃ code ∈ gateDenialCodes pair.2, codeOf pair.1 = .str code.text) :
    ∃ outcomes allowed, List.Forall₂ OutcomeIs items outcomes ∧
      ChainOutcomes gates outcomes allowed := by
  induction items generalizing gates with
  | nil =>
      cases gates with
      | nil => exact ⟨[], true, .nil, Or.inl ⟨rfl, rfl⟩⟩
      | cons gate rest => contradiction
  | cons entry items ih =>
      cases gates with
      | nil => contradiction
      | cons gate rest =>
          have hhead : checkOutcome rt (entry, gate) = .ok () :=
            hentries (entry, gate) List.mem_cons_self
          have htail : ∀ pair ∈ items.zip rest, checkOutcome rt pair = .ok () :=
            fun pair hpair => hentries pair (List.mem_cons_of_mem _ hpair)
          obtain ⟨hgate, htext, -⟩ := entry_of_check hhead
          obtain ⟨s, hs⟩ := hstrings entry List.mem_cons_self
          obtain ⟨hresult, hrest⟩ := hfollows
          rw [hs] at htext hresult hrest
          rw [stringOf_str] at htext
          have hthree := mem_gateResultTexts.mp htext
          rcases hthree with rfl | rfl | rfl
          · have hpass : isText (.str "PASS".toList) "PASS".toList = true := by decide
            rw [hpass] at hrest
            obtain ⟨outcomes, allowed, hforall, hchain⟩ := ih (Nat.succ.inj hlength) htail
              (fun other hother => hstrings other (List.mem_cons_of_mem _ hother)) hrest
              (fun pair hpair => hcodes pair (List.mem_cons_of_mem _ hpair))
            refine ⟨passed gate :: outcomes, allowed, .cons (outcomeIs_pass hhead hs) hforall, ?_⟩
            rcases hchain with ⟨hallowed, rfl⟩ | ⟨hallowed, before, other, code, after, rfl, hcode,
              rfl⟩
            · exact Or.inl ⟨hallowed, rfl⟩
            · exact Or.inr ⟨hallowed, gate :: before, other, code, after, rfl, hcode, rfl⟩
          · have hdeny : isText (.str "DENY".toList) "PASS".toList = false := by decide
            rw [hdeny] at hrest
            obtain ⟨code, hcode, htext⟩ := hcodes (entry, gate) List.mem_cons_self
              (isText_iff.mpr hs)
            refine ⟨⟨gate, .deny, some code⟩ :: rest.map skipped, false,
              .cons ⟨hgate, hs, htext⟩ (outcomes_skipped (Nat.succ.inj hlength) htail hrest), ?_⟩
            exact Or.inr ⟨rfl, [], gate, code, rest, rfl, hcode, rfl⟩
          · contradiction

theorem all_pass_of_forall (h : List.Forall₂ OutcomeIs items (gates.map passed)) :
    (items.all fun entry => isText (resultOf entry) "PASS".toList) = true := by
  rw [List.all_eq_true]
  intro entry hentry
  obtain ⟨outcome, houtcome, his⟩ := OneShot.exists_of_mem_left h hentry
  obtain ⟨gate, -, rfl⟩ := List.mem_map.mp houtcome
  exact isText_iff.mpr his.result

theorem not_all_pass_of_denied {before after : List ProductionAdmissionGate}
    {code : ProductionDenialCode} (h : List.Forall₂ OutcomeIs items
      (before.map passed ++ ⟨gate, .deny, some code⟩ :: after.map skipped)) :
    (items.all fun entry => isText (resultOf entry) "PASS".toList) = false := by
  obtain ⟨entry, hentry, his⟩ := OneShot.exists_of_mem_left h.flip
    (List.mem_append_right _ List.mem_cons_self)
  rw [List.all_eq_false]
  refine ⟨entry, hentry, ?_⟩
  rw [his.result]
  exact (by decide : ¬ isText (.str GateResult.deny.text) "PASS".toList = true)

theorem follows_skipped
    (h : List.Forall₂ OutcomeIs items (gates.map skipped)) : FollowsFrom false items := by
  induction gates generalizing items with
  | nil =>
      cases h
      exact True.intro
  | cons gate rest ih =>
      cases h with
      | cons his hrest => exact ⟨isText_iff.mpr his.result, ih hrest⟩

theorem follows_chainOutcomes {allowed : Bool} (h : List.Forall₂ OutcomeIs items outcomes)
    (hchain : ChainOutcomes gates outcomes allowed) : FollowsFrom true items := by
  induction gates generalizing items outcomes with
  | nil =>
      rcases hchain with ⟨-, rfl⟩ | ⟨-, before, gate, code, after, hgates, -, -⟩
      · cases h
        exact True.intro
      · simp at hgates
  | cons gate rest ih =>
      have hpass : ∀ entry, OutcomeIs entry (passed gate) →
          isText (resultOf entry) "NOT_EVALUATED".toList = false ∧
            isText (resultOf entry) "PASS".toList = true := by
        intro entry his
        rw [his.result]
        exact (by decide : isText (.str GateResult.pass.text) "NOT_EVALUATED".toList = false ∧
          isText (.str GateResult.pass.text) "PASS".toList = true)
      rcases hchain with ⟨hallowed, rfl⟩ | ⟨hallowed, before, other, code, after, hgates, hcode,
        rfl⟩
      · cases h with
        | cons his hrest =>
            obtain ⟨hnot, hpassed⟩ := hpass _ his
            refine ⟨hnot, ?_⟩
            rw [hpassed]
            exact ih hrest (Or.inl ⟨hallowed, rfl⟩)
      · cases before with
        | nil =>
            cases h with
            | @cons entry _ items _ his hrest =>
                have hdeny : isText (resultOf entry) "NOT_EVALUATED".toList = false ∧
                    isText (resultOf entry) "PASS".toList = false := by
                  rw [his.result]
                  exact (by decide :
                    isText (.str GateResult.deny.text) "NOT_EVALUATED".toList = false ∧
                      isText (.str GateResult.deny.text) "PASS".toList = false)
                refine ⟨hdeny.1, ?_⟩
                rw [hdeny.2]
                exact follows_skipped hrest
        | cons first before =>
            obtain ⟨rfl, rfl⟩ := List.cons.inj hgates
            cases h with
            | cons his hrest =>
                obtain ⟨hnot, hpassed⟩ := hpass _ his
                refine ⟨hnot, ?_⟩
                rw [hpassed]
                exact ih hrest (Or.inr ⟨hallowed, before, other, code, after, rfl, hcode, rfl⟩)

theorem gates_chainOutcomes {allowed : Bool} (hchain : ChainOutcomes gates outcomes allowed) :
    outcomes.map (·.gate) = gates ∧ ∀ outcome ∈ outcomes, outcome.result = .deny →
      ∃ code ∈ gateDenialCodes outcome.gate, outcome.denialCode = some code := by
  rcases hchain with ⟨-, rfl⟩ | ⟨-, before, gate, code, after, rfl, hcode, rfl⟩
  · refine ⟨map_gate_passed gates, ?_⟩
    intro outcome houtcome hdeny
    rw [result_of_mem_passed outcome houtcome] at hdeny
    contradiction
  · refine ⟨?_, ?_⟩
    · rw [List.map_append, List.map_cons, map_gate_passed, map_gate_skipped]
    · intro outcome houtcome hdeny
      rcases List.mem_append.mp houtcome with hmem | hmem
      · rw [result_of_mem_passed outcome hmem] at hdeny
        contradiction
      · rcases List.mem_cons.mp hmem with rfl | hmem
        · exact ⟨code, hcode, rfl⟩
        · rw [result_of_mem_skipped outcome hmem] at hdeny
          contradiction

theorem resultText_deny {result : GateResult}
    (h : isText (.str result.text) "DENY".toList = true) : result = .deny := by
  cases result with
  | deny => rfl
  | pass => exact absurd h (by decide)
  | notEvaluated => exact absurd h (by decide)

theorem ownCodes_of_chain (h : List.Forall₂ OutcomeIs items outcomes)
    (hgates : outcomes.map (·.gate) = gates)
    (hcodes : ∀ outcome ∈ outcomes, outcome.result = .deny →
      ∃ code ∈ gateDenialCodes outcome.gate, outcome.denialCode = some code) :
    ∀ pair ∈ items.zip gates, isText (resultOf pair.1) "DENY".toList = true →
      ∃ code ∈ gateDenialCodes pair.2, codeOf pair.1 = .str code.text := by
  subst hgates
  induction h with
  | nil =>
      intro pair hpair
      contradiction
  | @cons entry outcome items outcomes his hrest ih =>
      intro pair hpair hdeny
      rcases List.mem_cons.mp hpair with rfl | hpair
      · dsimp only at hdeny ⊢
        rw [his.result] at hdeny
        obtain ⟨code, hcode, hsome⟩ := hcodes outcome List.mem_cons_self (resultText_deny hdeny)
        exact ⟨code, hcode, by rw [his.code, hsome, codeValue]⟩
      · exact ih (fun other hother => hcodes other (List.mem_cons_of_mem _ hother)) pair hpair hdeny

theorem producible_iff_coherent (h : OutcomesAccepted rt fields items) :
    Producible fields ↔ Coherent fields items := by
  constructor
  · rintro ⟨given, outcomes, allowed, hitems, hforall, hchain, hfinal⟩
    have hsame : given = items := JsValue.arr.inj (hitems.symm.trans h.items_eq)
    subst hsame
    obtain ⟨hgates, hcodes⟩ := gates_chainOutcomes hchain
    refine ⟨?_, ⟨_, hfinal⟩, follows_chainOutcomes hforall hchain,
      ownCodes_of_chain hforall hgates hcodes⟩
    intro entry hentry
    obtain ⟨outcome, -, his⟩ := OneShot.exists_of_mem_left hforall hentry
    exact ⟨_, his.result⟩
  · rintro ⟨hstrings, ⟨s, hs⟩, hfollows, hcodes⟩
    obtain ⟨outcomes, allowed, hforall, hchain⟩ :=
      chainOutcomes_of_coherent h.length h.entries hstrings hfollows hcodes
    refine ⟨items, outcomes, allowed, h.items_eq, hforall, hchain, ?_⟩
    have hfinal := h.final
    rw [hs, stringOf_str, finalResultTexts, List.mem_cons, List.mem_singleton] at hfinal
    rcases hchain with ⟨rfl, rfl⟩ | ⟨rfl, before, gate, code, after, -, -, rfl⟩
    · rcases hfinal with rfl | rfl
      · exact hs
      · have hnot := h.denied (isText_iff.mpr hs)
        rw [all_pass_of_forall hforall] at hnot
        contradiction
    · rcases hfinal with rfl | rfl
      · have hall := h.qualified (isText_iff.mpr hs)
        rw [not_all_pass_of_denied hforall] at hall
        contradiction
      · exact hs

end Accepted

/-- The draft reports an outcome of the chain: nothing is dispatched by a denial. -/
structure Reports (draft : PqReceiptDraft) (outcome : ProductionAdmissionOutcome) : Prop where
  schema : draft.schemaVersion = pqReceiptSchema
  chainVersion : draft.chainVersion = outcome.chainVersion
  gateDefinitionDigest : draft.gateDefinitionDigest = outcome.gateDefinitionDigest
  orderedGates : draft.orderedGates = outcome.orderedGates
  gateOutcomes : draft.gateOutcomes = outcome.outcomes
  finalResult : draft.finalResult =
    if outcome.allowed then "QUALIFIED".toList else "DENIED".toList
  dispatched : ∃ n : Nat, draft.requestsDispatched = .ofNat n ∧ (outcome.allowed = false → n = 0)
  denied : ∃ n : Nat, draft.deniedBeforeDispatch = .ofNat n

structure WellFormedIdentities (draft : PqReceiptDraft) : Prop where
  gateDefinition : isDigestText draft.gateDefinitionDigest = true
  routeEvidence : isDigestText draft.routeEvidenceIdentity = true
  readOnlyProof : isDigestText draft.readOnlyProofIdentity = true
  parameterProvenance : isDigestText draft.parameterProvenanceIdentity = true
  privacyPolicy : isDigestText draft.privacyPolicyIdentity = true
  organizationWindow : isDigestText draft.organizationWindowIdentity = true
  budget : isDigestText draft.budgetIdentity = true
  checkpoint : isCheckpoint draft.sourceCheckpoint = true

/-- What every returned outcome has in common, the one that is patched after the loop
among them. -/
structure EntryWise (outcome : ProductionAdmissionOutcome) : Prop where
  version : outcome.chainVersion = productionAdmissionChainVersion
  ordered : outcome.orderedGates = productionAdmissionGates
  gates : outcome.outcomes.map (·.gate) = productionAdmissionGates
  codes : ∀ entry ∈ outcome.outcomes, entry.result = .deny ↔ entry.denialCode.isSome = true
  allowed : outcome.allowed = true ↔ ∀ entry ∈ outcome.outcomes, entry.result = .pass

section Sealed

variable {rt : Runtime} {digest digest' : JsString → JsString} {input : ProductionAdmissionInput}
  {world : AdmissionWorld} {outcome : ProductionAdmissionOutcome} {draft : PqReceiptDraft}
  {gates : List ProductionAdmissionGate}

theorem codes_passed :
    ∀ entry ∈ gates.map passed, entry.result = .deny ↔ entry.denialCode.isSome = true := by
  intro entry hentry
  obtain ⟨gate, -, rfl⟩ := List.mem_map.mp hentry
  exact iff_of_false GateResult.noConfusion Bool.false_ne_true

theorem codes_skipped :
    ∀ entry ∈ gates.map skipped, entry.result = .deny ↔ entry.denialCode.isSome = true := by
  intro entry hentry
  obtain ⟨gate, -, rfl⟩ := List.mem_map.mp hentry
  exact iff_of_false GateResult.noConfusion Bool.false_ne_true

theorem entryWise_of_evaluate
    (h : (evaluateProductionAdmission rt digest input world).1 = .ok outcome) :
    EntryWise outcome := by
  have hevaluates := evaluates_evaluateProductionAdmission rt digest input world
  generalize evaluateProductionAdmission rt digest input world = evaluated at hevaluates h
  obtain ⟨result, final⟩ := evaluated
  dsimp only at hevaluates h
  subst h
  cases hevaluates with
  | @denied before after gate code progress hgates hbefore hcheck =>
      have hshape := shape_denied rt digest code progress.reservation hgates
      refine ⟨rfl, rfl, hshape.ordered, ?_, hshape.allowed_iff⟩
      intro entry hentry
      rcases List.mem_append.mp hentry with hmem | hmem
      · exact codes_passed entry hmem
      · rcases List.mem_cons.mp hmem with rfl | hmem
        · simp
        · exact codes_skipped entry hmem
  | @overtaken code registry hpasses hspent =>
      refine ⟨rfl, rfl, rfl, ?_, ?_⟩
      · intro entry hentry
        rcases List.mem_or_eq_of_mem_set hentry with hmem | rfl
        · exact codes_passed entry hmem
        · simp
      · apply iff_of_false Bool.false_ne_true
        intro hall
        have hdeny := hall ⟨.ownerAuthorization, .deny, some code⟩
          (by simp [decision, productionAdmissionGates])
        contradiction
  | allowed hpasses hconsumed =>
      exact ⟨rfl, rfl, map_gate_passed _, codes_passed, iff_of_true rfl result_of_mem_passed⟩

theorem isText_self (text : JsString) : isText (.str text) text = true := isText_iff.mpr rfl

theorem checkOutcome_outcomeValue {entry : GateOutcome}
    (h : entry.result = .deny ↔ entry.denialCode.isSome = true) :
    checkOutcome rt (outcomeValue entry, entry.gate) = .ok () := by
  obtain ⟨gate, result, code⟩ := entry
  dsimp only at h
  have hgate : entryField (outcomeValue ⟨gate, result, code⟩) "gate".toList = .str gate.text := rfl
  have hresult : entryField (outcomeValue ⟨gate, result, code⟩) "result".toList =
      .str result.text := rfl
  have hcode : entryField (outcomeValue ⟨gate, result, code⟩) "denialCode".toList =
      codeValue code := rfl
  rw [checkOutcome]
  refine bind_eq_ok.mpr ⟨(), refuseIf_eq_ok.mpr rfl, ?_⟩
  refine bind_eq_ok.mpr ⟨(), refuseIf_eq_ok.mpr ?_, ?_⟩
  · rw [hgate, isText_self]
    rfl
  · dsimp only
    rw [hresult, hcode, stringOf_str]
    refine bind_eq_ok.mpr ⟨(), refuseIf_eq_ok.mpr ?_, ?_⟩
    · rw [decide_eq_false_iff_not, not_not]
      cases result with
      | _ => decide
    · cases result with
      | deny =>
          obtain ⟨code, rfl⟩ := Option.isSome_iff_exists.mp (h.mp rfl)
          have hknown : productionDenialCodes.any (fun known => isText (.str code.text) known.text) =
              true :=
            List.any_eq_true.mpr ⟨code, mem_productionDenialCodes code, isText_self _⟩
          refine bind_eq_ok.mpr ⟨(), refuseIf_eq_ok.mpr ?_, ?_⟩
          · rw [codeValue, hknown, Bool.not_true, Bool.and_false]
          · exact bind_eq_ok.mpr ⟨(), rfl, rfl⟩
      | pass =>
          have hnone : code = none := Option.not_isSome_iff_eq_none.mp fun hsome =>
            GateResult.noConfusion (h.mpr hsome)
          subst hnone
          exact bind_eq_ok.mpr ⟨(), rfl, bind_eq_ok.mpr ⟨(), rfl, rfl⟩⟩
      | notEvaluated =>
          have hnone : code = none := Option.not_isSome_iff_eq_none.mp fun hsome =>
            GateResult.noConfusion (h.mpr hsome)
          subst hnone
          exact bind_eq_ok.mpr ⟨(), rfl, bind_eq_ok.mpr ⟨(), rfl, rfl⟩⟩

theorem checkOutcomes_outcomeValues {entries : List GateOutcome}
    (hgates : entries.map (·.gate) = productionAdmissionGates)
    (hcodes : ∀ entry ∈ entries, entry.result = .deny ↔ entry.denialCode.isSome = true) :
    checkOutcomes rt (.arr (entries.map outcomeValue)) = .ok (entries.map outcomeValue) := by
  refine checkOutcomes_eq_ok.mpr ⟨rfl, ?_, ?_⟩
  · rw [List.length_map, ← hgates, List.length_map]
  · intro pair hpair
    rw [← hgates, List.zip_map'] at hpair
    obtain ⟨entry, hentry, rfl⟩ := List.mem_map.mp hpair
    exact checkOutcome_outcomeValue (hcodes entry hentry)

theorem checkOrderedGates_gates :
    checkOrderedGates (.arr (productionAdmissionGates.map fun gate => .str gate.text)) = .ok () := by
  decide +kernel

variable {fields : List (JsString × JsValue)}

theorem checkIdentity_eq_ok {key s : JsString}
    (hfield : JsValue.field fields key = .str s) (hs : isDigestText s = true) :
    checkIdentity fields key = .ok () := by
  rw [checkIdentity, hfield]
  exact refuseIf_eq_ok.mpr (by rw [hs, Bool.not_true])

theorem count_ofNat (n : Nat) : count (.num (.ofNat n)) = some (.ofNat n) := by
  have hinteger : (JsNumber.ofNat n).isInteger = true := by
    simp [JsNumber.ofNat, JsNumber.isInteger]
  have hlt : (JsNumber.ofNat n).lt (.ofNat 0) = false := by
    simp [JsNumber.ofNat, JsNumber.lt]
  rw [count, hinteger, hlt]
  rfl

theorem filter_sealed : (draft.fields ++ [("receiptDigest".toList,
      JsValue.str (receiptDigest rt digest draft.fields))]).filter
        (·.1 ≠ "receiptDigest".toList) = draft.fields := rfl

theorem checkAggregates_of_reports (hdispatched : JsValue.field fields "requestsDispatched".toList =
      .num draft.requestsDispatched) (hdenied : JsValue.field fields "deniedBeforeDispatch".toList =
      .num draft.deniedBeforeDispatch)
    (hfinal : JsValue.field fields "finalResult".toList = .str draft.finalResult)
    (hreports : Reports draft outcome) : checkAggregates fields = .ok () := by
  obtain ⟨n, hn, hzero⟩ := hreports.dispatched
  obtain ⟨m, hm⟩ := hreports.denied
  rw [checkAggregates, hdispatched, hdenied, hfinal, hn, hm, count_ofNat, count_ofNat]
  apply refuseIf_eq_ok.mpr
  rw [hreports.finalResult]
  cases hallowed : outcome.allowed with
  | true => rfl
  | false =>
      rw [hzero hallowed]
      simp [JsNumber.ofNat, JsNumber.lt]

theorem identities_of_wellFormed (hidentities : WellFormedIdentities draft) :
    forEach (checkIdentity (draft.fields ++ [("receiptDigest".toList,
      .str (receiptDigest rt digest draft.fields))])) identityKeys = .ok () := by
  rw [forEach_eq_ok]
  intro key hkey
  simp only [identityKeys, List.mem_cons, List.not_mem_nil, or_false] at hkey
  rcases hkey with rfl | rfl | rfl | rfl | rfl | rfl | rfl
  · exact checkIdentity_eq_ok rfl hidentities.gateDefinition
  · exact checkIdentity_eq_ok rfl hidentities.routeEvidence
  · exact checkIdentity_eq_ok rfl hidentities.readOnlyProof
  · exact checkIdentity_eq_ok rfl hidentities.parameterProvenance
  · exact checkIdentity_eq_ok rfl hidentities.privacyPolicy
  · exact checkIdentity_eq_ok rfl hidentities.organizationWindow
  · exact checkIdentity_eq_ok rfl hidentities.budget

theorem all_pass_outcomeValues (entries : List GateOutcome) :
    ((entries.map outcomeValue).all fun entry =>
      isText (entryField entry "result".toList) "PASS".toList) = true ↔
      ∀ entry ∈ entries, entry.result = .pass := by
  rw [List.all_map, List.all_eq_true]
  apply forall₂_congr
  intro entry _
  show isText (.str entry.result.text) "PASS".toList = true ↔ _
  cases entry.result with
  | _ => decide

theorem validatePqReceipt_sealPqReceipt (houtcome : EntryWise outcome)
    (hreports : Reports draft outcome) (hidentities : WellFormedIdentities draft) :
    validatePqReceipt rt digest (sealPqReceipt rt digest draft) = .ok () := by
  have hpassed := all_pass_outcomeValues outcome.outcomes
  rw [← houtcome.allowed] at hpassed
  have hordered : JsValue.arr (draft.orderedGates.map fun gate => .str gate.text) =
      .arr (productionAdmissionGates.map fun gate => .str gate.text) := by
    rw [hreports.orderedGates, houtcome.ordered]
  have hchecked : checkOutcomes rt (.arr (draft.gateOutcomes.map outcomeValue)) =
      .ok (outcome.outcomes.map outcomeValue) := by
    rw [hreports.gateOutcomes]
    exact checkOutcomes_outcomeValues houtcome.gates houtcome.codes
  rw [sealPqReceipt, validatePqReceipt]
  refine bind_eq_ok.mpr ⟨(), refuseIf_eq_ok.mpr ?_, ?_⟩
  · show (!isText (.str draft.schemaVersion) pqReceiptSchema) = false
    rw [hreports.schema, isText_self, Bool.not_true]
  refine bind_eq_ok.mpr ⟨(), refuseIf_eq_ok.mpr ?_, ?_⟩
  · show (!isText (.str draft.chainVersion) productionAdmissionChainVersion) = false
    rw [hreports.chainVersion, houtcome.version, isText_self, Bool.not_true]
  refine bind_eq_ok.mpr ⟨(), ?_, ?_⟩
  · show checkOrderedGates (.arr (draft.orderedGates.map fun gate => .str gate.text)) = .ok ()
    rw [hordered]
    exact checkOrderedGates_gates
  refine bind_eq_ok.mpr ⟨_, hchecked, ?_⟩
  have hfinal : ∀ key, key = "finalResult".toList → JsValue.field (draft.fields ++
      [("receiptDigest".toList, .str (receiptDigest rt digest draft.fields))]) key =
        .str (if outcome.allowed then "QUALIFIED".toList else "DENIED".toList) := by
    rintro key rfl
    rw [← hreports.finalResult]
    rfl
  dsimp only
  rw [hfinal _ rfl]
  refine bind_eq_ok.mpr ⟨(), refuseIf_eq_ok.mpr ?_, ?_⟩
  · cases hallowed : outcome.allowed with
    | true => rw [hpassed.mpr hallowed, Bool.not_true, Bool.and_false]
    | false => rfl
  refine bind_eq_ok.mpr ⟨(), refuseIf_eq_ok.mpr ?_, ?_⟩
  · cases hallowed : outcome.allowed with
    | true => rfl
    | false =>
        rw [Bool.eq_false_iff.mpr fun hall => absurd (hpassed.mp hall) (by simp [hallowed]),
          Bool.and_false]
  refine bind_eq_ok.mpr ⟨(), refuseIf_eq_ok.mpr ?_, ?_⟩
  · rw [stringOf_str, decide_eq_false_iff_not, not_not]
    cases outcome.allowed with
    | _ => decide
  refine bind_eq_ok.mpr ⟨(), identities_of_wellFormed hidentities, ?_⟩
  refine bind_eq_ok.mpr ⟨(), refuseIf_eq_ok.mpr ?_, ?_⟩
  · rw [hidentities.checkpoint, Bool.not_true]
  refine bind_eq_ok.mpr ⟨(), checkAggregates_of_reports rfl rfl rfl hreports, ?_⟩
  apply refuseIf_eq_ok.mpr
  rw [filter_sealed]
  show (!isText (.str (receiptDigest rt digest draft.fields)) _) = false
  rw [isText_self, Bool.not_true]

theorem fields_of_validate {candidate : JsValue}
    (h : validatePqReceipt rt digest candidate = .ok ()) : ∃ fields, candidate = .obj fields := by
  cases candidate with
  | obj fields => exact ⟨fields, rfl⟩
  | _ => contradiction

/-- The outcomes of an accepted receipt are those of a chain exactly when they cohere, and
the validator accepts what is sealed from an outcome of the evaluation. -/
theorem accepted_and_sealed (rt : Runtime) (digest : JsString → JsString) :
    (∀ candidate, validatePqReceipt rt digest candidate = .ok () →
      ∃ fields items, candidate = .obj fields ∧
        JsValue.field fields "gateOutcomes".toList = .arr items ∧
        (Producible fields ↔ Coherent fields items)) ∧
    ∀ chainDigest input world outcome draft,
      (evaluateProductionAdmission rt chainDigest input world).1 = .ok outcome →
      Reports draft outcome → WellFormedIdentities draft →
      validatePqReceipt rt digest (sealPqReceipt rt digest draft) = .ok () := by
  constructor
  · intro candidate h
    obtain ⟨fields, rfl⟩ := fields_of_validate h
    obtain ⟨items, haccepted⟩ := outcomesAccepted_of_validate h
    exact ⟨fields, items, rfl, haccepted.items_eq, producible_iff_coherent haccepted⟩
  · intro chainDigest input world outcome draft h hreports hidentities
    exact validatePqReceipt_sealPqReceipt (entryWise_of_evaluate h) hreports hidentities

end Sealed

def sampleIdentity : JsString := "sample:".toList ++ List.replicate 24 'a'

def sampleDraft (outcomes : List GateOutcome) (allowed : Bool) : PqReceiptDraft where
  schemaVersion := pqReceiptSchema
  campaignId := "campaign".toList
  taskId := "task".toList
  authorizationClass := "PROD_OBSERVE".toList
  authorizationLifecycle := "CONSUMED".toList
  observationStage := "PQ".toList
  environmentClass := "LOCAL".toList
  sourceRepository := "service".toList
  sourceCheckpoint := List.replicate 40 'a'
  sourceInventoryState := "COMPLETE".toList
  sourceCurrencyState := "CURRENT".toList
  chainVersion := productionAdmissionChainVersion
  gateDefinitionDigest := productionChainDefinitionDigest plainRuntime fun _ => List.replicate 24 'a'
  orderedGates := productionAdmissionGates
  gateOutcomes := outcomes
  routeEvidenceIdentity := sampleIdentity
  readOnlyProofIdentity := sampleIdentity
  parameterProvenanceIdentity := sampleIdentity
  privacyPolicyIdentity := sampleIdentity
  containmentIdentity := "PROVEN".toList
  observerIdentityClass := "ORG_ENFORCED_READ_ONLY".toList
  organizationWindowIdentity := sampleIdentity
  budgetIdentity := sampleIdentity
  breakerState := "CLOSED".toList
  killSwitchState := "ABSENT".toList
  requestsDispatched := .ofNat 0
  deniedBeforeDispatch := .ofNat 0
  persistenceAuditResult := "CLEAN".toList
  finalResult := if allowed then "QUALIFIED".toList else "DENIED".toList

theorem wellFormed_sampleDraft (outcomes : List GateOutcome) (allowed : Bool) :
    WellFormedIdentities (sampleDraft outcomes allowed) := by
  have hchain : isDigestText ("prodchain:".toList ++ List.replicate 24 'a') = true := by decide
  have hidentity : isDigestText sampleIdentity = true := by decide
  have hcheckpoint : isCheckpoint (List.replicate 40 'a') = true := by decide
  exact ⟨hchain, hidentity, hidentity, hidentity, hidentity, hidentity, hidentity, hcheckpoint⟩

def borrowedOutcomes : List GateOutcome :=
  ⟨.killSwitchEntry, .deny, some .breakerOpen⟩ :: productionAdmissionGates.tail.map skipped

theorem entryWise_borrowed {digest : JsString → JsString} :
    EntryWise (decision plainRuntime digest borrowedOutcomes false (some .breakerOpen)
      (some .killSwitchEntry) none) where
  version := rfl
  ordered := rfl
  gates := by
    show List.map _ (_ :: _) = _
    rw [List.map_cons, map_gate_skipped]
    rfl
  codes := by
    intro entry hentry
    rcases List.mem_cons.mp hentry with rfl | hmem
    · simp
    · exact codes_skipped entry hmem
  allowed := by
    apply iff_of_false Bool.false_ne_true
    intro hall
    have hdeny := hall _ List.mem_cons_self
    contradiction

/-- The validator accepts a denial with a code that its gate cannot give. -/
theorem borrowed_code_accepted : ∃ fields,
    validatePqReceipt plainRuntime id (.obj fields) = .ok () ∧ ¬ Producible fields := by
  have hreports : Reports (sampleDraft borrowedOutcomes false) (decision plainRuntime
      (fun _ => List.replicate 24 'a') borrowedOutcomes false (some .breakerOpen)
      (some .killSwitchEntry) none) :=
    ⟨rfl, rfl, rfl, rfl, rfl, rfl, ⟨0, rfl, fun _ => rfl⟩, ⟨0, rfl⟩⟩
  refine ⟨_, validatePqReceipt_sealPqReceipt entryWise_borrowed hreports
    (wellFormed_sampleDraft _ _), ?_⟩
  rintro ⟨items, outcomes, allowed, hitems, hforall, hchain, -⟩
  have hsame : borrowedOutcomes.map outcomeValue = items := JsValue.arr.inj hitems
  subst hsame
  obtain ⟨hgates, hcodes⟩ := gates_chainOutcomes hchain
  have hown := ownCodes_of_chain hforall hgates hcodes
    (outcomeValue ⟨.killSwitchEntry, .deny, some .breakerOpen⟩, .killSwitchEntry)
    List.mem_cons_self (by decide)
  obtain ⟨code, hcode, htext⟩ := hown
  rw [gateDenialCodes, List.mem_singleton] at hcode
  subst hcode
  exact absurd (JsValue.str.inj htext) (by decide)

theorem sample_sealed_accepted : ∃ fields items,
    sealPqReceipt plainRuntime id
      (sampleDraft (productionAdmissionGates.map passed) true) = .obj fields ∧
    validatePqReceipt plainRuntime id (.obj fields) = .ok () ∧
    JsValue.field fields "gateOutcomes".toList = .arr items ∧
    (Producible fields ↔ Coherent fields items) := by
  have hsome : (evaluateProductionAdmission plainRuntime (fun _ => List.replicate 24 'a')
      sampleInput sampleWorld).1.toOption.map (·.toAdmissionDecision) =
      some (decision plainRuntime (fun _ => List.replicate 24 'a')
        (productionAdmissionGates.map passed) true none none none).toAdmissionDecision := by
    decide +kernel
  obtain ⟨haccepted, hsealed⟩ := accepted_and_sealed plainRuntime id
  cases hresult : (evaluateProductionAdmission plainRuntime (fun _ => List.replicate 24 'a')
      sampleInput sampleWorld).1 with
  | error message =>
      rw [hresult] at hsome
      contradiction
  | ok outcome =>
      rw [hresult] at hsome
      have hdecision := Option.some.inj hsome
      have hvalid := hsealed _ _ _ outcome (sampleDraft (productionAdmissionGates.map passed) true)
        hresult ⟨rfl, (congrArg (·.chainVersion) hdecision).symm,
          (congrArg (·.gateDefinitionDigest) hdecision).symm,
          (congrArg (·.orderedGates) hdecision).symm, (congrArg (·.outcomes) hdecision).symm,
          by rw [(congrArg (·.allowed) hdecision : outcome.allowed = true)]; rfl,
          ⟨0, rfl, fun _ => rfl⟩, ⟨0, rfl⟩⟩ (wellFormed_sampleDraft _ _)
      obtain ⟨fields, items, hfields, hitems, hiff⟩ := haccepted _ hvalid
      exact ⟨fields, items, hfields, hfields ▸ hvalid, hitems, hiff⟩

end NightWatch.ProdObserve.ReceiptShape
