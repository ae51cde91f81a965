import NightWatch.Lib.JsonLayout
import NightWatch.Lib.Slots
import NightWatch.Oracles.Receipts

namespace NightWatch.Oracles.ReceiptIdentity

open Lib.JsText Lib.JsData Lib.JsRuntime Lib.Json Lib.JsonLayout Lib.Slots Oracles.Invariants
  Oracles.Semantic Oracles.Receipts

def draftSlots (input : SemanticReceiptInput) : List (String × Option JsValue) :=
  [("acceptanceClass", (input.acceptanceClass.map fun c => (acceptanceName c).toList).map .str),
    ("coverageState", (input.coverageState.map fun c => (coverageName c).toList).map .str),
    ("expectationId", input.expectationId.map .str),
    ("findingCount", some (.num (.ofNat input.findingCount))),
    ("inspectedItemCount", input.inspectedItemCount.map fun n => .num (.ofNat n)),
    ("invariantNaCount", some (.num (.ofNat input.invariantNaCount))),
    ("invariantPassCount", some (.num (.ofNat input.invariantPassCount))),
    ("invariantTotal", some (.num (.ofNat input.invariantTotal))),
    ("invariantViolationCount", some (.num (.ofNat input.invariantViolationCount))),
    ("journeyId", input.journeyId.map .str),
    ("operationId", input.operationId.map .str),
    ("oracleId", some (.str input.oracleId)),
    ("outcome", some (.str (outcomeName input.outcome).toList)),
    ("projectionDigests", some (.arr (input.projectionDigests.map .str))),
    ("schemaVersion", some (.str semanticEvaluationReceiptVersion.toList)),
    ("sourceProvenance", input.sourceProvenance.map fun _ => .obj []),
    ("stepId", input.stepId.map .str),
    ("targetId", input.targetId.map .str),
    ("violatingItemCount", input.violatingItemCount.map fun n => .num (.ofNat n))]

def draftNames : List String :=
  ["acceptanceClass", "coverageState", "expectationId", "findingCount", "inspectedItemCount",
    "invariantNaCount", "invariantPassCount", "invariantTotal", "invariantViolationCount",
    "journeyId", "operationId", "oracleId", "outcome", "projectionDigests", "schemaVersion",
    "sourceProvenance", "stepId", "targetId", "violatingItemCount"]

theorem names_draftSlots (input : SemanticReceiptInput) :
    (draftSlots input).map Prod.fst = draftNames := rfl

theorem textField_eq (name : String) (value : Option JsString) :
    textField name value = ((value.map JsValue.str).map fun v => (name.toList, v)).toList := by
  rw [textField, Option.map_map]
  rfl

theorem countField_eq (name : String) (value : Option Nat) : countField name value =
      ((value.map fun n => JsValue.num (.ofNat n)).map fun v => (name.toList, v)).toList := by
  rw [countField, Option.map_map]
  rfl

theorem draftValue_eq (input : SemanticReceiptInput) :
    draftValue input = .obj (ofSlots (draftSlots input)) := by
  simp only [draftValue, draftSlots, ofSlots, textField_eq, countField_eq, List.append_assoc,
    List.append_nil, Option.map_map]
  rfl

def withoutProvenance (input : SemanticReceiptInput) : SemanticReceiptInput :=
  { input with sourceProvenance := none }

/-- Two inputs differ in the provenance alone, and both have one. -/
def SameButProvenance (a b : SemanticReceiptInput) : Prop :=
  withoutProvenance a = withoutProvenance b ∧ a.sourceProvenance.isSome = b.sourceProvenance.isSome

variable {a b : SemanticReceiptInput}

theorem eq_iff_sameButProvenance :
    a = b ↔ SameButProvenance a b ∧ a.sourceProvenance = b.sourceProvenance := by
  constructor
  · rintro rfl
    exact ⟨⟨rfl, rfl⟩, rfl⟩
  · rintro ⟨⟨hsame, -⟩, hprovenance⟩
    obtain ⟨_, _, _, _, _, _, _, _, _, _, _, _, _, _, _, _, _, _⟩ := a
    obtain ⟨_, _, _, _, _, _, _, _, _, _, _, _, _, _, _, _, _, _⟩ := b
    simp only [withoutProvenance, SemanticReceiptInput.mk.injEq] at hsame hprovenance ⊢
    simp only [hsame, hprovenance, and_self]

theorem str_injective : Function.Injective JsValue.str := fun _ _ h => JsValue.str.inj h

theorem num_injective : Function.Injective fun n : Nat => JsValue.num (.ofNat n) :=
  fun _ _ h => ofNat_injective (JsValue.num.inj h)

theorem acceptanceName_injective :
    Function.Injective fun c : SemanticEvidenceAcceptanceClass => (acceptanceName c).toList := by
  intro c d h
  revert h
  cases c <;> cases d <;> decide

theorem coverageName_injective :
    Function.Injective fun c : CoverageState => (coverageName c).toList := by
  intro c d h
  revert h
  cases c <;> cases d <;> decide

theorem outcomeName_injective :
    Function.Injective fun c : SemanticReceiptOutcome => (outcomeName c).toList := by
  intro c d h
  revert h
  cases c <;> cases d <;> decide

theorem draftValue_eq_iff : draftValue a = draftValue b ↔ SameButProvenance a b := by
  constructor
  · intro h
    rw [draftValue_eq, draftValue_eq] at h
    have hdistinct : ((draftSlots a).map Prod.fst).Nodup := by
      rw [names_draftSlots]
      decide
    have hslots := ofSlots_injective (by rw [names_draftSlots, names_draftSlots]) hdistinct
      (JsValue.obj.inj h)
    simp only [draftSlots, List.cons.injEq, Prod.mk.injEq, true_and, and_true] at hslots
    obtain ⟨hacceptance, hcoverage, hexpectation, hfindings, hinspected, hna, hpass, htotal,
      hviolations, hjourney, hoperation, horacle, houtcome, hdigests, hprovenance, hstep, htarget,
      hviolating⟩ := hslots
    have hsome : a.sourceProvenance.isSome = b.sourceProvenance.isSome := by
      simpa using congrArg Option.isSome hprovenance
    refine ⟨?_, hsome⟩
    have htext := Option.map_injective str_injective
    have hcount := Option.map_injective num_injective
    simp only [withoutProvenance, SemanticReceiptInput.mk.injEq]
    exact ⟨str_injective (Option.some.inj horacle),
      outcomeName_injective (str_injective (Option.some.inj houtcome)),
      Option.map_injective acceptanceName_injective (htext hacceptance), htext htarget,
      htext hexpectation, trivial,
      List.map_injective_iff.mpr str_injective (JsValue.arr.inj (Option.some.inj hdigests)),
      num_injective (Option.some.inj htotal), num_injective (Option.some.inj hpass),
      num_injective (Option.some.inj hna), num_injective (Option.some.inj hviolations),
      num_injective (Option.some.inj hfindings), htext hjourney, htext hstep, htext hoperation,
      Option.map_injective coverageName_injective (htext hcoverage), hcount hinspected,
      hcount hviolating⟩
  · rintro ⟨hsame, hsome⟩
    have hwritten (input : SemanticReceiptInput) : draftSlots input =
        (draftSlots (withoutProvenance input)).set 15
          ("sourceProvenance", if input.sourceProvenance.isSome then some (.obj []) else none) := by
      rcases input with ⟨_, _, _, _, _, _ | _, _, _, _, _, _, _, _, _, _, _, _, _⟩ <;> rfl
    rw [draftValue_eq, draftValue_eq, hwritten a, hwritten b, hsame, hsome]

section Identity

variable (rt : Runtime) (sha256Hex : JsString → JsString)

/-- The host writes different whole-number data as different texts. -/
def WritesApart : Prop :=
  ∀ v w, IsData v → IsData w → rt.jsonStringify v = rt.jsonStringify w → v = w

/-- The digests of two texts do not collide. -/
def TellsApart (s t : JsString) : Prop :=
  (sha256Hex s).take 24 = (sha256Hex t).take 24 → s = t

def canonicalText (input : SemanticReceiptInput) : JsString :=
  rt.jsonStringify (draftValue (draftOf input))

/-- Two receipts agree in every safe field but their ids. -/
def SafeFieldsAgree (receipt receipt' : SemanticEvaluationReceipt) : Prop :=
  receipt.toSemanticReceiptInput = receipt'.toSemanticReceiptInput ∧
    receipt.schemaVersion = receipt'.schemaVersion

variable {rt sha256Hex}

theorem isData_ofSlots {slots : List (String × Option JsValue)}
    (h : ∀ slot ∈ slots, ∀ v, slot.2 = some v → IsData v) : IsData (.obj (ofSlots slots)) := by
  apply IsData.obj
  intro v hv
  obtain ⟨field, hfield, rfl⟩ := List.mem_map.mp hv
  clear hv
  induction slots with
  | nil => simp [ofSlots] at hfield
  | cons slot rest ih =>
      rcases List.mem_append.mp hfield with hfield | hfield
      · rw [Option.mem_toList, Option.map_eq_some_iff] at hfield
        obtain ⟨w, hw, rfl⟩ := hfield
        exact h slot (by simp) w hw
      · exact ih (fun other hother => h other (by simp [hother])) hfield

theorem isData_draftValue (input : SemanticReceiptInput) : IsData (draftValue input) := by
  have hcount (n : Nat) : IsData (.num (.ofNat n)) := by
    have hwhole := IsData.num (n : ℤ)
    rwa [Int.cast_natCast] at hwhole
  have hdigests : IsData (.arr (input.projectionDigests.map .str)) := by
    apply IsData.arr
    intro v hv
    obtain ⟨s, -, rfl⟩ := List.mem_map.mp hv
    exact .str s
  have hpresent {w : JsValue} (hw : IsData w) : ∀ v, some w = some v → IsData v := by
    rintro v ⟨⟩
    exact hw
  have hoptional {α : Type} {write : α → JsValue} (hwrite : ∀ x, IsData (write x))
      (value : Option α) : ∀ v, value.map write = some v → IsData v := by
    intro v hv
    obtain ⟨x, -, rfl⟩ := Option.map_eq_some_iff.mp hv
    exact hwrite x
  rw [draftValue_eq]
  apply isData_ofSlots
  simp only [draftSlots, List.forall_mem_cons, List.not_mem_nil, false_implies, implies_true,
    and_true]
  exact ⟨hoptional .str _, hoptional .str _, hoptional .str _, hpresent (hcount _),
    hoptional hcount _, hpresent (hcount _), hpresent (hcount _), hpresent (hcount _),
    hpresent (hcount _), hoptional .str _, hoptional .str _, hpresent (.str _), hpresent (.str _),
    hpresent hdigests, hpresent (.str _), hoptional (fun _ => .obj (by simp)) _, hoptional .str _,
    hoptional .str _, hoptional hcount _⟩

theorem digestId_eq_iff {stem : String} {s t : JsString} (h : TellsApart sha256Hex s t) :
    digestId sha256Hex stem s = digestId sha256Hex stem t ↔ s = t := by
  constructor
  · intro heq
    exact h (List.append_cancel_left heq)
  · rintro rfl
    rfl

variable (rt) in
theorem canonicalText_eq_iff (hwrites : WritesApart rt) {a b : SemanticReceiptInput} :
    canonicalText rt a = canonicalText rt b ↔ SameButProvenance (draftOf a) (draftOf b) := by
  rw [← draftValue_eq_iff]
  constructor
  · intro h
    exact hwrites _ _ (isData_draftValue _) (isData_draftValue _) h
  · intro h
    rw [canonicalText, canonicalText, h]

theorem receiptId_receiptOf (input : SemanticReceiptInput) :
    (receiptOf rt sha256Hex input).receiptId =
      digestId sha256Hex "receipt" (canonicalText rt input) := rfl

theorem safeFieldsAgree_iff {a b : SemanticReceiptInput} :
    SafeFieldsAgree (receiptOf rt sha256Hex a) (receiptOf rt sha256Hex b) ↔ draftOf a = draftOf b :=
  ⟨fun h => h.1, fun h => ⟨h, rfl⟩⟩

/-- Equal ids of accepted receipts mean equal safe fields, and the other way, exactly where
the two do not differ in the provenance alone. -/
theorem receipt_ids_identify_iff (hwrites : WritesApart rt) {a b : SemanticReceiptInput}
    (happart : TellsApart sha256Hex (canonicalText rt a) (canonicalText rt b))
    {receipt receipt' : SemanticEvaluationReceipt}
    (ha : buildSemanticEvaluationReceipt rt sha256Hex a = .ok receipt)
    (hb : buildSemanticEvaluationReceipt rt sha256Hex b = .ok receipt') :
    (receipt.receiptId = receipt'.receiptId ↔ SafeFieldsAgree receipt receipt') ↔
      (SameButProvenance (draftOf a) (draftOf b) → a.sourceProvenance = b.sourceProvenance) := by
  rw [(build_eq_ok.mp ha).2, (build_eq_ok.mp hb).2, receiptId_receiptOf, receiptId_receiptOf,
    digestId_eq_iff happart, canonicalText_eq_iff rt hwrites, safeFieldsAgree_iff,
    eq_iff_sameButProvenance]
  constructor
  · intro h hsame
    exact (h.mp hsame).2
  · intro h
    exact ⟨fun hsame => ⟨hsame, h hsame⟩, And.left⟩

end Identity

theorem writesApart_plainRuntime : WritesApart plainRuntime := by
  intro v w hv hw h
  have hread {v : JsValue} (hv : IsData v) (hlength : (text v).length ≤ (text w).length) :
      readValue (text w).length (text v ++ []) = some (v, []) :=
    readsBack_of_isData hv _ [] hlength stops_nil
  have htexts : text v = text w := h
  have hfirst := hread hv (by rw [htexts])
  rw [htexts, hread hw le_rfl] at hfirst
  exact (Prod.mk.inj (Option.some.inj hfirst)).1.symm

def passedAt (digit : Char) : SemanticReceiptInput where
  oracleId := "oracle".toList
  outcome := .pass
  expectationId := some "expectation".toList
  sourceProvenance := some {
    repoId := "repo".toList
    sha := List.replicate 40 digit
    relativePath := "src/contract.ts".toList
    symbol := none
    derivationVersion := "v1".toList
    evidenceDigest := none }

def zeroHex : JsString → JsString := fun _ => List.replicate 24 '0'

theorem passedAt_built (digit : Char) :
    buildSemanticEvaluationReceipt plainRuntime zeroHex (passedAt digit) =
      .ok (receiptOf plainRuntime zeroHex (passedAt digit)) :=
  build_eq_ok.mpr ⟨rfl, rfl⟩

theorem receipt_ids_identify_iff_passed :
    ((receiptOf plainRuntime zeroHex (passedAt 'a')).receiptId =
        (receiptOf plainRuntime zeroHex (passedAt 'a')).receiptId ↔
      SafeFieldsAgree (receiptOf plainRuntime zeroHex (passedAt 'a'))
        (receiptOf plainRuntime zeroHex (passedAt 'a'))) ↔
      (SameButProvenance (draftOf (passedAt 'a')) (draftOf (passedAt 'a')) →
        (passedAt 'a').sourceProvenance = (passedAt 'a').sourceProvenance) :=
  receipt_ids_identify_iff writesApart_plainRuntime (fun _ => rfl) (passedAt_built 'a')
    (passedAt_built 'a')

/-- Two commits give the same canonical text, so whatever the digest is, the same id. -/
theorem commits_share_an_id : buildSemanticEvaluationReceipt plainRuntime zeroHex (passedAt 'a') =
        .ok (receiptOf plainRuntime zeroHex (passedAt 'a')) ∧
      buildSemanticEvaluationReceipt plainRuntime zeroHex (passedAt 'b') =
        .ok (receiptOf plainRuntime zeroHex (passedAt 'b')) ∧
      canonicalText plainRuntime (passedAt 'a') = canonicalText plainRuntime (passedAt 'b') ∧
      (receiptOf plainRuntime zeroHex (passedAt 'a')).receiptId =
        (receiptOf plainRuntime zeroHex (passedAt 'b')).receiptId ∧
      ¬ SafeFieldsAgree (receiptOf plainRuntime zeroHex (passedAt 'a'))
        (receiptOf plainRuntime zeroHex (passedAt 'b')) := by
  have htexts : canonicalText plainRuntime (passedAt 'a') =
      canonicalText plainRuntime (passedAt 'b') :=
    (canonicalText_eq_iff plainRuntime writesApart_plainRuntime).mpr ⟨rfl, rfl⟩
  refine ⟨passedAt_built 'a', passedAt_built 'b', htexts, ?_, ?_⟩
  · rw [receiptId_receiptOf, receiptId_receiptOf, htexts]
  · rw [safeFieldsAgree_iff, eq_iff_sameButProvenance]
    rintro ⟨-, hprovenance⟩
    revert hprovenance
    decide

end NightWatch.Oracles.ReceiptIdentity
