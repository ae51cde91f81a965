import NightWatch.Triage.ReplayDocuments

/-!
What the identity of a replay plan covers: everything that the validation reads of a document.
It asks for no field that it does not know, but the occurrences may have fields of their own.
-/

namespace NightWatch.Triage.DocumentIdentity

open Lib.JsText Lib.JsData Lib.JsRuntime Lib.Guard Lib.CanonicalText Lib.Slots
open Lib.JsData.JsValue (field field_pair)
open Triage.Types ReplayPlan ReplayDocuments
open ReplayEnvelope (kindText phaseText planVersion)
open ReplayAgreement (then_eq_ok)

section Shapes

/-- An occurrence as the validation reads it: whatever else it holds is not looked at. -/
def IsOccurrence (value : JsValue) (occurrence : ReplayOccurrence) : Prop :=
  ∃ fields, value = .obj fields ∧ field fields "ordinal".toList = ordinalValue occurrence.ordinal ∧
    field fields "expectedActionId".toList = .str occurrence.expectedActionId

/-- The fields of a document that is read as a plan. -/
structure Shape (fields : List (JsString × JsValue)) (plan : TriageReplayPlanV2) : Prop where
  known : ∀ key ∈ fields.map Prod.fst, ∃ name ∈ documentNames, name.toList = key
  values : ∀ slot ∈ documentSlots plan, slot.1 ≠ "originalOccurrences" →
    field fields slot.1.toList = slot.2.getD .undefined
  occurrences : ∃ items, field fields "originalOccurrences".toList = .arr items ∧
    List.Forall₂ IsOccurrence items plan.originalOccurrences

variable {fields : List (JsString × JsValue)} {items : List JsValue} {value : JsValue}
  {s : JsString}

theorem values_iff {plan : TriageReplayPlanV2} :
    (∀ slot ∈ documentSlots plan, slot.1 ≠ "originalOccurrences" →
      field fields slot.1.toList = slot.2.getD .undefined) ↔
    field fields "schemaVersion".toList = .str planVersion ∧
    field fields "candidateKind".toList = .str (kindText plan.candidateKind) ∧
    field fields "anomalyFingerprint".toList = .str plan.anomalyFingerprint ∧
    field fields "retainedOccurrenceOrdinals".toList =
      .arr (plan.retainedOccurrenceOrdinals.map ordinalValue) ∧
    field fields "phase".toList = .str (phaseText plan.phase) ∧
    field fields "targetId".toList = .str plan.targetId ∧
    field fields "contractVersion".toList = .str plan.contractVersion ∧
    field fields "contractDigest".toList = .str plan.contractDigest ∧
    field fields "catalogVersion".toList = .str plan.catalogVersion ∧
    field fields "sourceVersion".toList = .str plan.sourceVersion ∧
    field fields "routeClass".toList = .str plan.routeClass ∧
    field fields "semanticExpectationId".toList =
      (plan.semanticExpectationId.map JsValue.str).getD .undefined ∧
    field fields "sourceEvidenceDigest".toList =
      (plan.sourceEvidenceDigest.map JsValue.str).getD .undefined ∧
    field fields "planId".toList = .str plan.planId := by
  simp only [documentSlots, payloadSlots, List.cons_append, List.nil_append, List.forall_mem_cons,
    List.not_mem_nil, ne_eq, not_true_eq_false, false_implies, true_and, implies_true, and_true,
    Option.getD_some, String.reduceEq, not_false_eq_true, forall_const]

theorem readOccurrences_eq_ok {seen : List ℤ}
    {occurrences : List ReplayOccurrence} : readOccurrences seen items = .ok occurrences ↔
      List.Forall₂ IsOccurrence items occurrences ∧ checkOccurrences seen occurrences = .ok () := by
  induction items generalizing seen occurrences with
  | nil =>
      rw [readOccurrences]
      constructor
      · rintro h
        obtain rfl := Except.ok.inj h
        exact ⟨List.Forall₂.nil, rfl⟩
      · rintro ⟨h, -⟩
        cases h
        rfl
  | cons item rest ih =>
      cases item with
      | obj fields =>
          simp only [readOccurrences, ↓then_eq_ok, bind_eq_ok, wholeOrdinal_eq_ok, stringField_eq_ok,
            ih, Except.ok.injEq]
          constructor
          · rintro ⟨ordinal, ⟨hordinal, hnonneg⟩, hfresh, id, ⟨hid, hform⟩, hsentinel, others,
              ⟨hrest, hcheck⟩, rfl⟩
            refine ⟨List.Forall₂.cons ⟨fields, rfl, hordinal, hid⟩ hrest, ?_⟩
            simp only [checkOccurrences, then_eq_ok]
            exact ⟨failIf_eq_ok.mpr (decide_eq_false (by omega)), hfresh, hform, hsentinel, hcheck⟩
          · rintro ⟨hall, hcheck⟩
            cases hall with
            | @cons _ occurrence _ others hhead hrest =>
                obtain ⟨fields', heq, hordinal, hid⟩ := hhead
                obtain rfl := JsValue.obj.inj heq
                simp only [checkOccurrences, then_eq_ok] at hcheck
                obtain ⟨hnonneg, hfresh, hform, hsentinel, hcheck⟩ := hcheck
                have hsign : 0 ≤ occurrence.ordinal := by
                  have hnot := of_decide_eq_false (failIf_eq_ok.mp hnonneg)
                  omega
                exact ⟨_, ⟨hordinal, hsign⟩, hfresh, _, ⟨hid, hform⟩, hsentinel, others,
                  ⟨hrest, hcheck⟩, rfl⟩
      | _ =>
          simp only [readOccurrences, reduceCtorEq, false_iff]
          rintro ⟨hall, -⟩
          cases hall with
          | cons hhead _ =>
              obtain ⟨fields, heq, -⟩ := hhead
              contradiction

theorem readRetained_eq_ok {ordinals : List ℤ} {retained : List ℤ} :
    readRetained ordinals items = .ok retained ↔
      items = retained.map ordinalValue ∧ checkRetained ordinals retained = .ok () := by
  induction items generalizing retained with
  | nil =>
      cases retained with
      | nil => simp [readRetained, checkRetained]
      | cons z rest => simp [readRetained]
  | cons item rest ih =>
      simp only [readRetained, ↓then_eq_ok, bind_eq_ok, wholeOrdinal_eq_ok, ih, Except.ok.injEq]
      constructor
      · rintro ⟨z, ⟨rfl, hnonneg⟩, hmem, others, ⟨rfl, hcheck⟩, rfl⟩
        refine ⟨rfl, ?_⟩
        simp only [checkRetained, then_eq_ok]
        exact ⟨failIf_eq_ok.mpr (decide_eq_false (by omega)), hmem, hcheck⟩
      · rintro ⟨hitems, hcheck⟩
        cases retained with
        | nil => simp at hitems
        | cons z others =>
            obtain ⟨rfl, rfl⟩ := List.cons.inj hitems
            simp only [checkRetained, then_eq_ok] at hcheck
            obtain ⟨hnonneg, hmem, hcheck⟩ := hcheck
            have hsign : 0 ≤ z := by
              have hnot := of_decide_eq_false (failIf_eq_ok.mp hnonneg)
              omega
            exact ⟨z, ⟨rfl, hsign⟩, hmem, others, ⟨rfl, hcheck⟩, rfl⟩

theorem digestField_eq_ok : validateTriageReplayPlanV2.digestField value = .ok s ↔ value = .str s ∧
      failIf (decide (utf16Length s = 0 ∨ 200 < utf16Length s))
        "contractDigest_LENGTH_INVALID".toList = .ok () ∧
      failIf (!isSha256 s && !isPrefixedDigest s) "contractDigest_PATTERN_INVALID".toList =
        .ok () := by
  cases value with
  | str t =>
      simp only [validateTriageReplayPlanV2.digestField, then_eq_ok, Except.ok.injEq,
        JsValue.str.injEq]
      constructor
      · rintro ⟨hlength, hpattern, rfl⟩
        exact ⟨rfl, hlength, hpattern⟩
      · rintro ⟨rfl, hlength, hpattern⟩
        exact ⟨hlength, hpattern, rfl⟩
  | _ => simp [validateTriageReplayPlanV2.digestField]

theorem planIdField_eq_ok : validateTriageReplayPlanV2.planIdField value = .ok s ↔ value = .str s ∧
      failIf (!isPlanId s) "planId_V2_PATTERN_INVALID".toList = .ok () := by
  cases value with
  | str t =>
      simp only [validateTriageReplayPlanV2.planIdField, then_eq_ok, Except.ok.injEq,
        JsValue.str.injEq]
      rw [and_comm, and_congr_right_iff]
      rintro rfl
      rfl
  | _ => simp [validateTriageReplayPlanV2.planIdField]

variable {rt : Runtime} {hash : JsString → JsString}

theorem validate_obj_eq_ok {plan : TriageReplayPlanV2} :
    ReplayDocuments.validateTriageReplayPlanV2 rt hash (.obj fields) = .ok plan ↔
      Shape fields plan ∧
        ReplayPlan.validateTriageReplayPlanV2 (payloadDigest rt hash) plan = .ok () := by
  have hkinds : ∀ kind : ReplayCandidateKind,
      kind ∈ [ReplayCandidateKind.journey, .exploration, .api] := by
    intro kind
    cases kind <;> decide
  have hphases : ∀ phase : ReplayPhase,
      phase ∈ [ReplayPhase.freshExactReplay, .reducedCandidate] := by
    intro phase
    cases phase <;> decide
  rw [ReplayDocuments.validateTriageReplayPlanV2, ReplayPlan.validateTriageReplayPlanV2]
  simp only [↓then_eq_ok, bind_eq_ok, checkKnownKeys_eq_ok, stringField_eq_ok, optionalField_eq_ok,
    arrayField_eq_ok, wordField_eq_ok kindText_injective hkinds,
    wordField_eq_ok phaseText_injective hphases, readOccurrences_eq_ok, readRetained_eq_ok,
    digestField_eq_ok, planIdField_eq_ok, Except.ok.injEq]
  constructor
  · rintro ⟨hknown, hversion, kind, hkind, phase, hphase, fingerprint, ⟨hfingerprint, hfingerprint'⟩,
      route, ⟨hroute, hroute'⟩, target, ⟨htarget, htarget'⟩, contract, ⟨hcontract, hcontract'⟩,
      digest, ⟨hdigest, hdigest'⟩, catalog, ⟨hcatalog, hcatalog'⟩, source, ⟨hsource, hsource'⟩,
      items, hitems, hlength, original, ⟨hshape, hcheck⟩, ordinals, hordinals, hbound, retained,
      ⟨rfl, hretained⟩, hsubsequence, hfresh, horiginal, hcardinality, expectation,
      ⟨hexpectation, hexpectation'⟩, evidence, ⟨hevidence, hevidence'⟩, planId,
      ⟨hplanId, hplanId'⟩, hid, rfl⟩
    rw [failIf_eq_ok, Bool.not_eq_false', isText_iff] at hversion
    refine ⟨⟨hknown, values_iff.mpr ⟨hversion, hkind, hfingerprint, hordinals, hphase, htarget,
        hcontract, hdigest, hcatalog, hsource, hroute, hexpectation, hevidence, hplanId⟩,
      items, hitems, hshape⟩, hfingerprint', hroute', htarget', hcontract',
      hdigest'.1, hdigest'.2, hcatalog', hsource', ?_, hcheck, ?_, hretained, hsubsequence, hfresh,
      horiginal, hcardinality, hexpectation', hevidence', hplanId', hid⟩
    · simpa only [hshape.length_eq] using hlength
    · simpa only [List.length_map] using hbound
  · rintro ⟨⟨hknown, hvalues, items, hitems, hshape⟩, hfingerprint', hroute', htarget', hcontract',
      hdigest', hdigest'', hcatalog', hsource', hlength, hcheck, hbound, hretained, hsubsequence,
      hfresh, horiginal, hcardinality, hexpectation', hevidence', hplanId', hid⟩
    obtain ⟨hversion, hkind, hfingerprint, hordinals, hphase, htarget, hcontract, hdigest, hcatalog,
      hsource, hroute, hexpectation, hevidence, hplanId⟩ := values_iff.mp hvalues
    refine ⟨hknown, ?_, plan.candidateKind, hkind, plan.phase, hphase, plan.anomalyFingerprint,
      ⟨hfingerprint, hfingerprint'⟩, plan.routeClass, ⟨hroute, hroute'⟩, plan.targetId,
      ⟨htarget, htarget'⟩, plan.contractVersion, ⟨hcontract, hcontract'⟩, plan.contractDigest,
      ⟨hdigest, hdigest', hdigest''⟩, plan.catalogVersion, ⟨hcatalog, hcatalog'⟩,
      plan.sourceVersion, ⟨hsource, hsource'⟩, items, hitems, ?_, plan.originalOccurrences,
      ⟨hshape, hcheck⟩, _, hordinals, ?_, plan.retainedOccurrenceOrdinals, ⟨rfl, hretained⟩,
      hsubsequence, hfresh, horiginal, hcardinality, plan.semanticExpectationId,
      ⟨hexpectation, hexpectation'⟩, plan.sourceEvidenceDigest, ⟨hevidence, hevidence'⟩,
      plan.planId, ⟨hplanId, hplanId'⟩, hid, rfl⟩
    · rw [failIf_eq_ok, Bool.not_eq_false', isText_iff]
      exact hversion
    · simpa only [hshape.length_eq] using hlength
    · simpa only [List.length_map] using hbound

end Shapes

section Documents

/-- No occurrence of the document has a field but the two that the validation reads. -/
def Closed (document : JsValue) : Prop :=
  ∀ fields items occurrence, document = .obj fields →
    field fields "originalOccurrences".toList = .arr items → .obj occurrence ∈ items →
    ∀ name, name ≠ "ordinal".toList → name ≠ "expectedActionId".toList →
      field occurrence name = .undefined

variable {plan : TriageReplayPlanV2}

theorem nodup_payloadNames : payloadNames.Nodup := by decide

theorem nodup_documentNames : documentNames.Nodup := by decide

theorem isOccurrence_occurrenceValue (occurrence : ReplayOccurrence) :
    IsOccurrence (occurrenceValue occurrence) occurrence := by
  refine ⟨_, rfl, ?_, ?_⟩
  · rw [field_pair, if_pos rfl]
  · rw [field_pair, if_neg (by decide), if_pos rfl]

theorem same_occurrenceValue {value : JsValue} {occurrence : ReplayOccurrence}
    (h : IsOccurrence value occurrence)
    (hclosed : ∀ fields, value = .obj fields → ∀ name, name ≠ "ordinal".toList →
      name ≠ "expectedActionId".toList → field fields name = .undefined) :
    Same value (occurrenceValue occurrence) := by
  obtain ⟨fields, rfl, hordinal, hid⟩ := h
  refine .obj fun name => ?_
  rw [field_pair]
  split
  · next hname =>
      rw [hname, hordinal]
      exact .num _
  · next hfirst =>
      split
      · next hname =>
          rw [hname, hid]
          exact .str _
      · next hsecond =>
          rw [hclosed fields rfl name hfirst hsecond]
          exact .undefined

theorem occurrenceValue_inj {o o' : ReplayOccurrence}
    (h : Same (occurrenceValue o) (occurrenceValue o')) : o = o' := by
  cases h with
  | obj hfields =>
      have hordinal := hfields "ordinal".toList
      have hid := hfields "expectedActionId".toList
      rw [field_pair, field_pair, if_pos rfl, if_pos rfl] at hordinal
      have hne : "expectedActionId".toList ≠ "ordinal".toList := by decide
      rw [field_pair, field_pair, if_neg hne, if_neg hne, if_pos rfl, if_pos rfl] at hid
      have hnumber := Rat.intCast_injective (JsNumber.finite.inj (same_num hordinal))
      obtain ⟨ordinal, id⟩ := o
      obtain ⟨ordinal', id'⟩ := o'
      obtain rfl : ordinal = ordinal' := hnumber
      obtain rfl : id = id' := same_str hid
      rfl

theorem ordinalValue_inj {y z : ℤ} (h : Same (ordinalValue y) (ordinalValue z)) : y = z :=
  Rat.intCast_injective (JsNumber.finite.inj (same_num h))

variable {name : String} {fields : List (JsString × JsValue)}

variable (plan) in
theorem exists_slot (h : name ∈ documentNames) : ∃ value, (name, value) ∈ documentSlots plan := by
  rw [← names_documentSlots plan] at h
  obtain ⟨⟨_, value⟩, hmem, rfl⟩ := List.mem_map.mp h
  exact ⟨value, hmem⟩

theorem occurrences_slot : ("originalOccurrences",
    some (JsValue.arr (plan.originalOccurrences.map occurrenceValue))) ∈ documentSlots plan := by
  refine List.mem_append_left _ ?_
  exact List.mem_cons_of_mem _ (List.mem_cons_of_mem _ (List.mem_cons_of_mem _
    List.mem_cons_self))

theorem field_documentOf {value : Option JsValue} (h : (name, value) ∈ documentSlots plan) :
    field (ofSlots (documentSlots plan)) name.toList = value.getD .undefined := by
  have hnodup : ((documentSlots plan).map Prod.fst).Nodup := nodup_documentNames
  exact field_ofSlots hnodup h

theorem shape_documentOf : Shape (ofSlots (documentSlots plan)) plan where
  known := by
    intro key hkey
    obtain ⟨entry, hentry, rfl⟩ := List.mem_map.mp hkey
    obtain ⟨name, hname, heq⟩ := name_mem_of_mem_ofSlots hentry
    exact ⟨name, names_documentSlots plan ▸ hname, heq.symm⟩
  values := fun slot hslot _ => field_documentOf hslot
  occurrences := by
    refine ⟨_, field_documentOf occurrences_slot, ?_⟩
    refine List.forall₂_map_left_iff.mpr (List.forall₂_same.mpr fun occurrence _ => ?_)
    exact isOccurrence_occurrenceValue occurrence

theorem Shape.same (h : Shape fields plan)
    (hclosed : Closed (.obj fields)) : Same (.obj fields) (documentOf plan) := by
  refine .obj fun key => ?_
  by_cases hkey : ∃ name ∈ documentNames, name.toList = key
  · obtain ⟨name, hname, rfl⟩ := hkey
    obtain ⟨value, hslot⟩ := exists_slot plan hname
    by_cases hoccurrences : name = "originalOccurrences"
    · subst hoccurrences
      obtain ⟨items, hitems, hall⟩ := h.occurrences
      rw [hitems, field_documentOf occurrences_slot]
      refine same_arr_of_forall₂ (List.forall₂_map_right_iff.mpr ?_)
      refine List.forall₂_iff_get.mpr ⟨hall.length_eq, fun i hi hi' => ?_⟩
      refine same_occurrenceValue ((List.forall₂_iff_get.mp hall).2 i hi hi') fun occurrence hobj => ?_
      exact hclosed fields items occurrence rfl hitems (hobj ▸ List.get_mem items ⟨i, hi⟩)
    · rw [h.values _ hslot hoccurrences, field_documentOf hslot]
      exact same_refl _
  · have habsent : field fields key = .undefined := by
      have hlookup : fields.lookup key = none := by
        rw [List.lookup_eq_none_iff]
        intro entry hentry
        have hne : key ≠ entry.1 := by
          rintro rfl
          exact hkey (h.known _ (List.mem_map_of_mem hentry))
        simpa using hne
      rw [field, hlookup]
      rfl
    rw [habsent, field_ofSlots_of_not_mem]
    · exact .undefined
    · rintro name hname rfl
      exact hkey ⟨name, names_documentSlots plan ▸ hname, rfl⟩

theorem closed_of_same (h : Same (documentOf plan) (.obj fields)) : Closed (.obj fields) := by
  rintro fields' items occurrence heq hitems hmem name hordinal hid
  obtain rfl := JsValue.obj.inj heq
  cases h with
  | obj hfields =>
      have hsame := hfields "originalOccurrences".toList
      rw [field_documentOf occurrences_slot, hitems] at hsame
      cases hsame with
      | arr hlength hall =>
          obtain ⟨i, hi, hget⟩ := List.getElem_of_mem hmem
          have hvalue := hall i (by omega) hi
          rw [List.getElem_map, hget] at hvalue
          cases hvalue with
          | obj hvalues =>
              have hname := hvalues name
              rw [field_pair, if_neg hordinal, if_neg hid] at hname
              exact same_undefined hname

end Documents

section Payloads

/-- What the identity of an accepted plan rests on. -/
structure Accepted (digest : TriageReplayPlanV2 → JsString) (plan : TriageReplayPlanV2) : Prop where
  nonneg : ∀ occurrence ∈ plan.originalOccurrences, 0 ≤ occurrence.ordinal
  nodup : (plan.originalOccurrences.map ReplayOccurrence.ordinal).Nodup
  retained : plan.retainedOccurrenceOrdinals.Sublist
    (plan.originalOccurrences.map ReplayOccurrence.ordinal)
  identity : plan.planId = deterministicPlanIdV2 digest plan

variable {digest : TriageReplayPlanV2 → JsString} {plan p q : TriageReplayPlanV2}

theorem accepted_of_validate (h : ReplayPlan.validateTriageReplayPlanV2 digest plan = .ok ()) :
    Accepted digest plan := by
  simp only [ReplayPlan.validateTriageReplayPlanV2, then_eq_ok, failIf_eq_ok] at h
  obtain ⟨-, -, -, -, -, -, -, -, -, hoccurrences, -, -, hsubsequence, -, -, -, -, -, -, hid⟩ := h
  obtain ⟨hall, hnodup, -⟩ := ReplayAgreement.checkOccurrences_eq_ok hoccurrences
  exact {
    nonneg := fun occurrence hmem => (hall occurrence hmem).1
    nodup := hnodup
    retained := ReplayAgreement.sublist_of_orderPreserving (by simpa using hsubsequence)
    identity := by simpa using hid }

theorem sublist_eq_filter {l l' : List ℤ} (h : l'.Sublist l) (hnodup : l.Nodup) :
    l' = l.filter (· ∈ l') := by
  induction h with
  | slnil => rfl
  | @cons l' l a hsub ih =>
      obtain ⟨hfresh, hnodup⟩ := List.nodup_cons.mp hnodup
      have hnot : a ∉ l' := fun hmem => hfresh (hsub.subset hmem)
      rw [List.filter_cons_of_neg (by simpa using hnot)]
      exact ih hnodup
  | @cons_cons l' l a hsub ih =>
      obtain ⟨hfresh, hnodup⟩ := List.nodup_cons.mp hnodup
      rw [List.filter_cons_of_pos (by simp), List.cons.injEq]
      refine ⟨rfl, ?_⟩
      rw [← List.filter_congr fun b hb => ?_]
      · exact ih hnodup
      · have hne : b ≠ a := fun heq => hfresh (heq ▸ hb)
        simp [hne]

theorem sublist_unique {l l₁ l₂ : List ℤ} (h₁ : l₁.Sublist l) (h₂ : l₂.Sublist l)
    (hnodup : l.Nodup) (hperm : l₁.Perm l₂) : l₁ = l₂ := by
  rw [sublist_eq_filter h₁ hnodup, sublist_eq_filter h₂ hnodup]
  exact List.filter_congr fun a _ => by simp [hperm.mem_iff]

theorem plain_ordinal {z : ℤ} (h : 0 ≤ z) : Plain (ordinalValue z) := by
  obtain ⟨n, rfl⟩ := Int.eq_ofNat_of_zero_le h
  have hnumber : ordinalValue (n : ℤ) = .num (.ofNat n) := by
    simp [ordinalValue, JsNumber.ofNat]
  rw [hnumber]
  exact .num n

theorem Accepted.plain (h : Accepted digest plan) : Plain (payloadValue (planPayload plan)) := by
  have hretained : ∀ v ∈ (plan.retainedOccurrenceOrdinals.mergeSort).map ordinalValue,
      Plain v := by
    intro v hv
    obtain ⟨ordinal, hmem, rfl⟩ := List.mem_map.mp hv
    have hsorted := (List.mergeSort_perm _ _).mem_iff.mp hmem
    obtain ⟨occurrence, hoccurrence, rfl⟩ := List.mem_map.mp (h.retained.subset hsorted)
    exact plain_ordinal (h.nonneg occurrence hoccurrence)
  have horiginal : ∀ v ∈ plan.originalOccurrences.map occurrenceValue, Plain v := by
    intro v hv
    obtain ⟨occurrence, hmem, rfl⟩ := List.mem_map.mp hv
    refine .obj (by simp) ?_
    simp only [List.forall_mem_cons, List.not_mem_nil, false_implies, implies_true, and_true]
    exact ⟨plain_ordinal (h.nonneg occurrence hmem), .str _⟩
  have hslots : ∀ slot ∈ payloadSlots (planPayload plan), ∀ v, slot.2 = some v → Plain v := by
    simp only [payloadSlots, planPayload, List.forall_mem_cons, Option.some.injEq, forall_eq',
      List.not_mem_nil, false_implies, implies_true, and_true]
    refine ⟨.str _, .str _, .str _, .arr horiginal, .arr hretained, .str _, .str _, .str _, .str _,
      .str _, .str _, .str _, ?_, ?_⟩
    · intro v hv
      obtain ⟨s, -, rfl⟩ := Option.map_eq_some_iff.mp hv
      exact .str s
    · intro v hv
      obtain ⟨s, -, rfl⟩ := Option.map_eq_some_iff.mp hv
      exact .str s
  refine .obj (nodup_ofSlots nodup_payloadNames) fun entry hentry => ?_
  obtain ⟨key, v⟩ := entry
  obtain ⟨name, hslot, -⟩ := mem_ofSlots.mp hentry
  exact hslots _ hslot v rfl

theorem plan_eq_of_payload (hp : Accepted digest p) (hq : Accepted digest q)
    (hid : p.planId = q.planId)
    (h : Same (payloadValue (planPayload p)) (payloadValue (planPayload q))) : p = q := by
  have hnames : (payloadSlots (planPayload p)).map Prod.fst =
      (payloadSlots (planPayload q)).map Prod.fst := rfl
  have hnodup : ((payloadSlots (planPayload p)).map Prod.fst).Nodup := nodup_payloadNames
  have hslots := forall₂_of_same hnames hnodup h
  simp only [payloadSlots, planPayload, List.forall₂_cons, Option.getD_some] at hslots
  obtain ⟨-, hkind, hfingerprint, horiginal, hretained, hphase, htarget, hcontract, hdigest,
    hcatalog, hsource, hroute, hexpectation, hevidence, -⟩ := hslots
  have horiginal := same_map (fun _ _ => occurrenceValue_inj) horiginal
  have hsorted := same_map (fun _ _ => ordinalValue_inj) hretained
  have hperm : p.retainedOccurrenceOrdinals.Perm q.retainedOccurrenceOrdinals := by
    have hleft : p.retainedOccurrenceOrdinals.mergeSort.Perm p.retainedOccurrenceOrdinals :=
      List.mergeSort_perm _ _
    rw [hsorted] at hleft
    exact hleft.symm.trans (List.mergeSort_perm _ _)
  have hretained := sublist_unique hp.retained (horiginal ▸ hq.retained) hp.nodup hperm
  have hkind := kindText_injective (same_str hkind)
  have hphase := phaseText_injective (same_str hphase)
  obtain ⟨⟩ := p
  obtain ⟨⟩ := q
  simp only at hid hkind horiginal hretained hphase
  simp only [TriageReplayPlanV2.mk.injEq]
  exact ⟨hid, hkind, same_str hfingerprint, horiginal, hretained, hphase, same_str htarget,
    same_str hcontract, same_str hdigest, same_str hcatalog, same_str hsource, same_str hroute,
    same_optional hexpectation, same_optional hevidence⟩

end Payloads

section Identity

variable {rt : Runtime} {hash : JsString → JsString} {a b : JsValue} {p q : TriageReplayPlanV2}

theorem validate_eq_ok : ReplayDocuments.validateTriageReplayPlanV2 rt hash a = .ok p ↔
    ∃ fields, a = .obj fields ∧ Shape fields p ∧
      ReplayPlan.validateTriageReplayPlanV2 (payloadDigest rt hash) p = .ok () := by
  cases a with
  | obj fields =>
      rw [validate_obj_eq_ok]
      simp
  | _ => simp [ReplayDocuments.validateTriageReplayPlanV2]

theorem create_eq (h : ReplayDocuments.validateTriageReplayPlanV2 rt hash a = .ok p) :
    createTriageReplayPlanV2 rt hash p = .ok (documentOf p) := by
  obtain ⟨fields, rfl, -, hvalid⟩ := validate_eq_ok.mp h
  have hplan : { p with planId := deterministicPlanIdV2 (payloadDigest rt hash) p } = p := by
    rw [← (accepted_of_validate hvalid).identity]
  have hdocument : ReplayDocuments.validateTriageReplayPlanV2 rt hash (documentOf p) = .ok p :=
    validate_obj_eq_ok.mpr ⟨shape_documentOf, hvalid⟩
  simp only [createTriageReplayPlanV2, hplan, hdocument]

/-- The identities of two accepted documents cover them, and the constructor makes them
again. -/
structure Identified (rt : Runtime) (hash : JsString → JsString) (a b : JsValue)
    (p q : TriageReplayPlanV2) : Prop where
  covered : p.planId = q.planId → Same a b
  recreated : ∃ document, createTriageReplayPlanV2 rt hash p = .ok document ∧ Same document a
  recreated' : ∃ document, createTriageReplayPlanV2 rt hash q = .ok document ∧ Same document b

/-- The identities cover two accepted documents exactly where no occurrence has a field of its
own. -/
theorem identified_iff (hnumbers : WritesCounts rt.numberText)
    (ha : ReplayDocuments.validateTriageReplayPlanV2 rt hash a = .ok p)
    (hb : ReplayDocuments.validateTriageReplayPlanV2 rt hash b = .ok q)
    (hcollision : hash (payloadText rt p) = hash (payloadText rt q) →
      payloadText rt p = payloadText rt q) : Identified rt hash a b p q ↔ Closed a ∧ Closed b := by
  have hcreate := create_eq ha
  have hcreate' := create_eq hb
  obtain ⟨fields, rfl, hshape, hvalid⟩ := validate_eq_ok.mp ha
  obtain ⟨fields', rfl, hshape', hvalid'⟩ := validate_eq_ok.mp hb
  have hp := accepted_of_validate hvalid
  have hq := accepted_of_validate hvalid'
  constructor
  · rintro ⟨-, ⟨document, hdocument, hsame⟩, document', hdocument', hsame'⟩
    obtain rfl := Except.ok.inj (hcreate.symm.trans hdocument)
    obtain rfl := Except.ok.inj (hcreate'.symm.trans hdocument')
    exact ⟨closed_of_same hsame, closed_of_same hsame'⟩
  · rintro ⟨hclosed, hclosed'⟩
    have hsame := hshape.same hclosed
    have hsame' := hshape'.same hclosed'
    refine ⟨fun hid => ?_, ⟨_, hcreate, hsame.symm⟩, _, hcreate', hsame'.symm⟩
    have hhash : hash (payloadText rt p) = hash (payloadText rt q) := by
      have hids := hid
      rw [hp.identity, hq.identity] at hids
      exact List.append_cancel_left hids
    have hpayload := same_of_canonical hnumbers hp.plain hq.plain (hcollision hhash)
    rw [← plan_eq_of_payload hp hq hid hpayload] at hsame'
    exact hsame.trans hsame'.symm

private theorem validate_congr {digest digest' : TriageReplayPlanV2 → JsString}
    {plan : TriageReplayPlanV2}
    (h : deterministicPlanIdV2 digest plan = deterministicPlanIdV2 digest' plan) :
    ReplayPlan.validateTriageReplayPlanV2 digest plan =
      ReplayPlan.validateTriageReplayPlanV2 digest' plan := by
  simp only [ReplayPlan.validateTriageReplayPlanV2, h]

private def readingPlan : TriageReplayPlanV2 where
  planId := "rp2:sha256:".toList ++ List.replicate 24 '0'
  candidateKind := .api
  anomalyFingerprint := "fp:sha256:".toList ++ List.replicate 24 'a'
  originalOccurrences := [⟨0, "ripple.payer-exchange.read".toList⟩]
  retainedOccurrenceOrdinals := [0]
  phase := .freshExactReplay
  targetId := "payer-exchange".toList
  contractVersion := "v1".toList
  contractDigest := List.replicate 64 'b'
  catalogVersion := "v1".toList
  sourceVersion := "v1".toList
  routeClass := "/ripple/payer".toList
  semanticExpectationId := none
  sourceEvidenceDigest := none

private def zeros : JsString := List.replicate 24 '0'

private def swappingHash : JsString → JsString :=
  Equiv.swap (payloadText plainRuntime readingPlan) zeros

private theorem swappingHash_injective : Function.Injective swappingHash :=
  (Equiv.swap _ _).injective

private theorem readingPlan_valid :
    ReplayPlan.validateTriageReplayPlanV2 (payloadDigest plainRuntime swappingHash) readingPlan =
      .ok () := by
  have hid : deterministicPlanIdV2 (payloadDigest plainRuntime swappingHash) readingPlan =
      deterministicPlanIdV2 (fun _ => zeros) readingPlan := by
    have hswap : swappingHash (payloadText plainRuntime readingPlan) = zeros :=
      Equiv.swap_apply_left _ _
    exact congrArg ("rp2:sha256:".toList ++ ·) hswap
  rw [validate_congr hid]
  decide +kernel

private def annotated (notes : List (JsString × JsValue)) : JsValue :=
  .obj (ofSlots ((documentSlots readingPlan).map fun slot =>
    if slot.1 = "originalOccurrences" then
      (slot.1, some (.arr [.obj ([("ordinal".toList, .num (.finite 0)),
        ("expectedActionId".toList, .str "ripple.payer-exchange.read".toList)] ++ notes)]))
    else slot))

private def note : List (JsString × JsValue) := [("note".toList, .str "unseen".toList)]

private theorem annotated_valid {notes : List (JsString × JsValue)}
    (h : ReplayDocuments.validateTriageReplayPlanV2 plainRuntime (fun _ => zeros)
      (annotated notes) = .ok readingPlan) :
    ReplayDocuments.validateTriageReplayPlanV2 plainRuntime swappingHash (annotated notes) =
      .ok readingPlan :=
  validate_obj_eq_ok.mpr ⟨(validate_obj_eq_ok.mp h).1, readingPlan_valid⟩

private theorem bare_valid : ReplayDocuments.validateTriageReplayPlanV2 plainRuntime swappingHash
    (annotated []) = .ok readingPlan := annotated_valid (by decide +kernel)

private theorem noted_valid : ReplayDocuments.validateTriageReplayPlanV2 plainRuntime swappingHash
    (annotated note) = .ok readingPlan := annotated_valid (by decide +kernel)

theorem identified_iff_annotated :
    Identified plainRuntime swappingHash (annotated []) (annotated note) readingPlan readingPlan ↔
      Closed (annotated []) ∧ Closed (annotated note) :=
  identified_iff writesCounts_plain bare_valid noted_valid fun _ => rfl

/-- Two documents of one identity, one of which has more to say of its occurrence. -/
theorem note_is_not_covered : Function.Injective swappingHash ∧
      ReplayDocuments.validateTriageReplayPlanV2 plainRuntime swappingHash (annotated []) =
        .ok readingPlan ∧
      ReplayDocuments.validateTriageReplayPlanV2 plainRuntime swappingHash (annotated note) =
        .ok readingPlan ∧ ¬ Same (annotated []) (annotated note) := by
  refine ⟨swappingHash_injective, bare_valid, noted_valid, fun hsame => ?_⟩
  have hvalue : ∀ notes, ∃ fields, annotated notes = .obj fields ∧
      field fields "originalOccurrences".toList = .arr [.obj ([("ordinal".toList,
        .num (.finite 0)), ("expectedActionId".toList,
        .str "ripple.payer-exchange.read".toList)] ++ notes)] := by
    intro notes
    exact ⟨_, rfl, rfl⟩
  obtain ⟨fields, hfields, hvalue₁⟩ := hvalue []
  obtain ⟨fields', hfields', hvalue₂⟩ := hvalue note
  rw [hfields, hfields'] at hsame
  cases hsame with
  | obj hall =>
      have hoccurrences := hall "originalOccurrences".toList
      rw [hvalue₁, hvalue₂] at hoccurrences
      cases hoccurrences with
      | arr _ hitems =>
          have hoccurrence := hitems 0 (by decide) (by decide)
          cases hoccurrence with
          | obj hnotes =>
              have hnote : Same .undefined (.str "unseen".toList) := hnotes "note".toList
              cases hnote

end Identity

end NightWatch.Triage.DocumentIdentity
