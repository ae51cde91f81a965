import NightWatch.AgentRuntime.Exhaustion
import NightWatch.WorkingMemory.Attempts

namespace NightWatch.WorkingMemory.Secrets

open Lib.JsText Lib.JsData Lib.Grouping AgentProtocol.Actions AgentProtocol.Validate
  AgentRuntime.ToolResults AgentRuntime.State AgentRuntime.Runtime
open AgentRuntime.Exhaustion (sampleDeps)
open WorkingMemory.Ledger WorkingMemory.Derive WorkingMemory.Attempts

section Strings

variable {cap : Nat}

/-- The same text, or two secrets that a cut leaves in the shape of one. -/
def Swapped (cap : Nat) (s s' : JsString) : Prop :=
  s = s' ∨ (hasSecret (trimmed cap s) = true ∧ hasSecret (trimmed cap s') = true)

variable {s : JsString} {max : Nat} {values : List JsString}

theorem boundedString_of_secret (h : hasSecret (trimmed cap s) = true) :
    boundedString (some s) cap = none := by
  rw [boundedString, Option.bind_some, h]
  split
  · rfl
  · rfl

theorem boundedString_swapped {s' : JsString} (h : Swapped cap s s') :
    boundedString (some s) cap = boundedString (some s') cap := by
  rcases h with rfl | ⟨hs, hs'⟩
  · rfl
  · rw [boundedString_of_secret hs, boundedString_of_secret hs']

variable {value : Option JsString} {out values' : List JsString}

theorem boundedString_rel {value' : Option JsString} (h : Option.Rel (Swapped cap) value value') :
    boundedString value cap = boundedString value' cap := by
  cases h with
  | none => rfl
  | some h => exact boundedString_swapped h

theorem boundedListFrom_swapped (h : List.Forall₂ (Swapped cap) values values') :
    boundedListFrom max cap out values = boundedListFrom max cap out values' := by
  induction h generalizing out with
  | nil => rfl
  | cons hfirst _ ih =>
      rw [boundedListFrom, boundedListFrom, boundedString_swapped hfirst]
      split
      · rfl
      · split
        · exact ih
        · split
          · exact ih
          · exact ih

theorem boundedList_swapped (max : Nat) {values values' : List JsString}
    (h : List.Forall₂ (Swapped cap) values values') :
    boundedList values max cap = boundedList values' max cap := boundedListFrom_swapped h

theorem addSalient_swapped {salient : List JsString}
    (h : List.Forall₂ (Swapped salientChars) values values') :
    addSalient salient values = addSalient salient values' := by
  induction h generalizing salient with
  | nil => rfl
  | cons hfirst _ ih =>
      rw [addSalient, addSalient, boundedString_swapped hfirst]
      split
      · rfl
      · split
        · exact ih
        · split
          · exact ih
          · exact ih

theorem utf16Length_cons (c : Char) (s : JsString) :
    utf16Length (c :: s) = utf16Length [c] + utf16Length s := by
  simp [utf16Length]

theorem utf16Length_cutUnits (max : Nat) (s : JsString) : utf16Length (cutUnits max s) ≤ max := by
  induction s generalizing max with
  | nil =>
      rw [cutUnits]
      exact Nat.zero_le max
  | cons c rest ih =>
      rw [cutUnits]
      split
      · rename_i hfits
        have hrest := ih (max - utf16Length [c])
        rw [utf16Length_cons]
        omega
      · exact Nat.zero_le max

theorem utf16Length_trimmed (max : Nat) (s : JsString) : utf16Length (trimmed max s) ≤ max := by
  rw [trimmed]
  split
  · exact utf16Length_cutUnits max s
  · omega

/-- A text that working memory keeps as it is. -/
def Kept (cap : Nat) (s : JsString) : Prop := hasSecret (trimmed cap s) = false ∧ trimmed cap s = s

theorem kept_of_bounded (h : boundedString value cap = some s) : Kept cap s := by
  obtain ⟨t, -, h⟩ := Option.bind_eq_some_iff.mp h
  split at h
  · contradiction
  · split at h
    · contradiction
    · rename_i hsecret
      obtain rfl := Option.some.inj h
      have hidempotent : trimmed cap (trimmed cap t) = trimmed cap t :=
        if_neg (Nat.not_lt.mpr (utf16Length_trimmed cap t))
      refine ⟨?_, hidempotent⟩
      rw [hidempotent]
      exact Bool.eq_false_iff.mpr hsecret

theorem Kept.mem_iff (h : Kept cap s) {values values' : List JsString}
    (hvalues : List.Forall₂ (Swapped cap) values values') : s ∈ values ↔ s ∈ values' := by
  induction hvalues with
  | nil => exact Iff.rfl
  | cons hfirst _ ih =>
      rw [List.mem_cons, List.mem_cons, ih]
      refine or_congr ?_ Iff.rfl
      rcases hfirst with rfl | ⟨hs, hs'⟩
      · exact Iff.rfl
      · constructor
        · rintro rfl
          rw [h.1] at hs
          contradiction
        · rintro rfl
          rw [h.1] at hs'
          contradiction

theorem kept_of_mem_boundedListFrom
    (hout : ∀ s ∈ out, Kept cap s) : ∀ s ∈ boundedListFrom max cap out values, Kept cap s := by
  induction values generalizing out with
  | nil => exact hout
  | cons value rest ih =>
      rw [boundedListFrom]
      split
      · exact hout
      · split
        · exact ih hout
        · rename_i bounded hbounded
          split
          · exact ih hout
          · refine ih ?_
            intro s hs
            rcases List.mem_append.mp hs with hold | hnew
            · exact hout s hold
            · obtain rfl := List.mem_singleton.mp hnew
              exact kept_of_bounded hbounded

theorem kept_of_mem_boundedList (h : s ∈ boundedList values max cap) : Kept cap s :=
  kept_of_mem_boundedListFrom (by simp) s h

end Strings

/-- Two records that differ in secrets alone; references are renamed by `f`. -/
structure SwappedRecord (f : JsString → JsString) (record record' : AgentActionRecord) : Prop where
  turnId : record.turnId = record'.turnId
  phase : record.phase = record'.phase
  intentKind : record.intentKind = record'.intentKind
  toolId : record.toolId = record'.toolId
  argumentDigest : record.argumentDigest = record'.argumentDigest
  resultClass : record.resultClass = record'.resultClass
  evidenceRefs : record'.evidenceRefs = record.evidenceRefs.map f
  swappedRefs : ∀ ref ∈ record.evidenceRefs, Swapped evidenceRefChars ref (f ref)
  target : Option.Rel (Swapped targetChars) record.target record'.target
  salient : List.Forall₂ (Swapped salientChars) (record.salient.getD []) (record'.salient.getD [])
  disposition : record.disposition = record'.disposition

structure SwappedHypothesis (hypothesis hypothesis' : AgentHypothesis) : Prop where
  hypothesisId : hypothesis.hypothesisId = hypothesis'.hypothesisId
  statement : Swapped statementChars hypothesis.statement hypothesis'.statement
  evidenceRefs : List.Forall₂ (Swapped evidenceRefChars) hypothesis.evidenceRefs
    hypothesis'.evidenceRefs
  status : hypothesis.status = hypothesis'.status

/-- Two states that differ in secrets alone. -/
structure SwappedState (f : JsString → JsString) (state state' : AgentRuntimeState) : Prop where
  campaignId : state.campaignId = state'.campaignId
  phase : state.phase = state'.phase
  hypotheses : List.Forall₂ SwappedHypothesis state.hypotheses state'.hypotheses
  actionLog : List.Forall₂ (SwappedRecord f) state.actionLog state'.actionLog
  evidenceRefs : List.Forall₂ (Swapped evidenceRefChars) state.evidenceRefs state'.evidenceRefs
  candidateIds : List.Forall₂ (Swapped targetChars) state.candidateIds state'.candidateIds
  knownTargets : List.Forall₂ (Swapped targetChars) state.knownTargets state'.knownTargets
  reproductionSurface : state.reproductionSurface = state'.reproductionSurface
  usage : state.usage = state'.usage

section Ledgers

variable {f : JsString → JsString}

def renamed (f : JsString → JsString) (ledger : DerivedLedger) : DerivedLedger :=
  { ledger with seenRefs := ledger.seenRefs.map f }

theorem foldl_pushNew_map (hf : Function.Injective f) (refs seen : List JsString) :
    (refs.map f).foldl pushNew (seen.map f) = (refs.foldl pushNew seen).map f := by
  induction refs generalizing seen with
  | nil => rfl
  | cons ref rest ih =>
      rw [List.map_cons, List.foldl_cons, List.foldl_cons, ← ih]
      congr 1
      rw [pushNew, pushNew]
      by_cases hmem : ref ∈ seen
      · rw [if_pos hmem, if_pos ((List.mem_map_of_injective hf).mpr hmem)]
      · rw [if_neg hmem, if_neg fun h => hmem ((List.mem_map_of_injective hf).mp h)]
        simp

theorem any_unseen_map (hf : Function.Injective f) (refs seen : List JsString) :
    ((refs.map f).any fun ref => ref ∉ seen.map f) = refs.any fun ref => ref ∉ seen := by
  rw [List.any_map]
  congr 1
  funext ref
  simp only [Function.comp_apply, List.mem_map_of_injective hf]

variable {record record' : AgentActionRecord} {ledger : DerivedLedger}

theorem note_renamed (hf : Function.Injective f) (h : SwappedRecord f record record') :
    (renamed f ledger).note record' = renamed f (ledger.note record) := by
  unfold DerivedLedger.note renamed
  dsimp only
  rw [h.evidenceRefs, any_unseen_map hf, foldl_pushNew_map hf, ← h.turnId, ← h.intentKind,
    ← h.toolId, ← h.resultClass, ← boundedString_rel h.target]

section

variable (h : SwappedRecord f record record')

include h

theorem firstRef_eq : firstRef record' = firstRef record := by
  rw [firstRef, firstRef, h.evidenceRefs]
  cases hrefs : record.evidenceRefs with
  | nil => rfl
  | cons ref rest =>
      have hswapped := h.swappedRefs ref (by rw [hrefs]; exact List.mem_cons_self)
      exact (boundedString_swapped hswapped).symm

theorem inspected_eq (entry : TargetLedgerEntry) :
    entry.inspected record' = entry.inspected record := by
  unfold TargetLedgerEntry.inspected
  rw [firstRef_eq h, ← h.resultClass, ← addSalient_swapped h.salient]

theorem reproduced_eq (entry : TargetLedgerEntry) :
    entry.reproduced record' = entry.reproduced record := by
  unfold TargetLedgerEntry.reproduced
  rw [← h.resultClass, ← h.disposition, ← h.argumentDigest]

theorem inspect_renamed (target : JsString) :
    (renamed f ledger).inspect target record' = renamed f (ledger.inspect target record) := by
  have hentry : (renamed f ledger).entryFor target record'.resultClass =
      ledger.entryFor target record.resultClass := by
    rw [← h.resultClass]
    rfl
  unfold DerivedLedger.inspect
  rw [hentry, inspected_eq h, firstRef_eq h, ← h.resultClass]
  dsimp only
  split
  · split
    · rfl
    · rfl
  · rfl

theorem reproduce_renamed (target : JsString) :
    (renamed f ledger).reproduce target record' = renamed f (ledger.reproduce target record) := by
  have hentry : (renamed f ledger).entryFor target record'.resultClass =
      ledger.entryFor target record.resultClass := by
    rw [← h.resultClass]
    rfl
  have hfailed : isTransientFailure record' ↔ isTransientFailure record := by
    rw [isTransientFailure, isTransientFailure, ← h.resultClass, ← h.disposition]
  unfold DerivedLedger.reproduce
  rw [hentry, reproduced_eq h, ← h.resultClass, ← h.argumentDigest]
  simp only [hfailed]
  rfl

end

theorem step_renamed (hf : Function.Injective f) (h : SwappedRecord f record record') :
    (renamed f ledger).step record' = renamed f (ledger.step record) := by
  unfold DerivedLedger.step
  dsimp only
  rw [note_renamed hf h, ← boundedString_rel h.target, ← h.toolId, ← h.resultClass]
  split
  · rfl
  · split
    · rfl
    · split
      · exact inspect_renamed h _
      · split
        · exact reproduce_renamed h _
        · rfl

theorem deriveLedger_renamed (hf : Function.Injective f) {log log' : List AgentActionRecord}
    (h : List.Forall₂ (SwappedRecord f) log log') :
    deriveLedger log' = renamed f (deriveLedger log) := by
  have hfold : ∀ ledger, log'.foldl DerivedLedger.step (renamed f ledger) =
      renamed f (log.foldl DerivedLedger.step ledger) := by
    induction h with
    | nil => exact fun _ => rfl
    | cons hfirst _ ih =>
        intro ledger
        rw [List.foldl_cons, List.foldl_cons, step_renamed hf hfirst, ih]
  exact hfold .empty

end Ledgers

theorem inspected_target (entry : TargetLedgerEntry) (record : AgentActionRecord) :
    (entry.inspected record).target = entry.target := by
  unfold TargetLedgerEntry.inspected
  dsimp only
  split
  · rfl
  · rfl

theorem reproduced_target (entry : TargetLedgerEntry) (record : AgentActionRecord) :
    (entry.reproduced record).target = entry.target := by
  unfold TargetLedgerEntry.reproduced
  dsimp only
  split
  · split
    · rfl
    · rfl
    · rfl
  · split_ifs <;> rfl

/-- The entries are of the targets they stand under, and those are kept. -/
def KeptEntries (targets : List (JsString × TargetLedgerEntry)) : Prop :=
  ∀ target entry, targets.lookup target = some entry →
    entry.target = target ∧ Kept targetChars target

theorem KeptEntries.entryFor_target {ledger : DerivedLedger} (h : KeptEntries ledger.targets)
    (target resultClass : JsString) : (ledger.entryFor target resultClass).target = target := by
  change ((ledger.targets.lookup target).getD (newEntry target resultClass)).target = target
  cases hlookup : ledger.targets.lookup target with
  | none => rfl
  | some entry => exact (h target entry hlookup).1

variable {target : JsString} {entry : TargetLedgerEntry}

theorem KeptEntries.set {targets : List (JsString × TargetLedgerEntry)} (h : KeptEntries targets)
    (htarget : entry.target = target)
    (hkept : Kept targetChars target) : KeptEntries (mapSet target entry targets) := by
  intro other entry' hlookup
  rw [lookup_mapSet] at hlookup
  split at hlookup
  case isTrue heq =>
    subst heq
    obtain rfl := Option.some.inj hlookup
    exact ⟨htarget, hkept⟩
  case isFalse => exact h other entry' hlookup

theorem keptEntries_of_log (log : List AgentActionRecord) :
    KeptEntries (deriveLedger log).targets := by
  induction log using List.reverseRecOn with
  | nil => exact fun _ _ hlookup => by cases hlookup
  | append_singleton log record ih =>
      rw [deriveLedger_concat]
      have hentry : ∀ target resultClass,
          (((deriveLedger log).note record).entryFor target resultClass).target = target :=
        KeptEntries.entryFor_target ih
      cases shape_of_step (deriveLedger log) record with
      | idle _ htargets _ _ _ =>
          rw [htargets]
          exact ih
      | inspects target _ _ htarget hstep =>
          rw [hstep, targets_inspect]
          refine ih.set ?_ (kept_of_bounded htarget)
          rw [inspected_target, hentry]
      | reproduces target hattempt hstep =>
          have htargets : ((deriveLedger log).step record).targets =
              mapSet target (((deriveLedger log).note record).entryFor target
                record.resultClass |>.reproduced record) (deriveLedger log).targets := by
            rw [hstep]
            rfl
          have htarget : boundedString record.target targetChars = some target := by
            rw [attemptOf] at hattempt
            split at hattempt
            · obtain ⟨t, ht, hsame⟩ := Option.map_eq_some_iff.mp hattempt
              have hname : t = target := congrArg Attempt.target hsame
              rw [ht, hname]
            · contradiction
          rw [htargets]
          refine ih.set ?_ (kept_of_bounded htarget)
          rw [reproduced_target, hentry]

theorem kept_of_entry {log : List AgentActionRecord}
    (h : entry ∈ (deriveLedger log).targets.map Prod.snd) : Kept targetChars entry.target := by
  obtain ⟨⟨target, _⟩, hpair, rfl⟩ := List.mem_map.mp h
  obtain ⟨hsame, hkept⟩ := keptEntries_of_log log target _
    ((mem_iff_lookup (nodup_targets log)).mp hpair)
  rw [hsame]
  exact hkept

section Memories

variable {f : JsString → JsString} {state state' : AgentRuntimeState}

theorem memoryHypothesis_swapped {ledger : DerivedLedger} {observed observed' : List JsString}
    (hobserved : List.Forall₂ (Swapped evidenceRefChars) observed observed')
    {hypothesis hypothesis' : AgentHypothesis} (h : SwappedHypothesis hypothesis hypothesis') :
    memoryHypothesis (renamed f ledger) observed' hypothesis' =
      memoryHypothesis ledger observed hypothesis := by
  have hrefs := boundedList_swapped candidateIdsCap h.evidenceRefs
  have hstatement := boundedString_swapped h.statement
  have hprogress : progressOf (renamed f ledger) observed' hypothesis'
      (boundedList hypothesis.evidenceRefs candidateIdsCap evidenceRefChars) =
      progressOf ledger observed hypothesis
        (boundedList hypothesis.evidenceRefs candidateIdsCap evidenceRefChars) := by
    have hany : ((boundedList hypothesis.evidenceRefs candidateIdsCap evidenceRefChars).any
        fun ref => ref ∈ observed') =
        (boundedList hypothesis.evidenceRefs candidateIdsCap evidenceRefChars).any
          fun ref => ref ∈ observed := by
      rw [Bool.eq_iff_iff, List.any_eq_true, List.any_eq_true]
      refine exists_congr fun ref => and_congr_right fun hmem => ?_
      rw [decide_eq_true_iff, decide_eq_true_iff]
      exact ((kept_of_mem_boundedList hmem).mem_iff hobserved).symm
    unfold progressOf
    rw [hany, ← h.status]
    rfl
  rw [memoryHypothesis, memoryHypothesis, ← hrefs, ← hstatement, hprogress, ← h.hypothesisId,
    ← h.status]
  rfl

theorem map_swapped {α β : Type} {r : α → α → Prop} {g g' : α → β} {xs xs' : List α}
    (h : List.Forall₂ r xs xs') (hg : ∀ x x', r x x' → g' x' = g x) : xs'.map g' = xs.map g := by
  induction h with
  | nil => rfl
  | cons hfirst _ ih => rw [List.map_cons, List.map_cons, hg _ _ hfirst, ih]

theorem filter_swapped {p : JsString → Bool} {cap : Nat} {values values' : List JsString}
    (h : List.Forall₂ (Swapped cap) values values')
    (hp : ∀ s, hasSecret (trimmed cap s) = true → p s = true) :
    List.Forall₂ (Swapped cap) (values.filter p) (values'.filter p) := by
  induction h with
  | nil => exact .nil
  | @cons s s' rest rest' hfirst _ ih =>
      rcases hfirst with rfl | ⟨hs, hs'⟩
      · cases hkeep : p s with
        | true =>
            rw [List.filter_cons_of_pos hkeep, List.filter_cons_of_pos hkeep]
            exact .cons (.inl rfl) ih
        | false =>
            have hdrop : ¬ p s = true := by simp [hkeep]
            rw [List.filter_cons_of_neg hdrop, List.filter_cons_of_neg hdrop]
            exact ih
      · rw [List.filter_cons_of_pos (hp s hs), List.filter_cons_of_pos (hp s' hs')]
        exact .cons (.inr ⟨hs, hs'⟩) ih

theorem uninspected_swapped (log : List AgentActionRecord)
    (window : List ReproductionSurfaceEntry) {known known' : List JsString}
    (h : List.Forall₂ (Swapped targetChars) known known') :
    boundedList (known'.filter fun target => target ∉
        (inspectedTargets (deriveLedger log) window).map MemoryInspectedTarget.target)
        uninspectedTargetsCap targetChars = boundedList (known.filter fun target => target ∉
        (inspectedTargets (deriveLedger log) window).map MemoryInspectedTarget.target)
        uninspectedTargetsCap targetChars := by
  refine (boundedList_swapped uninspectedTargetsCap (filter_swapped h fun s hs => ?_)).symm
  rw [decide_eq_true_iff]
  intro hmem
  obtain ⟨item, hitem, rfl⟩ := List.mem_map.mp hmem
  obtain ⟨entry, hentry, rfl⟩ := List.mem_map.mp hitem
  have hkept := kept_of_entry (List.mem_of_mem_filter (List.mem_of_mem_take hentry))
  have hsecret : hasSecret (trimmed targetChars entry.target) = true := hs
  rw [hkept.1] at hsecret
  contradiction

theorem directiveInput_swapped (hf : Function.Injective f) (h : SwappedState f state state')
    (campaign : Option CampaignStrategyState) :
    directiveInput state' campaign = directiveInput state campaign := by
  have hledger := deriveLedger_renamed hf h.actionLog
  have hhypotheses : memoryHypotheses (renamed f (deriveLedger state.actionLog)) state' =
      memoryHypotheses (deriveLedger state.actionLog) state := by
    rw [memoryHypotheses, memoryHypotheses, map_swapped h.hypotheses fun _ _ hswapped =>
      memoryHypothesis_swapped h.evidenceRefs hswapped]
  have hids := boundedList_swapped candidateIdsCap h.candidateIds
  have hunknown := uninspected_swapped state.actionLog
    (surfaceWindow state.reproductionSurface) h.knownTargets
  have hinspected : ∀ window, inspectedTargets (renamed f (deriveLedger state.actionLog)) window =
      inspectedTargets (deriveLedger state.actionLog) window := fun _ => rfl
  unfold directiveInput
  dsimp only
  rw [hledger, ← h.reproductionSurface, hhypotheses, ← hids, hinspected, hunknown]
  rfl

end Memories

def inspectedState (target : JsString) : AgentRuntimeState :=
  { (RuntimeObject.create sampleDeps).snapshot with
    actionLog := [⟨"turn-1".toList, .plan, "CALL_TOOL".toList, inspectTool,
      some "arg:1".toList, "SOURCE_FILE".toList, ["ref:1".toList], some target, none, none⟩] }

def shortSecret : JsString := "Bearer 0123456789".toList

def straddlingSecret : JsString := List.replicate 188 'x' ++ "Bearer 0123456789".toList

theorem swapped_inspected {target' : JsString} (h : Swapped targetChars target target') :
    SwappedState id (inspectedState target) (inspectedState target') where
  campaignId := rfl
  phase := rfl
  hypotheses := .nil
  actionLog := by
    refine .cons ⟨rfl, rfl, rfl, rfl, rfl, rfl, ?_, ?_, .some h, .nil, rfl⟩ .nil
    · exact (List.map_id _).symm
    · exact fun _ _ => .inl rfl
  evidenceRefs := .nil
  candidateIds := .nil
  knownTargets := .nil
  reproductionSurface := rfl
  usage := rfl

end NightWatch.WorkingMemory.Secrets
