import NightWatch.Proxy.RecordedEvents

namespace NightWatch.Proxy.EvidenceLog

open Lib.JsText Lib.JsData Lib.Json Lib.JsRuntime Lib.Machine Lib.PairedJournal Proxy.AddressPolicy
  Proxy.Events Proxy.PolicyAdapter Proxy.RecordedEvents Proxy.Resolver Proxy.Server Proxy.Types

section Record

variable {rt : Runtime} {proxy : ProxyInstance} {now : IsoTimestamp rt} {protocol : ProxyProtocol}
  {classified : ProxyClassification} {lifecycle : Lifecycle} {evidence : Evidence}

theorem record_latched (hfailed : evidence.evidenceWriteFailed = true) :
    record rt proxy now protocol classified lifecycle evidence = (none, evidence) := by
  rw [record, hfailed]
  rfl

theorem record_stored (hopen : evidence.evidenceWriteFailed = false)
    (hvalid : isPersistable rt (recordedEvent rt proxy evidence.eventSeq now protocol classified
      lifecycle).fields = true) : record rt proxy now protocol classified lifecycle evidence =
      (some evidence.eventSeq, {
        eventSeq := evidence.eventSeq + 1
        evidenceWriteFailed := false
        log := evidence.log ++ rt.jsonStringify (recordedEvent rt proxy evidence.eventSeq now
          protocol classified lifecycle).value ++ ['\n']
        built := evidence.built ++
          [recordedEvent rt proxy evidence.eventSeq now protocol classified lifecycle] }) := by
  have hok : validateProxyEventForPersistence rt (recordedEvent rt proxy evidence.eventSeq now
      protocol classified lifecycle).value = .ok (recordedEvent rt proxy evidence.eventSeq now
        protocol classified lifecycle).fields :=
    if_pos hvalid
  rw [record, hopen]
  dsimp only
  rw [appendProxyEvent, hok]
  rfl

theorem record_refused (hopen : evidence.evidenceWriteFailed = false)
    (hinvalid : ¬isPersistable rt (recordedEvent rt proxy evidence.eventSeq now protocol classified
      lifecycle).fields = true) : record rt proxy now protocol classified lifecycle evidence =
      (none, {
        eventSeq := evidence.eventSeq + 1
        evidenceWriteFailed := true
        log := evidence.log
        built := evidence.built ++
          [recordedEvent rt proxy evidence.eventSeq now protocol classified lifecycle] }) := by
  have herror : validateProxyEventForPersistence rt (recordedEvent rt proxy evidence.eventSeq now
      protocol classified lifecycle).value = .error "PROXY_EVENT_SCHEMA_INVALID".toList :=
    if_neg hinvalid
  rw [record, hopen]
  dsimp only
  rw [appendProxyEvent, herror]
  rfl

end Record

section Writes

variable (rt : Runtime) (proxy : ProxyInstance)

/-- One call of `record`. -/
def Recorded (before after : Evidence) : Prop :=
  ∃ now protocol classified lifecycle,
    after = (record rt proxy now protocol classified lifecycle before).2

/-- Any number of calls of `record`. -/
abbrev Writes : Evidence → Evidence → Prop := Relation.ReflTransGen (Recorded rt proxy)

variable {rt proxy}

theorem writes_record (now : IsoTimestamp rt) (protocol : ProxyProtocol)
    (classified : ProxyClassification) (lifecycle : Lifecycle) (evidence : Evidence) :
    Writes rt proxy evidence (record rt proxy now protocol classified lifecycle evidence).2 :=
  .single ⟨now, protocol, classified, lifecycle, rfl⟩

theorem startHandler_writes (request : ClientRequest) (gone : Bool) (now : IsoTimestamp rt)
    (s : ProxyState rt) :
    Writes rt proxy s.evidence (startHandler rt proxy request gone now s).2.evidence := by
  unfold startHandler
  split
  · exact .refl
  · split
    · exact .refl
    · unfold admitRequest
      dsimp only
      split
      · exact writes_record ..
      · split
        · exact writes_record ..
        · split
          · exact .refl
          · exact writes_record ..
          · split
            · exact writes_record ..
            · exact .refl

theorem prepareEffect_writes (request : AllowedRequest) (resolution : ProxyResolution)
    (selected : AdmittedResolvedAddress) (dialThrows : Bool) (now later : IsoTimestamp rt)
    (evidence : Evidence) : Writes rt proxy evidence
      (prepareEffect rt proxy request resolution selected dialThrows now later evidence).2 := by
  unfold prepareEffect
  dsimp only
  split
  · exact writes_record ..
  · split
    · exact (writes_record ..).trans (writes_record ..)
    · exact writes_record ..

theorem afterResolution_writes (request : AllowedRequest) (resolution : ProxyResolution)
    (cancelled dialThrows : Bool) (now later : IsoTimestamp rt) (evidence : Evidence) :
    Writes rt proxy evidence
      (afterResolution rt proxy request resolution cancelled dialThrows now later evidence).2 := by
  unfold afterResolution
  dsimp only
  split
  · split
    · exact writes_record ..
    · split
      · exact writes_record ..
      · exact prepareEffect_writes ..
  · exact writes_record ..
  · split
    · exact writes_record ..
    · exact prepareEffect_writes ..

theorem step_writes {s s' : ProxyState rt} {input : ProxyInput rt}
    (h : step rt proxy s input = some s') : Writes rt proxy s.evidence s'.evidence := by
  cases input with
  | request request gone now =>
      cases h
      exact startHandler_writes request gone now s
  | resolved handler settled gone dialThrows now later =>
      rw [step] at h
      split at h
      · cases h
        exact afterResolution_writes ..
      · contradiction
  | connection handler event now =>
      rw [step] at h
      split at h
      · split at h
        · contradiction
        · cases h
          exact writes_record ..
      · contradiction
  | tickets tickets =>
      cases h
      exact .refl
  | close =>
      cases h
      exact .refl

end Writes

section Log

variable {rt : Runtime} {proxy : ProxyInstance}

def stored (rt : Runtime) (evidence : Evidence) : List Fields :=
  (evidence.built.map ProxyEvent.fields).filter (isPersistable rt)

theorem isScalar_ofNat {n : Nat} (hn : n ≤ 2 ^ 53 - 1) : IsScalar (.num (.ofNat n)) := by
  have hcast : JsNumber.ofNat n = .finite ((n : ℤ) : ℚ) := by
    rw [JsNumber.ofNat, Int.cast_natCast]
  rw [hcast]
  exact .num n hn

theorem isScalar_map {α : Type} {value : α → JsValue} (hscalar : ∀ a, IsScalar (value a))
    {option : Option α} {v : JsValue} (h : option.map value = some v) : IsScalar v := by
  obtain ⟨a, -, rfl⟩ := Option.map_eq_some_iff.mp h
  exact hscalar a

theorem isScalar_port (target : Option ProxyTarget) : IsScalar (recordedPort target) := by
  cases target with
  | none => exact .null
  | some target =>
      unfold recordedPort
      dsimp only
      split
      · exact isScalar_ofNat (by omega)
      · exact .null

variable {seq : Nat} {after before : Evidence}

theorem isScalar_recorded {now : IsoTimestamp rt} {protocol : ProxyProtocol}
    {classified : ProxyClassification} {lifecycle : Lifecycle} (hvalid : isPersistable rt
      (recordedEvent rt proxy seq now protocol classified lifecycle).fields = true)
    {key : EventKey} {value : JsValue}
    (h : recordedEvent rt proxy seq now protocol classified lifecycle key = some value) :
    IsScalar value := by
  cases key with
  | seq =>
      have hseq := fieldCheck_seq.mp (fieldCheck_of_isPersistable hvalid .seq)
      cases h
      exact isScalar_ofNat (by omega)
  | port =>
      cases h
      exact isScalar_port classified.target
  | answerCount =>
      have hcount := (fieldCheck_answerCount lifecycle.answerCount).mp
        (fieldCheck_of_isPersistable hvalid .answerCount)
      obtain ⟨count, hsome, rfl⟩ := Option.map_eq_some_iff.mp h
      have hle := hcount count hsome
      exact isScalar_ofNat (by omega)
  | addressFamily =>
      refine isScalar_map (fun family => ?_) h
      cases family with
      | ipv4 => exact isScalar_ofNat (by decide)
      | ipv6 => exact isScalar_ofNat (by decide)
  | containment =>
      obtain ⟨-, hvalue⟩ := Option.ite_none_right_eq_some.mp h
      cases hvalue
      exact .str _
  | resolutionReason => exact isScalar_map (fun _ => .str _) h
  | addressClass => exact isScalar_map (fun _ => .str _) h
  | connectionFailure => exact isScalar_map (fun _ => .str _) h
  | containmentViolation => exact isScalar_map (fun _ => .str _) h
  | addressBindingVersion => exact isScalar_map (fun _ => .str _) h
  | effectId => contradiction
  | phase => contradiction
  | _ =>
      cases h
      exact .str _

/-- What is stored reads back from its line, and belongs to no effect pair. -/
structure StoredEvent (rt : Runtime) (event : Fields) : Prop where
  json : IsJson (.obj event)
  persistable : isPersistable rt event = true
  unpaired : (fieldAt event .effectId).isUndefined = true

/-- The log holds the stored events, one a line. -/
structure LogKept (rt : Runtime) (evidence : Evidence) : Prop where
  log : evidence.log = linesText ((stored rt evidence).map fun event => rt.jsonStringify (.obj event))
  events : ∀ event ∈ stored rt evidence, StoredEvent rt event

theorem logKept_start : LogKept rt .start := by
  constructor
  · rfl
  · intro event hevent
    contradiction

theorem storedEvent_recorded {now : IsoTimestamp rt} {protocol : ProxyProtocol}
    {classified : ProxyClassification} {lifecycle : Lifecycle} (hvalid : isPersistable rt
      (recordedEvent rt proxy seq now protocol classified lifecycle).fields = true) :
    StoredEvent rt (recordedEvent rt proxy seq now protocol classified lifecycle).fields := by
  refine ⟨isJson_value fun key value => isScalar_recorded hvalid, hvalid, ?_⟩
  rw [fieldAt_fields]
  rfl

theorem logKept_recorded (h : LogKept rt before)
    (hrecorded : Recorded rt proxy before after) : LogKept rt after := by
  obtain ⟨now, protocol, classified, lifecycle, rfl⟩ := hrecorded
  let event := recordedEvent rt proxy before.eventSeq now protocol classified lifecycle
  have hbuilt : (before.built ++ [event]).map ProxyEvent.fields =
      before.built.map ProxyEvent.fields ++ [event.fields] := List.map_append
  cases hfailed : before.evidenceWriteFailed with
  | true =>
      rw [record_latched hfailed]
      exact h
  | false =>
      by_cases hvalid : isPersistable rt event.fields = true
      · rw [record_stored hfailed hvalid]
        have hstored : ∀ seq failed log, stored rt ⟨seq, failed, log, before.built ++ [event]⟩ =
            stored rt before ++ [event.fields] := by
          intro seq failed log
          rw [stored, hbuilt, List.filter_append, List.filter_cons_of_pos hvalid]
          rfl
        constructor
        · rw [hstored, h.log, List.map_append, linesText, linesText, List.flatMap_append,
            List.append_assoc]
          simp [ProxyEvent.value, event]
        · intro other hother
          rw [hstored] at hother
          rcases List.mem_append.mp hother with hother | hother
          · exact h.events other hother
          · rw [List.mem_singleton.mp hother]
            exact storedEvent_recorded hvalid
      · rw [record_refused hfailed hvalid]
        have hstored : ∀ seq failed log, stored rt ⟨seq, failed, log, before.built ++ [event]⟩ =
            stored rt before := by
          intro seq failed log
          rw [stored, hbuilt, List.filter_append, List.filter_cons_of_neg hvalid]
          exact List.append_nil _
        constructor
        · rw [hstored]
          exact h.log
        · rw [hstored]
          exact h.events

theorem logKept_writes (h : LogKept rt before)
    (hwrites : Writes rt proxy before after) : LogKept rt after := by
  induction hwrites with
  | refl => exact h
  | tail _ hrecorded ih => exact logKept_recorded ih hrecorded

theorem logKept_run {history : List (ProxyInput rt)} {s : ProxyState rt}
    (hrun : Run (proxySystem rt proxy) history s) : LogKept rt s.evidence := by
  apply hrun.state_invariant (P := fun s => LogKept rt s.evidence) logKept_start
  intro before input after h hstep
  exact logKept_writes h (step_writes (proxySystem_step.mp hstep))

theorem halvesFrom_plain {events : List Fields} (h : ∀ event ∈ events, StoredEvent rt event)
    (line : Nat) : ∀ half ∈ halvesFrom line events, half = .plain := by
  induction events generalizing line with
  | nil => nofun
  | cons event rest ih =>
      intro half hhalf
      rcases List.mem_cons.mp hhalf with rfl | hhalf
      · rw [eventHalf, (h event (by simp)).unpaired]
        rfl
      · exact ih (fun other hother => h other (List.mem_cons_of_mem event hother)) _ half hhalf

theorem readLine_stored {event : Fields} (h : StoredEvent rt event) :
    readLine rt (rt.jsonStringify (.obj event)) = .ok event :=
  readLine_eq_ok.mpr ⟨rt.jsonParse_stringify _ h.json, h.persistable⟩

theorem readProxyEventLedger_kept {evidence : Evidence} (h : LogKept rt evidence) :
    readProxyEventLedger rt (some evidence.log) = .ok (stored rt evidence) ∧
      Paired (halves (stored rt evidence)) := by
  have hpaired : Paired (halves (stored rt evidence)) :=
    paired_of_plain (halvesFrom_plain h.events 0)
  have hlines : logLines evidence.log =
      (stored rt evidence).map fun event => rt.jsonStringify (.obj event) := by
    rw [logLines, h.log]
    apply filter_splitLines_linesText
    intro line hline
    obtain ⟨event, hevent, rfl⟩ := List.mem_map.mp hline
    exact rt.jsonStringify_line _ (h.events event hevent).json
  refine ⟨readProxyEventLedger_eq_ok.mpr ⟨?_, hpaired⟩, hpaired⟩
  rw [hlines, List.forall₂_map_left_iff]
  apply List.forall₂_same.mpr
  intro event hevent
  exact readLine_stored (h.events event hevent)

end Log

end NightWatch.Proxy.EvidenceLog
