import NightWatch.Safety.AdmissionAuthority

namespace NightWatch.Safety.GenerationRuns

open Lib.JsText Lib.JsRuntime Lib.Machine Safety.CausalGenerations Safety.SemanticAdmission
  Safety.AdmissionAuthority

inductive AuthorityEvent where
  | openGeneration (kind : GenerationKind) (result : Except JsString GenerationRecord)
  | settle (id : JsString) (result : Except JsString GenerationRecord)
  | attributeExplicit (id : JsString) (result : Attribution)
  | attributeImplicit (result : Attribution)
  | evaluate (request : AdmissionRequest) (decision : AdmissionDecision)

structure AuthorityState where
  registry : GenerationRegistry
  held : List Attribution

/-- Any snapshot may be evaluated whose activity predicate reads the registry. -/
inductive Step (rt : Runtime) : AuthorityState → AuthorityEvent → AuthorityState → Prop
  | opened {s : AuthorityState} {kind : GenerationKind} {record : GenerationRecord}
      {registry : GenerationRegistry}
      (h : s.registry.openGeneration kind = .ok (record, registry)) :
      Step rt s (.openGeneration kind (.ok record)) { s with registry := registry }
  | openRefused {s : AuthorityState} {kind : GenerationKind} {error : JsString}
      (h : s.registry.openGeneration kind = .error error) :
      Step rt s (.openGeneration kind (.error error)) s
  | settled {s : AuthorityState} {id : JsString} {record : GenerationRecord}
      {registry : GenerationRegistry} (h : s.registry.settle id = .ok (record, registry)) :
      Step rt s (.settle id (.ok record)) { s with registry := registry }
  | settleRefused {s : AuthorityState} {id error : JsString}
      (h : s.registry.settle id = .error error) : Step rt s (.settle id (.error error)) s
  | explicit (s : AuthorityState) (id : JsString) :
      Step rt s (.attributeExplicit id (s.registry.attributeExplicit id))
        { s with held := s.registry.attributeExplicit id :: s.held }
  | implicit (s : AuthorityState) :
      Step rt s (.attributeImplicit s.registry.attributeImplicit)
        { s with held := s.registry.attributeImplicit :: s.held }
  | evaluated {s : AuthorityState} (request : AdmissionRequest) (snapshot : AdmissionSnapshot rt)
      (hheld : request.attribution ∈ s.held)
      (hreads : snapshot.isActiveGeneration = s.registry.isActive) :
      Step rt s (.evaluate request (evaluateAdmission request snapshot).1) s

def authority (rt : Runtime) : System AuthorityState AuthorityEvent where
  start := ⟨.empty, []⟩
  step := Step rt

/-- Ids are never reused, and what was settled stays settled. -/
structure Settlements (past : List AuthorityEvent) (s : AuthorityState) : Prop where
  wellFormed : s.registry.WellFormed
  settled : ∀ id record, .settle id (.ok record) ∈ past → s.registry.Settled id

variable {rt : Runtime} {past : List AuthorityEvent} {s : AuthorityState}

theorem settlements_step {s' : AuthorityState}
    {e : AuthorityEvent} (h : Settlements past s) (hstep : Step rt s e s') :
    Settlements (past ++ [e]) s' := by
  have hpast : ∀ {id record}, .settle id (.ok record) ∈ past ++ [e] →
      (∀ id' record', e ≠ .settle id' (.ok record')) → s.registry.Settled id := by
    intro id record hmem hother
    rcases List.mem_append.mp hmem with hmem | hmem
    · exact h.settled id record hmem
    · exact absurd (List.mem_singleton.mp hmem).symm (hother id record)
  cases hstep with
  | opened hopen =>
      refine ⟨GenerationRegistry.wellFormed_open h.wellFormed hopen, fun id record hmem => ?_⟩
      exact GenerationRegistry.settled_open h.wellFormed hopen (hpast hmem nofun)
  | openRefused hopen => exact ⟨h.wellFormed, fun id record hmem => hpast hmem nofun⟩
  | @settled id record registry hsettle =>
      refine ⟨GenerationRegistry.wellFormed_settle h.wellFormed hsettle, fun id' record' hmem => ?_⟩
      apply GenerationRegistry.settled_settle hsettle
      rcases List.mem_append.mp hmem with hmem | hmem
      · exact Or.inr (h.settled id' record' hmem)
      · cases List.mem_singleton.mp hmem
        exact Or.inl rfl
  | settleRefused hsettle => exact ⟨h.wellFormed, fun id record hmem => hpast hmem nofun⟩
  | explicit => exact ⟨h.wellFormed, fun id record hmem => hpast hmem nofun⟩
  | implicit => exact ⟨h.wellFormed, fun id record hmem => hpast hmem nofun⟩
  | evaluated => exact ⟨h.wellFormed, fun id record hmem => hpast hmem nofun⟩

theorem settlements_of_run (hrun : Run (authority rt) past s) : Settlements past s :=
  hrun.invariant ⟨GenerationRegistry.wellFormed_empty, nofun⟩
    fun _ _ _ _ hpast hstep => settlements_step hpast hstep

theorem admitted_active {request : AdmissionRequest} {snapshot : AdmissionSnapshot rt}
    {handle : AdmissionHandle} (h : (evaluateAdmission request snapshot).1 = .admitted handle) :
    snapshot.isActiveGeneration handle.generationId = true := by
  rcases admitted_cases h with ⟨_, _, _, hproven, -, rfl⟩ | ⟨_, _, _, _, -, hactive, -, rfl⟩
  · exact hproven.active
  · exact hactive.1

/-- After any run, an evaluation only admits under a generation that is open then, and
never under one that was settled before, whatever attribution is still held. -/
theorem admitted_generation_open {rt : Runtime} {past : List AuthorityEvent}
    {s s' : AuthorityState} {request : AdmissionRequest} {handle : AdmissionHandle}
    (hrun : Run (authority rt) past s)
    (hstep : (authority rt).step s (.evaluate request (.admitted handle)) s') :
    s.registry.isActive handle.generationId = true ∧
      ∀ id record, .settle id (.ok record) ∈ past → handle.generationId ≠ id := by
  have hactive : s.registry.isActive handle.generationId = true := by
    generalize hevent : AuthorityEvent.evaluate request (.admitted handle) = e at hstep
    cases hstep with
    | evaluated request' snapshot hheld hreads =>
        rw [AuthorityEvent.evaluate.injEq] at hevent
        rw [← hreads]
        exact admitted_active hevent.2.symm
    | _ => contradiction
  refine ⟨hactive, ?_⟩
  rintro id record hmem rfl
  rw [GenerationRegistry.not_isActive_of_settled
    ((settlements_of_run hrun).settled _ record hmem)] at hactive
  contradiction

def actionRecord (state : GenerationState) : GenerationRecord :=
  ⟨"gen:000001".toList, .action, 1, state⟩

def navigationRecord : GenerationRecord := ⟨"gen:000002".toList, .navigation, 2, .opened⟩

def navigationState : AuthorityState :=
  ⟨⟨[actionRecord .settled, navigationRecord], 2⟩, [.generation "gen:000002".toList]⟩

def navigationHistory : List AuthorityEvent :=
  [.openGeneration .action (.ok (actionRecord .opened)),
    .settle "gen:000001".toList (.ok (actionRecord .settled)),
    .openGeneration .navigation (.ok navigationRecord),
    .attributeExplicit "gen:000002".toList (.generation "gen:000002".toList)]

theorem run_navigation : Run (authority productRuntime) navigationHistory navigationState := by
  have hopened : Run (authority productRuntime)
      ([] ++ [.openGeneration .action (.ok (actionRecord .opened))])
      ⟨⟨[actionRecord .opened], 1⟩, []⟩ := .step .start (.opened rfl)
  have hsettled : Run (authority productRuntime)
      ([.openGeneration .action (.ok (actionRecord .opened))] ++
        [.settle "gen:000001".toList (.ok (actionRecord .settled))])
      ⟨⟨[actionRecord .settled], 1⟩, []⟩ := .step hopened (.settled rfl)
  have hnavigation : Run (authority productRuntime)
      ([.openGeneration .action (.ok (actionRecord .opened)),
        .settle "gen:000001".toList (.ok (actionRecord .settled))] ++
          [.openGeneration .navigation (.ok navigationRecord)])
      ⟨⟨[actionRecord .settled, navigationRecord], 2⟩, []⟩ := .step hsettled (.opened rfl)
  exact .step hnavigation (.explicit _ "gen:000002".toList)

def navigationRequest : AdmissionRequest :=
  { productRequest itemsText "dev".toList with attribution := .generation "gen:000002".toList }

def navigationSnapshot : AdmissionSnapshot productRuntime :=
  { provenSnapshot "dev".toList "/items".toList with
    isActiveGeneration := navigationState.registry.isActive }

theorem admitted_navigation_open :
    navigationState.registry.isActive "gen:000002".toList = true ∧
      ∀ id record, .settle id (.ok record) ∈ navigationHistory → "gen:000002".toList ≠ id :=
  admitted_generation_open run_navigation
    (.evaluated navigationRequest navigationSnapshot (List.mem_singleton.mpr rfl) rfl)

end NightWatch.Safety.GenerationRuns
