import NightWatch.AgentProtocol.Validate

namespace NightWatch.AgentRuntime.ToolResults

open Lib.JsText Lib.JsData AgentProtocol.Vocabulary AgentProtocol.Validate

structure ReproductionSurfaceEntry where
  sourcePath : JsString
  readiness : SurfaceReadinessClass
  executorClass : Option OwnerLocalExecutorKind
  refusal : Option SurfaceRefusalClass
  targetId : Option JsString

structure AgentToolMemoryFacts where
  target : Option JsString
  availableTargets : Option (List JsString)
  salient : Option (List JsString)
  reproductionSurface : Option (List ReproductionSurfaceEntry)

def targetCharsCap : Nat := 200

def availableTargetsCap : Nat := 32

def salientCap : Nat := 4

def salientCharsCap : Nat := 64

def reproductionSurfaceCap : Nat := 32

def boundedMemoryString (value : JsValue) (max : Nat) : Option JsString :=
  (parseString value).filter fun s => !s.isEmpty && utf16Length s ≤ max && !hasSecret s

def boundedItems (max charCap : Nat) : List JsString → List JsValue → List JsString
  | out, [] => out
  | out, item :: rest =>
      if max ≤ out.length then out
      else
        match boundedMemoryString item charCap with
        | some bounded =>
            if bounded ∈ out then boundedItems max charCap out rest
            else boundedItems max charCap (out ++ [bounded]) rest
        | none => boundedItems max charCap out rest

def nonEmpty {α : Type} (items : List α) : Option (List α) :=
  if items.isEmpty then none else some items

def boundedMemoryList (value : JsValue) (max charCap : Nat) : Option (List JsString) :=
  match value with
  | .arr items => nonEmpty (boundedItems max charCap [] items)
  | _ => none

/-- A nullable member of a closed vocabulary; `none` is a value that is neither. -/
def nullableMember {α : Type} (members : List α) (name : α → JsString) : JsValue → Option (Option α)
  | .undefined => some none
  | .null => some none
  | .str s => (memberNamed members name s).map some
  | _ => none

/-- `/^surface:sha256:[0-9a-f]{24}$/`. -/
def isSurfaceTargetId (s : JsString) : Bool :=
  startsWith s "surface:sha256:".toList && (s.drop 15).length == 24 &&
    (s.drop 15).all fun c => c.isDigit || ('a' ≤ c && c ≤ 'f')

def nullableTargetId : JsValue → Option (Option JsString)
  | .undefined => some none
  | .null => some none
  | value => (boundedMemoryString value targetCharsCap).map some

def ReproductionSurfaceEntry.coherent (entry : ReproductionSurfaceEntry) : Bool :=
  match entry.readiness with
  | .executableNow =>
      entry.executorClass.isSome && entry.refusal.isNone && entry.targetId.any isSurfaceTargetId
  | .notExecutable =>
      entry.executorClass.isNone && entry.refusal.isSome && entry.targetId.isNone
  | .unknown => entry.executorClass.isNone && entry.refusal.isNone && entry.targetId.isNone

def surfaceEntry : JsValue → Option ReproductionSurfaceEntry
  | .obj fields => do
      let sourcePath ← boundedMemoryString (JsValue.field fields "sourcePath".toList) targetCharsCap
      let readiness ← (parseString (JsValue.field fields "readiness".toList)).bind
        (memberNamed surfaceReadinessClasses SurfaceReadinessClass.text)
      let refusal ← nullableMember surfaceRefusalClasses SurfaceRefusalClass.text
        (JsValue.field fields "refusal".toList)
      let executorClass ← nullableMember ownerLocalExecutorKinds OwnerLocalExecutorKind.text
        (JsValue.field fields "executorClass".toList)
      let targetId ← nullableTargetId (JsValue.field fields "targetId".toList)
      let entry : ReproductionSurfaceEntry :=
        ⟨sourcePath, readiness, executorClass, refusal, targetId⟩
      if entry.coherent then some entry else none
  | _ => none

def surfaceEntries : List ReproductionSurfaceEntry → List JsValue → List ReproductionSurfaceEntry
  | out, [] => out
  | out, item :: rest =>
      if reproductionSurfaceCap ≤ out.length then out
      else
        match surfaceEntry item with
        | some entry =>
            if entry.sourcePath ∈ out.map ReproductionSurfaceEntry.sourcePath then
              surfaceEntries out rest
            else surfaceEntries (out ++ [entry]) rest
        | none => surfaceEntries out rest

def normalizeSurfaceEntries : JsValue → Option (List ReproductionSurfaceEntry)
  | .arr items => nonEmpty (surfaceEntries [] items)
  | _ => none

def normalizeToolMemoryFacts : JsValue → AgentToolMemoryFacts
  | .obj fields =>
      { target := boundedMemoryString (JsValue.field fields "target".toList) targetCharsCap
        availableTargets := boundedMemoryList (JsValue.field fields "availableTargets".toList)
          availableTargetsCap targetCharsCap
        salient := boundedMemoryList (JsValue.field fields "salient".toList) salientCap
          salientCharsCap
        reproductionSurface :=
          normalizeSurfaceEntries (JsValue.field fields "reproductionSurface".toList) }
  | _ => ⟨none, none, none, none⟩

structure AgentToolResult where
  ok : Bool
  resultClass : JsString
  evidenceRefs : List JsString
  outputBytes : Nat
  untrusted : List JsValue
  memory : AgentToolMemoryFacts
  disposition : Option ActionFailureDisposition

def emptyToolResult : AgentToolResult where
  ok := true
  resultClass := "NOOP".toList
  evidenceRefs := []
  outputBytes := 0
  untrusted := []
  memory := ⟨none, none, none, none⟩
  disposition := none

def normalizeActionFailureDisposition (value : JsValue) : Option ActionFailureDisposition :=
  (parseString value).bind (memberNamed actionFailureDispositions ActionFailureDisposition.text)

def toolResultClass (value : JsValue) : JsString :=
  ((parseString value).filter fun s => !s.isEmpty).getD emptyToolResult.resultClass

def toolEvidenceRefs : JsValue → List JsString
  | .arr items =>
      items.filterMap fun item =>
        (parseString item).filter fun s => !s.isEmpty && utf16Length s ≤ 512
  | _ => []

def toolOutputBytes : JsValue → Nat
  | .num (.finite q) => if 0 ≤ q then ⌊q⌋.toNat else 0
  | _ => 0

def toolUntrusted : JsValue → List JsValue
  | .arr items => items
  | _ => []

def isFalse : JsValue → Bool
  | .bool false => true
  | _ => false

def normalizeToolResult : JsValue → AgentToolResult
  | .obj fields =>
      { ok := !isFalse (JsValue.field fields "ok".toList)
        resultClass := toolResultClass (JsValue.field fields "resultClass".toList)
        evidenceRefs := toolEvidenceRefs (JsValue.field fields "evidenceRefs".toList)
        outputBytes := toolOutputBytes (JsValue.field fields "outputBytes".toList)
        untrusted := toolUntrusted (JsValue.field fields "untrusted".toList)
        memory := normalizeToolMemoryFacts (JsValue.field fields "memory".toList)
        disposition :=
          normalizeActionFailureDisposition (JsValue.field fields "disposition".toList) }
  | _ => emptyToolResult

end NightWatch.AgentRuntime.ToolResults
