import NightWatch.Lib.Machine
import NightWatch.Lib.JsText

namespace NightWatch.Safety.CausalGenerations

open Lib.JsText

def maxOpenGenerations : Nat := 16

def maxGenerationsTotal : Nat := 4096

inductive GenerationKind where
  | action
  | navigation

inductive GenerationState where
  | opened
  | settled
  deriving DecidableEq

structure GenerationRecord where
  id : JsString
  kind : GenerationKind
  seq : Nat
  state : GenerationState

inductive Attribution where
  | generation (id : JsString)
  | none
  | ambiguous (candidates : List JsString)

def generationId (seq : Nat) : JsString := "gen:".toList ++ padStart 6 (decimal seq)

theorem generationId_injective : Function.Injective generationId := by
  intro a b h
  have hpad : padStart 6 (decimal a) = padStart 6 (decimal b) := List.append_cancel_left h
  have hvalue := congrArg decimalValue hpad
  rwa [decimalValue_padStart, decimalValue_padStart, decimalValue_decimal,
    decimalValue_decimal] at hvalue

structure GenerationRegistry where
  generations : List GenerationRecord
  counter : Nat

namespace GenerationRegistry

def empty : GenerationRegistry := ⟨[], 0⟩

def get (registry : GenerationRegistry) (id : JsString) : Option GenerationRecord :=
  registry.generations.find? fun record => record.id = id

def isActive (registry : GenerationRegistry) (id : JsString) : Bool :=
  (registry.get id).any fun record => record.state = .opened

def countOpen (registry : GenerationRegistry) : Nat :=
  registry.generations.countP fun record => record.state = .opened

def budgetExceeded : JsString := "GENERATION_BUDGET_EXCEEDED".toList

/-- `generations.set(record.id, record)`: a key that is present keeps its place. -/
def set (generations : List GenerationRecord) (record : GenerationRecord) : List GenerationRecord :=
  if record.id ∈ generations.map (·.id) then
    generations.map fun old => if old.id = record.id then record else old
  else generations ++ [record]

/-- `open(kind)`: the new record and the registry that holds it. -/
def openGeneration (registry : GenerationRegistry) (kind : GenerationKind) :
    Except JsString (GenerationRecord × GenerationRegistry) :=
  if maxOpenGenerations ≤ registry.countOpen then .error budgetExceeded
  else if maxGenerationsTotal ≤ registry.counter then .error budgetExceeded
  else
    let seq := registry.counter + 1
    let record : GenerationRecord := ⟨generationId seq, kind, seq, .opened⟩
    .ok (record, ⟨set registry.generations record, seq⟩)

def settle (registry : GenerationRegistry) (id : JsString) :
    Except JsString (GenerationRecord × GenerationRegistry) :=
  match registry.get id with
  | none => .error "GENERATION_UNKNOWN".toList
  | some record =>
      if record.state = .settled then .ok (record, registry)
      else
        let settled := { record with state := .settled }
        .ok (settled, { registry with generations := set registry.generations settled })

def attributeExplicit (registry : GenerationRegistry) (id : JsString) : Attribution :=
  if (registry.get id).isNone then .none
  else if !registry.isActive id then .none
  else .generation id

def openIds (registry : GenerationRegistry) : List JsString :=
  ((registry.generations.filter fun record => record.state = .opened).map (·.id)).mergeSort
    fun a b => a ≤ b

def attributeImplicit (registry : GenerationRegistry) : Attribution :=
  match registry.openIds with
  | [] => .none
  | [only] => .generation only
  | candidates => .ambiguous candidates

def snapshot (registry : GenerationRegistry) : List GenerationRecord := registry.generations

/-- Ids are spelled from the sequence numbers handed out so far, each used once. -/
structure WellFormed (registry : GenerationRegistry) : Prop where
  spelled : ∀ record ∈ registry.generations, record.id = generationId record.seq
  counted : ∀ record ∈ registry.generations, record.seq ≤ registry.counter
  nodup : (registry.generations.map (·.id)).Nodup

/-- The generation is known and has lost its authority. -/
def Settled (registry : GenerationRegistry) (id : JsString) : Prop :=
  ∃ record, registry.get id = some record ∧ record.state = .settled

theorem wellFormed_empty : empty.WellFormed :=
  ⟨nofun, nofun, List.nodup_nil⟩

variable {registry registry' : GenerationRegistry} {id : JsString} {record : GenerationRecord}
  {kind : GenerationKind}

theorem not_isActive_of_settled (h : registry.Settled id) : registry.isActive id = false := by
  obtain ⟨record, hget, hstate⟩ := h
  simp only [isActive, hget, Option.any_some, hstate, reduceCtorEq, decide_false]

theorem get_spec
    (h : registry.get id = some record) : record.id = id ∧ record ∈ registry.generations :=
  ⟨by simpa using List.find?_some h, List.mem_of_find?_eq_some h⟩

theorem fresh (hwf : registry.WellFormed) :
    generationId (registry.counter + 1) ∉ registry.generations.map (·.id) := by
  intro hmem
  obtain ⟨record, hrecord, hid⟩ := List.mem_map.mp hmem
  change record.id = generationId (registry.counter + 1) at hid
  rw [hwf.spelled record hrecord] at hid
  have hseq := generationId_injective hid
  have hle := hwf.counted record hrecord
  omega

theorem openGeneration_ok (hwf : registry.WellFormed)
    (h : registry.openGeneration kind = .ok (record, registry')) :
    record = ⟨generationId (registry.counter + 1), kind, registry.counter + 1, .opened⟩ ∧
      registry' = ⟨registry.generations ++ [record], registry.counter + 1⟩ := by
  simp only [openGeneration] at h
  split at h
  · contradiction
  · split at h
    · contradiction
    · cases h
      exact ⟨rfl, by rw [set, if_neg (fresh hwf)]⟩

theorem settle_ok (h : registry.settle id = .ok (record, registry')) :
    record.state = .settled ∧ ∃ old, registry.get id = some old ∧ record.id = old.id ∧
      record.seq = old.seq ∧ (registry' = registry ∧ record = old ∨ registry' = { registry with
        generations := registry.generations.map fun r => if r.id = record.id then record else r }) := by
  simp only [settle] at h
  split at h
  · contradiction
  · rename_i old hget
    split at h
    · rename_i hstate
      cases h
      exact ⟨hstate, record, hget, rfl, rfl, Or.inl ⟨rfl, rfl⟩⟩
    · cases h
      refine ⟨rfl, old, hget, rfl, rfl, Or.inr ?_⟩
      rw [set, if_pos (List.mem_map_of_mem (get_spec hget).2)]

theorem wellFormed_open (hwf : registry.WellFormed)
    (h : registry.openGeneration kind = .ok (record, registry')) : registry'.WellFormed := by
  obtain ⟨rfl, rfl⟩ := openGeneration_ok hwf h
  refine ⟨?_, ?_, ?_⟩
  · intro record hrecord
    rcases List.mem_append.mp hrecord with hrecord | hrecord
    · exact hwf.spelled record hrecord
    · rw [List.mem_singleton.mp hrecord]
  · intro record hrecord
    rcases List.mem_append.mp hrecord with hrecord | hrecord
    · exact Nat.le_succ_of_le (hwf.counted record hrecord)
    · rw [List.mem_singleton.mp hrecord]
  · rw [List.map_append, List.nodup_append]
    refine ⟨hwf.nodup, List.nodup_cons.mpr ⟨List.not_mem_nil, List.nodup_nil⟩, ?_⟩
    rintro id hid id' hid' rfl
    rw [List.map_singleton, List.mem_singleton] at hid'
    rw [hid'] at hid
    exact fresh hwf hid

theorem wellFormed_settle (hwf : registry.WellFormed)
    (h : registry.settle id = .ok (record, registry')) : registry'.WellFormed := by
  obtain ⟨-, old, hget, hid, hseq, ⟨rfl, -⟩ | rfl⟩ := settle_ok h
  · exact hwf
  · have hold := (get_spec hget).2
    refine ⟨?_, ?_, ?_⟩
    · intro r hr
      obtain ⟨source, hsource, rfl⟩ := List.mem_map.mp hr
      split
      · rw [hid, hseq, hwf.spelled old hold]
      · exact hwf.spelled source hsource
    · intro r hr
      obtain ⟨source, hsource, rfl⟩ := List.mem_map.mp hr
      split
      · rw [hseq]
        exact hwf.counted old hold
      · exact hwf.counted source hsource
    · have hids : (registry.generations.map fun r => if r.id = record.id then record else r).map
          (·.id) = registry.generations.map (·.id) := by
        rw [List.map_map]
        apply List.map_congr_left
        intro r _
        change (if r.id = record.id then record else r).id = r.id
        split
        · rename_i hr
          exact hr.symm
        · rfl
      rw [hids]
      exact hwf.nodup

theorem settled_open (hwf : registry.WellFormed)
    (h : registry.openGeneration kind = .ok (record, registry')) (hsettled : registry.Settled id) :
    registry'.Settled id := by
  obtain ⟨old, hget, hstate⟩ := hsettled
  obtain ⟨-, rfl⟩ := openGeneration_ok hwf h
  refine ⟨old, ?_, hstate⟩
  rw [get, List.find?_append]
  change (registry.get id).or _ = some old
  rw [hget]
  rfl

theorem get_map (registry : GenerationRegistry) (record : GenerationRecord) (id : JsString) :
    GenerationRegistry.get { registry with
        generations := registry.generations.map fun r => if r.id = record.id then record else r }
      id = (registry.get id).map fun r => if r.id = record.id then record else r := by
  rw [get, List.find?_map, get]
  congr 2
  funext r
  change Decidable.decide ((if r.id = record.id then record else r).id = id) =
    Decidable.decide (r.id = id)
  split
  · rename_i hr
    rw [hr]
  · rfl

theorem settled_settle {id' : JsString} (h : registry.settle id = .ok (record, registry'))
    (hsettled : id' = id ∨ registry.Settled id') : registry'.Settled id' := by
  obtain ⟨hstate, old, hget, hid, -, ⟨rfl, rfl⟩ | rfl⟩ := settle_ok h
  · rcases hsettled with rfl | hsettled
    · exact ⟨record, hget, hstate⟩
    · exact hsettled
  · rcases hsettled with rfl | ⟨record', hget', hstate'⟩
    · refine ⟨record, ?_, hstate⟩
      rw [get_map, hget, Option.map_some, if_pos hid.symm]
    · refine ⟨if record'.id = record.id then record else record', ?_, ?_⟩
      · rw [get_map, hget', Option.map_some]
      · split
        · exact hstate
        · exact hstate'

end GenerationRegistry

end NightWatch.Safety.CausalGenerations
