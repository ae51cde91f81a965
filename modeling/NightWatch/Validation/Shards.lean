import NightWatch.Lib.Buckets
import NightWatch.Lib.JsRuntime
import NightWatch.Lib.TextOrder

namespace NightWatch.Validation.Shards

open Lib.Buckets Lib.JsText Lib.JsData Lib.JsRuntime Lib.TextOrder

def validationShardPlanSchema : JsString := "nightwatch.validation-shard-plan.v1".toList

def defaultParallelShards : ℤ := 2

def maxParallelShards : ℤ := 8

def defaultFilesPerInvocation : ℤ := 512

inductive ExecutionClass where
  | parallelSafe
  | processIsolatedOnly
  | serialRequired
  | mutationCampaignExclusive
  /-- A declared text outside the vocabulary. -/
  | other (name : JsString)

namespace ExecutionClass

def name : ExecutionClass → JsString
  | parallelSafe => "PARALLEL_SAFE".toList
  | processIsolatedOnly => "PROCESS_ISOLATED_ONLY".toList
  | serialRequired => "SERIAL_REQUIRED".toList
  | mutationCampaignExclusive => "MUTATION_CAMPAIGN_EXCLUSIVE".toList
  | other name => name

def isParallel : ExecutionClass → Bool
  | parallelSafe | processIsolatedOnly => true
  | _ => false

def isExclusive : ExecutionClass → Bool
  | serialRequired | mutationCampaignExclusive => true
  | _ => false

def isKnown : ExecutionClass → Bool
  | other _ => false
  | _ => true

theorem isExclusive_eq_not_isParallel {c : ExecutionClass} (h : c.isKnown = true) :
    c.isExclusive = !c.isParallel := by
  rcases c with _ | _ | _ | _ | name
  · rfl
  · rfl
  · rfl
  · rfl
  · simp [isKnown] at h

end ExecutionClass

/-- `Record<string, T>`: its own entries. -/
abbrev Table (α : Type) := List (JsString × α)

structure Shard where
  id : JsString
  files : List JsString
  digest : JsString
  byClass : Table Nat
  deriving DecidableEq

structure ShardPlan where
  schemaVersion : JsString
  universeCount : Nat
  universeDigest : JsString
  parallelShardCount : ℤ
  parallelShards : List Shard
  exclusiveShard : Option Shard
  planDigest : JsString
  deriving DecidableEq

structure ShardPlanViolation where
  code : JsString
  detail : JsString

inductive ShardPlanError where
  | shardCountOutOfRange (requested : ℤ)
  | shardArgvBoundExceeded (eligible : Nat) (limit : ℤ)
  deriving DecidableEq

structure ShardPlanInput where
  testUniverse : List JsString
  classes : Table ExecutionClass
  parallelShardCount : Option JsNumber := none
  maxFilesPerInvocation : Option JsNumber := none
  weights : Option (Table JsNumber) := none

/-- `Number.isInteger(value) ? value : fallback`. -/
def integerOr (fallback : ℤ) : Option JsNumber → ℤ
  | some (.finite q) => if q.den = 1 then q.num else fallback
  | _ => fallback

def classViolations (classes : Table ExecutionClass) (file : JsString) : List ShardPlanViolation :=
  match classes.lookup file with
  | none => [⟨"SHARD_CLASS_MISSING".toList, file⟩]
  | some declared =>
      if declared.isKnown then []
      else [⟨"SHARD_CLASS_UNKNOWN".toList, file ++ ": ".toList ++ declared.name⟩]

/-- The violations of `validateShardInputs`, which is `ok` when there is none. -/
def validateShardInputs (testUniverse : List JsString) (classes : Table ExecutionClass) :
    List ShardPlanViolation :=
  (if testUniverse = [] then [⟨"SHARD_UNIVERSE_EMPTY".toList, "no files to plan".toList⟩] else []) ++
    (sortedSet testUniverse).flatMap (classViolations classes) ++
    (((classes.map Prod.fst).insertionSort textLe).filter fun file => file ∉ testUniverse).map
      fun file => ⟨"SHARD_CLASS_DECLARED_MISSING".toList, file⟩

variable {testUniverse : List JsString}

theorem exists_class_of_valid {classes : Table ExecutionClass}
    (hvalid : validateShardInputs testUniverse classes = []) {file : JsString}
    (hfile : file ∈ testUniverse) :
    ∃ declared, classes.lookup file = some declared ∧ declared.isKnown = true := by
  rw [validateShardInputs, List.append_eq_nil_iff, List.append_eq_nil_iff] at hvalid
  have hnone := List.flatMap_eq_nil_iff.mp hvalid.1.2 file (mem_sortedSet.mpr hfile)
  rw [classViolations] at hnone
  rcases hlookup : classes.lookup file with _ | declared
  · simp [hlookup] at hnone
  · refine ⟨declared, rfl, ?_⟩
    simpa [hlookup] using hnone

section Distribution

variable (rt : Runtime) (weights : Table JsNumber)

def costOf (file : JsString) : JsNumber := (weights.lookup file).getD (.ofNat 1)

def measured (file : JsString) : Option JsNumber := (weights.lookup file).filter JsNumber.isFinite

def heavierFirst (left right : JsString) : Bool :=
  match measured weights left, measured weights right with
  | some leftWeight, some rightWeight =>
      let difference := rightWeight.sub leftWeight
      if difference = .ofNat 0 ∨ difference = .nan then rt.localeLe left right
      else difference.lt (.ofNat 0)
  | some _, none => true
  | none, some _ => false
  | none, none => rt.localeLe left right

def lightest (bucketWeights : List JsNumber) : Nat :=
  let weightAt (index : Nat) : JsNumber := (bucketWeights[index]?).getD (.ofNat 0)
  (List.range bucketWeights.length).tail.foldl
    (fun target index => if (weightAt index).lt (weightAt target) then index else target) 0

def place (state : List JsNumber × List (List JsString)) (file : JsString) :
    List JsNumber × List (List JsString) :=
  let target := lightest state.1
  (state.1.modify target (·.add (costOf weights file)), push state.2 target file)

def balance (requested : Nat) (files : List JsString) : List (List JsString) :=
  ((files.insertionSort fun left right => heavierFirst rt weights left right = true).foldl
    (place weights) (List.replicate requested (.ofNat 0), List.replicate requested [])).2

end Distribution

namespace ShardPlanInput

variable (input : ShardPlanInput)

def files : List JsString := sortedSet input.testUniverse

def requested : ℤ := integerOr defaultParallelShards input.parallelShardCount

def bound : ℤ := integerOr defaultFilesPerInvocation input.maxFilesPerInvocation

def isParallel (file : JsString) : Bool :=
  (input.classes.lookup file).any ExecutionClass.isParallel

def isExclusive (file : JsString) : Bool :=
  (input.classes.lookup file).any ExecutionClass.isExclusive

def parallelEligible : List JsString := input.files.filter input.isParallel

def exclusive : List JsString := input.files.filter input.isExclusive

def buckets (rt : Runtime) : List (List JsString) :=
  match input.weights with
  | some weights => balance rt weights input.requested.toNat input.parallelEligible
  | none => deal (List.replicate input.requested.toNat []) 0 input.parallelEligible

end ShardPlanInput

section Plan

variable (rt : Runtime) (sha256Hex : JsString → JsString)

def digestOf (values : List JsString) : JsString :=
  "sha256:".toList ++ (sha256Hex (join '\n' (values.insertionSort textLe))).take 24

def countByClass (files : List JsString) (classes : Table ExecutionClass) : Table Nat :=
  files.foldl (fun counts file =>
    let name := ((classes.lookup file).map ExecutionClass.name).getD "UNCLASSIFIED".toList
    mapSet name ((counts.lookup name).getD 0 + 1) counts) []

def shardOf (classes : Table ExecutionClass) (id : JsString) (files : List JsString) : Shard where
  id := id
  files := files
  digest := digestOf sha256Hex files
  byClass := countByClass files classes

def shardsOf (classes : Table ExecutionClass) (buckets : List (List JsString)) : List Shard :=
  ((buckets.zipIdx.map fun bucket =>
      (("shard-".toList ++ decimal (bucket.2 + 1)), bucket.1.insertionSort textLe)).filter
    fun bucket => !bucket.2.isEmpty).map fun bucket => shardOf sha256Hex classes bucket.1 bucket.2

def exclusiveShardOf (classes : Table ExecutionClass) (files : List JsString) : Option Shard :=
  if files = [] then none else some (shardOf sha256Hex classes "exclusive".toList files)

def planDigestOf (files : List JsString) (shards : List Shard) : JsString :=
  digestOf sha256Hex (("universe:".toList ++ digestOf sha256Hex files) ::
    shards.map fun shard => shard.id ++ [':'] ++ shard.digest)

def partition (input : ShardPlanInput) : ShardPlan :=
  let parallelShards := shardsOf sha256Hex input.classes (input.buckets rt)
  let exclusiveShard := exclusiveShardOf sha256Hex input.classes input.exclusive
  { schemaVersion := validationShardPlanSchema
    universeCount := input.files.length
    universeDigest := digestOf sha256Hex input.files
    parallelShardCount := input.requested
    parallelShards := parallelShards
    exclusiveShard := exclusiveShard
    planDigest := planDigestOf sha256Hex input.files (parallelShards ++ exclusiveShard.toList) }

def planShards (input : ShardPlanInput) : Except ShardPlanError ShardPlan :=
  if input.requested < 1 ∨ maxParallelShards < input.requested then
    .error (.shardCountOutOfRange input.requested)
  else if input.requested * input.bound < input.parallelEligible.length then
    .error (.shardArgvBoundExceeded input.parallelEligible.length (input.requested * input.bound))
  else .ok (partition rt sha256Hex input)

end Plan

structure Coverage where
  ok : Bool
  missing : List JsString
  duplicated : List JsString
  unexpected : List JsString
  universeDigest : JsString

structure Walk where
  seen : List JsString := []
  duplicated : List JsString := []
  unexpected : List JsString := []

def Walk.visit (files : List JsString) (walk : Walk) (file : JsString) : Walk where
  seen := file :: walk.seen
  duplicated := if file ∈ walk.seen then walk.duplicated ++ [file] else walk.duplicated
  unexpected := if file ∈ files then walk.unexpected else walk.unexpected ++ [file]

def verifyShardCoverage (sha256Hex : JsString → JsString) (testUniverse : List JsString)
    (shards : List Shard) : Coverage :=
  let files := sortedSet testUniverse
  let walk := (shards.flatMap (·.files)).foldl (Walk.visit files) {}
  let missing := files.filter fun file => file ∉ walk.seen
  { ok := missing.isEmpty && walk.duplicated.isEmpty && walk.unexpected.isEmpty
    missing := missing
    duplicated := walk.duplicated
    unexpected := walk.unexpected
    universeDigest := digestOf sha256Hex files }

variable {files visited : List JsString} {walk : Walk}

theorem mem_seen_foldl {file : JsString} :
    file ∈ (visited.foldl (Walk.visit files) walk).seen ↔ file ∈ walk.seen ∨ file ∈ visited := by
  induction visited generalizing walk with
  | nil => simp
  | cons first rest ih =>
      rw [List.foldl_cons, ih, Walk.visit, List.mem_cons, List.mem_cons]
      tauto

theorem duplicated_foldl_eq_nil : (visited.foldl (Walk.visit files) walk).duplicated = [] ↔
      walk.duplicated = [] ∧ visited.Nodup ∧ ∀ file ∈ visited, file ∉ walk.seen := by
  induction visited generalizing walk with
  | nil => simp
  | cons first rest ih =>
      rw [List.foldl_cons, ih, Walk.visit, List.nodup_cons, List.forall_mem_cons]
      by_cases hseen : first ∈ walk.seen
      · simp [hseen]
      · simp only [hseen, if_false, List.mem_cons, not_or]
        constructor
        · rintro ⟨hdup, hrest, hnew⟩
          exact ⟨hdup, ⟨fun hmem => (hnew first hmem).1 rfl, hrest⟩, not_false,
            fun file hfile => (hnew file hfile).2⟩
        · rintro ⟨hdup, ⟨hfirst, hrest⟩, -, hnew⟩
          refine ⟨hdup, hrest, fun file hfile => ⟨?_, hnew file hfile⟩⟩
          rintro rfl
          exact hfirst hfile

theorem unexpected_foldl_eq_nil : (visited.foldl (Walk.visit files) walk).unexpected = [] ↔
      walk.unexpected = [] ∧ ∀ file ∈ visited, file ∈ files := by
  induction visited generalizing walk with
  | nil => simp
  | cons first rest ih =>
      rw [List.foldl_cons, ih, Walk.visit]
      by_cases hfirst : first ∈ files
      · simp [hfirst]
      · simp [hfirst]

theorem verifyShardCoverage_ok {sha256Hex : JsString → JsString}
    {shards : List Shard} : (verifyShardCoverage sha256Hex testUniverse shards).ok = true ↔
      (shards.flatMap (·.files)).Perm (sortedSet testUniverse) := by
  have hempty : ∀ xs : List JsString, xs.isEmpty = true ↔ xs = [] := fun xs => List.isEmpty_iff
  rw [verifyShardCoverage]
  simp only [Bool.and_eq_true, hempty, duplicated_foldl_eq_nil, unexpected_foldl_eq_nil,
    List.filter_eq_nil_iff, mem_seen_foldl, decide_eq_true_eq, not_not]
  constructor
  · rintro ⟨⟨hmissing, -, hnodup, -⟩, -, hexpected⟩
    rw [List.perm_ext_iff_of_nodup hnodup nodup_sortedSet]
    intro file
    constructor
    · exact hexpected file
    · intro hfile
      simpa using hmissing file hfile
  · intro hperm
    refine ⟨⟨?_, trivial, hperm.nodup_iff.mpr nodup_sortedSet, by simp⟩, trivial, ?_⟩
    · intro file hfile
      exact Or.inr (hperm.mem_iff.mpr hfile)
    · intro file hfile
      exact hperm.mem_iff.mp hfile

end NightWatch.Validation.Shards
