import NightWatch.Validation.Shards

/-!
What a shard plan promises: every file in exactly one shard, exclusive files alone, no
empty shard and no shard beyond the argv bound, whatever the order of the universe. All
but the bound hold of every plan.
-/

namespace NightWatch.Validation.ShardCoverage

open Lib.Buckets Lib.JsText Lib.JsData Lib.JsRuntime Lib.TextOrder Validation.Shards

variable {rt : Runtime} {sha256Hex : JsString → JsString}

theorem lightest_lt {bucketWeights : List JsNumber} (h : 0 < bucketWeights.length) :
    lightest bucketWeights < bucketWeights.length := by
  rw [lightest]
  have hindices : ∀ index ∈ (List.range bucketWeights.length).tail, index < bucketWeights.length :=
    fun index hindex => List.mem_range.mp (List.mem_of_mem_tail hindex)
  revert hindices
  generalize (List.range bucketWeights.length).tail = indices
  intro hindices
  induction indices using List.reverseRecOn with
  | nil => exact h
  | append_singleton indices index ih =>
      rw [List.foldl_append, List.foldl_cons, List.foldl_nil]
      split
      · exact hindices index (by simp)
      · exact ih fun i hi => hindices i (by simp [hi])

theorem perm_flatten_balance {weights : Table JsNumber} {requested : Nat} (hpos : 0 < requested)
    (files : List JsString) : (balance rt weights requested files).flatten.Perm files := by
  have hplace : ∀ (s : List JsNumber × List (List JsString)) (file : JsString),
      s.2.length = requested ∧ s.1.length = requested →
        ((place weights s file).2.length = requested ∧ (place weights s file).1.length = requested) ∧
          ∃ i < requested, (place weights s file).2 = push s.2 i file := by
    rintro s file ⟨hbuckets, hweights⟩
    refine ⟨⟨?_, ?_⟩, lightest s.1, ?_, rfl⟩
    · rw [place, length_push, hbuckets]
    · rw [place, List.length_modify, hweights]
    · have hlt : lightest s.1 < s.1.length := lightest_lt (hweights ▸ hpos)
      omega
  have hperm := perm_flatten_foldl (fun s => s.2.length = requested ∧ s.1.length = requested)
    (place weights) (files.insertionSort fun left right => heavierFirst rt weights left right = true)
    (List.replicate requested (.ofNat 0), List.replicate requested []) (by simp)
    (fun s x hs => (hplace s x hs).1) fun s x hs => by
      obtain ⟨i, hi, heq⟩ := (hplace s x hs).2
      exact ⟨i, hs.1 ▸ hi, heq⟩
  refine hperm.trans ?_
  simpa using List.perm_insertionSort _ files

theorem perm_flatten_buckets {input : ShardPlanInput} (hpos : 1 ≤ input.requested) :
    (input.buckets rt).flatten.Perm input.parallelEligible := by
  have hpos' : 0 < input.requested.toNat := by omega
  rw [ShardPlanInput.buckets]
  split
  · exact perm_flatten_balance hpos' _
  · have hperm := perm_flatten_deal (List.replicate input.requested.toNat [])
      (by simpa using hpos') 0 input.parallelEligible
    simpa using hperm

section Shards

variable {classes : Table ExecutionClass} {buckets : List (List JsString)} {shard : Shard}

theorem exists_bucket_of_mem (h : shard ∈ shardsOf sha256Hex classes buckets) :
    shard.files ≠ [] ∧ ∃ bucket ∈ buckets, shard.files.Perm bucket := by
  rw [shardsOf, List.mem_map] at h
  obtain ⟨entry, hentry, rfl⟩ := h
  obtain ⟨hentry, hfull⟩ := List.mem_filter.mp hentry
  obtain ⟨⟨bucket, index⟩, hbucket, rfl⟩ := List.mem_map.mp hentry
  refine ⟨?_, bucket, (List.mem_zipIdx' hbucket).2 ▸ List.getElem_mem _, ?_⟩
  · simpa [shardOf] using hfull
  · exact List.perm_insertionSort textLe bucket

theorem exists_shard_of_bucket {bucket : List JsString} (hbucket : bucket ∈ buckets)
    (hne : bucket ≠ []) :
    ∃ shard ∈ shardsOf sha256Hex classes buckets, shard.files.Perm bucket := by
  obtain ⟨index, hindex, rfl⟩ := List.mem_iff_getElem.mp hbucket
  refine ⟨shardOf sha256Hex classes ("shard-".toList ++ decimal (index + 1))
    (buckets[index].insertionSort textLe), ?_, List.perm_insertionSort textLe _⟩
  rw [shardsOf, List.mem_map]
  refine ⟨("shard-".toList ++ decimal (index + 1), buckets[index].insertionSort textLe), ?_, rfl⟩
  rw [List.mem_filter, List.mem_map]
  refine ⟨⟨(buckets[index], index), ?_, rfl⟩, ?_⟩
  · exact List.mk_mem_zipIdx_iff_getElem?.mpr (List.getElem?_eq_getElem hindex)
  · have hlength := (List.perm_insertionSort textLe buckets[index]).length_eq
    rw [Bool.not_eq_true', List.isEmpty_eq_false_iff, ← List.length_pos_iff, hlength]
    exact List.length_pos_iff.mpr hne

theorem flatMap_filter_nonempty (entries : List (JsString × List JsString)) :
    (entries.filter fun entry => !entry.2.isEmpty).flatMap Prod.snd = entries.flatMap Prod.snd := by
  induction entries with
  | nil => rfl
  | cons entry rest ih =>
      rcases hempty : entry.2 with _ | ⟨file, files⟩
      · simp [hempty, ih]
      · simp [hempty, ih]

theorem perm_files_shardsOf :
    ((shardsOf sha256Hex classes buckets).flatMap (·.files)).Perm buckets.flatten := by
  have hsorted : ((shardsOf sha256Hex classes buckets).flatMap (·.files)) =
      buckets.flatMap fun bucket => bucket.insertionSort textLe := by
    rw [shardsOf, List.flatMap_map]
    refine (flatMap_filter_nonempty _).trans ?_
    rw [List.flatMap_map]
    conv_rhs => rw [← List.zipIdx_map_fst 0 buckets, List.flatMap_map]
  rw [hsorted]
  clear hsorted
  induction buckets with
  | nil => exact .nil
  | cons bucket rest ih =>
      rw [List.flatMap_cons, List.flatten_cons]
      exact (List.perm_insertionSort textLe bucket).append ih

theorem files_exclusiveShardOf (files : List JsString) :
    (exclusiveShardOf sha256Hex classes files).toList.flatMap (·.files) = files := by
  rw [exclusiveShardOf]
  split
  · next hempty => rw [hempty]; rfl
  · simp [shardOf]

end Shards

/-- What the planner promises of a plan it returns. -/
structure Sound (rt : Runtime) (sha256Hex : JsString → JsString) (input : ShardPlanInput)
    (plan : ShardPlan) : Prop where
  covered : (verifyShardCoverage sha256Hex input.testUniverse
    (plan.parallelShards ++ plan.exclusiveShard.toList)).ok = true
  parallel : ∀ shard ∈ plan.parallelShards, ∀ file ∈ shard.files, input.isExclusive file = false
  exclusive : ∀ shard ∈ plan.exclusiveShard, ∀ file ∈ shard.files, input.isExclusive file = true
  inhabited : ∀ shard ∈ plan.parallelShards ++ plan.exclusiveShard.toList, shard.files ≠ []
  within : ∀ shard ∈ plan.parallelShards, (shard.files.length : ℤ) ≤ input.bound
  stable : ∀ testUniverse, (∀ file, file ∈ testUniverse ↔ file ∈ input.testUniverse) →
    planShards rt sha256Hex { input with testUniverse := testUniverse } = .ok plan

section Plan

variable {input : ShardPlanInput} {plan : ShardPlan}

theorem planShards_eq_ok : planShards rt sha256Hex input = .ok plan ↔
    (1 ≤ input.requested ∧ input.requested ≤ maxParallelShards) ∧
      (input.parallelEligible.length : ℤ) ≤ input.requested * input.bound ∧
      partition rt sha256Hex input = plan := by
  rw [planShards]
  by_cases hcount : input.requested < 1 ∨ maxParallelShards < input.requested
  · rw [if_pos hcount]
    constructor
    · intro h
      cases h
    · rintro ⟨⟨hlow, hhigh⟩, -, -⟩
      omega
  · rw [if_neg hcount]
    by_cases hargv : input.requested * input.bound < input.parallelEligible.length
    · rw [if_pos hargv]
      constructor
      · intro h
        cases h
      · rintro ⟨-, hfit, -⟩
        omega
    · rw [if_neg hargv, Except.ok.injEq]
      constructor
      · intro h
        exact ⟨by omega, by omega, h⟩
      · rintro ⟨-, -, h⟩
        exact h

theorem planShards_congr {testUniverse : List JsString}
    (h : ∀ file, file ∈ testUniverse ↔ file ∈ input.testUniverse) :
    planShards rt sha256Hex { input with testUniverse := testUniverse } =
      planShards rt sha256Hex input := by
  have hfiles : ShardPlanInput.files { input with testUniverse := testUniverse } = input.files :=
    sortedSet_congr h
  simp only [planShards, partition, ShardPlanInput.buckets, ShardPlanInput.parallelEligible,
    ShardPlanInput.exclusive, hfiles]
  rfl

section

variable (hvalid : validateShardInputs input.testUniverse input.classes = [])

include hvalid

theorem isExclusive_of_valid {file : JsString} (hfile : file ∈ input.files) :
    input.isExclusive file = !input.isParallel file := by
  obtain ⟨declared, hlookup, hknown⟩ := exists_class_of_valid hvalid (mem_sortedSet.mp hfile)
  rw [ShardPlanInput.isExclusive, ShardPlanInput.isParallel, hlookup]
  exact ExecutionClass.isExclusive_eq_not_isParallel hknown

theorem perm_files_partition
    (hcount : 1 ≤ input.requested) : (((partition rt sha256Hex input).parallelShards ++
      (partition rt sha256Hex input).exclusiveShard.toList).flatMap (·.files)).Perm input.files := by
  have hsplit : input.exclusive = input.files.filter fun file => !input.isParallel file := by
    refine List.filter_congr fun file hfile => ?_
    exact isExclusive_of_valid hvalid hfile
  rw [List.flatMap_append]
  show (((shardsOf sha256Hex input.classes (input.buckets rt)).flatMap (·.files)) ++
    (exclusiveShardOf sha256Hex input.classes input.exclusive).toList.flatMap (·.files)).Perm _
  rw [files_exclusiveShardOf, hsplit]
  refine ((perm_files_shardsOf.trans (perm_flatten_buckets hcount)).append_right _).trans ?_
  exact List.filter_append_perm input.isParallel input.files

theorem sound_of_within (hplan : planShards rt sha256Hex input = .ok plan)
    (hwithin : ∀ shard ∈ plan.parallelShards, (shard.files.length : ℤ) ≤ input.bound) :
    Sound rt sha256Hex input plan := by
  obtain ⟨⟨hcount, -⟩, -, rfl⟩ := planShards_eq_ok.mp hplan
  refine ⟨?_, ?_, ?_, ?_, hwithin, ?_⟩
  · rw [verifyShardCoverage_ok]
    exact perm_files_partition hvalid hcount
  · intro shard hshard file hfile
    have hmem : file ∈ input.parallelEligible := by
      have hperm : ((shardsOf sha256Hex input.classes (input.buckets rt)).flatMap (·.files)).Perm
          input.parallelEligible := perm_files_shardsOf.trans (perm_flatten_buckets hcount)
      exact hperm.mem_iff.mp (List.mem_flatMap.mpr ⟨shard, hshard, hfile⟩)
    obtain ⟨hfiles, hparallel⟩ := List.mem_filter.mp hmem
    rw [isExclusive_of_valid hvalid hfiles, hparallel]
    rfl
  · intro shard hshard file hfile
    have hmem : file ∈ input.exclusive := by
      have hfiles : (exclusiveShardOf sha256Hex input.classes input.exclusive).toList.flatMap
          (·.files) = input.exclusive := files_exclusiveShardOf input.exclusive
      rw [← hfiles]
      exact List.mem_flatMap.mpr ⟨shard, Option.mem_toList.mpr hshard, hfile⟩
    exact (List.mem_filter.mp hmem).2
  · intro shard hshard
    rcases List.mem_append.mp hshard with hshard | hshard
    · exact (exists_bucket_of_mem hshard).1
    · have hsome := Option.mem_toList.mp hshard
      change exclusiveShardOf _ _ _ = some shard at hsome
      rw [exclusiveShardOf] at hsome
      by_cases hempty : input.exclusive = []
      · rw [if_pos hempty] at hsome
        cases hsome
      · rw [if_neg hempty, Option.some.injEq] at hsome
        rw [← hsome]
        exact hempty
  · intro testUniverse hsame
    rw [planShards_congr hsame]
    exact hplan

end

end Plan

section ZeroWeights

variable {weights : Table JsNumber}

theorem lightest_zero (n : Nat) : lightest (List.replicate n (JsNumber.ofNat 0)) = 0 := by
  have hzero : ∀ index : Nat, ((List.replicate n (JsNumber.ofNat 0))[index]?).getD (.ofNat 0) =
      JsNumber.ofNat 0 := by
    intro index
    rw [List.getElem?_replicate]
    split <;> rfl
  have hlt : (JsNumber.ofNat 0).lt (.ofNat 0) = false := by simp [JsNumber.ofNat, JsNumber.lt]
  simp only [lightest, hzero, hlt]
  generalize (List.range (List.replicate n (JsNumber.ofNat 0)).length).tail = indices
  induction indices with
  | nil => rfl
  | cons index indices ih =>
      rw [List.foldl_cons]
      exact ih

theorem add_zero_zero : (JsNumber.ofNat 0).add (.ofNat 0) = .ofNat 0 := by
  simp [JsNumber.ofNat, JsNumber.add, JsNumber.ofRat]

theorem first_foldl_place {n : Nat} {files : List JsString}
    (hzero : ∀ file ∈ files, costOf weights file = .ofNat 0) (buckets : List (List JsString)) :
    (files.foldl (place weights) (List.replicate n (.ofNat 0), buckets)).2[0]? =
      buckets[0]?.map (· ++ files) := by
  induction files generalizing buckets with
  | nil => simp
  | cons file rest ih =>
      obtain ⟨hfile, hrest⟩ := List.forall_mem_cons.mp hzero
      have hplace : place weights (List.replicate n (.ofNat 0), buckets) file =
          (List.replicate n (.ofNat 0), push buckets 0 file) := by
        rw [place, lightest_zero, hfile]
        have hmodify : (List.replicate n (JsNumber.ofNat 0)).modify 0 (·.add (JsNumber.ofNat 0)) =
            List.replicate n (.ofNat 0) := by
          rcases n with _ | n
          · rfl
          · rw [List.replicate_succ, List.modify_zero_cons, add_zero_zero]
        rw [hmodify]
      rw [List.foldl_cons, hplace, ih hrest, getElem?_push, if_pos rfl, Option.map_map]
      congr 1
      funext bucket
      simp

end ZeroWeights

section Bound

variable {input : ShardPlanInput} {plan : ShardPlan}

theorem length_le_eligible (hcount : 1 ≤ input.requested) {shard : Shard}
    (hshard : shard ∈ shardsOf sha256Hex input.classes (input.buckets rt)) :
    shard.files.length ≤ input.parallelEligible.length := by
  obtain ⟨-, bucket, hbucket, hperm⟩ := exists_bucket_of_mem hshard
  have hsub := (List.sublist_flatten_of_mem hbucket).length_le
  rw [(perm_flatten_buckets hcount).length_eq] at hsub
  rw [hperm.length_eq]
  exact hsub

theorem within_of_unweighted (hweights : input.weights = none)
    (hplan : planShards rt sha256Hex input = .ok plan) {shard : Shard}
    (hshard : shard ∈ plan.parallelShards) : (shard.files.length : ℤ) ≤ input.bound := by
  obtain ⟨⟨hcount, -⟩, hargv, rfl⟩ := planShards_eq_ok.mp hplan
  obtain ⟨hne, bucket, hbucket, hperm⟩ := exists_bucket_of_mem hshard
  have hpos : 0 < input.parallelEligible.length :=
    (List.length_pos_iff.mpr hne).trans_le (length_le_eligible hcount hshard)
  have hbound : 0 < input.bound := by
    by_contra hle
    have := mul_nonpos_of_nonneg_of_nonpos (show 0 ≤ input.requested by omega)
      (show input.bound ≤ 0 by omega)
    omega
  rw [ShardPlanInput.buckets, hweights] at hbucket
  have hfit : input.parallelEligible.length ≤ input.requested.toNat * input.bound.toNat := by
    zify
    rw [Int.toNat_of_nonneg (by omega), Int.toNat_of_nonneg (by omega)]
    exact hargv
  have hle := length_le_of_deal (by omega) hfit hbucket
  rw [hperm.length_eq]
  omega

def weightless (input : ShardPlanInput) : Table JsNumber :=
  input.parallelEligible.map fun file => (file, .ofNat 0)

theorem costOf_weightless {file : JsString} (hfile : file ∈ input.parallelEligible) :
    costOf (weightless input) file = .ofNat 0 := by
  have hlookup : ∀ files : List JsString, file ∈ files →
      (files.map fun file => (file, JsNumber.ofNat 0)).lookup file = some (.ofNat 0) := by
    intro files
    induction files with
    | nil => simp
    | cons first rest ih =>
        intro hmem
        rw [List.map_cons, List.lookup_cons]
        by_cases heq : file = first
        · simp [heq]
        · have hne : (file == first) = false := by simpa using heq
          rw [hne]
          exact ih (by simpa [heq] using hmem)
  rw [costOf, weightless, hlookup _ hfile]
  rfl

theorem exists_full_shard (hcount : 1 ≤ input.requested) (hne : input.parallelEligible ≠ []) :
    ∃ shard ∈ (partition rt sha256Hex
        { input with weights := some (weightless input) }).parallelShards,
      shard.files.length = input.parallelEligible.length := by
  set files := input.parallelEligible.insertionSort fun left right =>
    heavierFirst rt (weightless input) left right = true with hfiles
  have hsorted : files.Perm input.parallelEligible := List.perm_insertionSort _ _
  have hfirst := first_foldl_place (n := input.requested.toNat)
    (fun file hfile => costOf_weightless (hsorted.mem_iff.mp hfile))
    (List.replicate input.requested.toNat [])
  rw [List.getElem?_replicate, if_pos (by omega), Option.map_some, List.nil_append] at hfirst
  have hbucket : files ∈ ShardPlanInput.buckets
      { input with weights := some (weightless input) } rt := List.mem_of_getElem? hfirst
  have hfull : files ≠ [] := by
    intro hempty
    exact hne (List.Perm.nil_eq (hempty ▸ hsorted)).symm
  obtain ⟨shard, hshard, hperm⟩ := exists_shard_of_bucket hbucket hfull
  exact ⟨shard, hshard, (hperm.trans hsorted).length_eq⟩

/-- Without weights every plan is sound; with them every plan is exactly where the
eligible files fit one invocation, or are too many for any plan. -/
theorem sound_iff (rt : Runtime) (sha256Hex : JsString → JsString) (input : ShardPlanInput)
    (hvalid : validateShardInputs input.testUniverse input.classes = [])
    (hcount : 1 ≤ input.requested ∧ input.requested ≤ maxParallelShards) :
    (∀ plan, planShards rt sha256Hex { input with weights := none } = .ok plan →
        Sound rt sha256Hex { input with weights := none } plan) ∧
      ((∀ weights : Table JsNumber, (∀ entry ∈ weights, entry.2.isFinite = true) → ∀ plan,
          planShards rt sha256Hex { input with weights := some weights } = .ok plan →
            Sound rt sha256Hex { input with weights := some weights } plan) ↔
        (input.parallelEligible.length : ℤ) ≤ input.bound ∨
          input.requested * input.bound < input.parallelEligible.length) := by
  refine ⟨?_, ?_, ?_⟩
  · intro plan hplan
    refine sound_of_within hvalid hplan fun shard hshard => ?_
    exact within_of_unweighted rfl hplan hshard
  · intro hsound
    by_contra hnot
    push Not at hnot
    obtain ⟨hover, hargv⟩ := hnot
    have hne : input.parallelEligible ≠ [] := by
      intro hempty
      rw [hempty, List.length_nil] at hover hargv
      have := mul_neg_of_pos_of_neg (show 0 < input.requested by omega) hover
      simp only [Nat.cast_zero] at hargv
      omega
    have hfinite : ∀ entry ∈ weightless input, entry.2.isFinite = true := by
      intro entry hentry
      obtain ⟨file, -, rfl⟩ := List.mem_map.mp hentry
      rfl
    have hplan : planShards rt sha256Hex { input with weights := some (weightless input) } =
        .ok (partition rt sha256Hex { input with weights := some (weightless input) }) :=
      planShards_eq_ok.mpr ⟨hcount, hargv, rfl⟩
    obtain ⟨shard, hshard, hlength⟩ :
        ∃ shard ∈ (partition rt sha256Hex
            { input with weights := some (weightless input) }).parallelShards,
          shard.files.length = input.parallelEligible.length := exists_full_shard hcount.1 hne
    have hwithin := (hsound _ hfinite _ hplan).within shard hshard
    rw [hlength] at hwithin
    exact absurd hwithin (not_le.mpr hover)
  · intro hfits weights _ plan hplan
    refine sound_of_within hvalid hplan fun shard hshard => ?_
    obtain ⟨⟨hone, -⟩, hargv, rfl⟩ := planShards_eq_ok.mp hplan
    have hle := length_le_eligible hone hshard
    change (input.parallelEligible.length : ℤ) ≤ input.requested * input.bound at hargv
    change shard.files.length ≤ input.parallelEligible.length at hle
    change (shard.files.length : ℤ) ≤ input.bound
    omega

end Bound

/-- Three files of one class, two shards of at most two files, and durations too short to
be measured. -/
def skewed : ShardPlanInput where
  testUniverse := ["a".toList, "b".toList, "c".toList]
  classes := [("a".toList, .parallelSafe), ("b".toList, .parallelSafe), ("c".toList, .parallelSafe)]
  parallelShardCount := some (.ofNat 2)
  maxFilesPerInvocation := some (.ofNat 2)
  weights := some [("a".toList, .ofNat 0), ("b".toList, .ofNat 0), ("c".toList, .ofNat 0)]

/-- The balancing puts all three into the first shard. -/
theorem skewed_overfull : validateShardInputs skewed.testUniverse skewed.classes = [] ∧
      ∃ plan, planShards plainRuntime (fun s => s) skewed = .ok plan ∧
        ¬ Sound plainRuntime (fun s => s) skewed plan := by
  refine ⟨by decide, partition plainRuntime (fun s => s) skewed,
    planShards_eq_ok.mpr ⟨by decide, by decide, rfl⟩, ?_⟩
  intro hsound
  have hwithin : ∀ shard ∈ (partition plainRuntime (fun s => s) skewed).parallelShards,
      (shard.files.length : ℤ) ≤ skewed.bound := hsound.within
  revert hwithin
  decide +kernel

theorem sound_iff_skewed :
    (∀ plan, planShards plainRuntime (fun s => s) { skewed with weights := none } = .ok plan →
        Sound plainRuntime (fun s => s) { skewed with weights := none } plan) ∧
      ((∀ weights : Table JsNumber, (∀ entry ∈ weights, entry.2.isFinite = true) → ∀ plan,
          planShards plainRuntime (fun s => s) { skewed with weights := some weights } = .ok plan →
            Sound plainRuntime (fun s => s) { skewed with weights := some weights } plan) ↔
        (skewed.parallelEligible.length : ℤ) ≤ skewed.bound ∨
          skewed.requested * skewed.bound < skewed.parallelEligible.length) :=
  sound_iff plainRuntime (fun s => s) skewed (by decide) (by decide)

section Resharding

variable {input : ShardPlanInput} {plan : ShardPlan}

theorem perm_files_parallelShards (hcount : 1 ≤ input.requested) :
    ((partition rt sha256Hex input).parallelShards.flatMap (·.files)).Perm
      input.parallelEligible :=
  perm_files_shardsOf.trans (perm_flatten_buckets hcount)

def wider : ShardPlanInput :=
  { skewed with parallelShardCount := some (.ofNat 3), weights := none }

end Resharding

end NightWatch.Validation.ShardCoverage
