import NightWatch.Lib.Grouping
import NightWatch.Lib.Loop
import NightWatch.Lib.RoundRobin
import NightWatch.Lib.SafeIntegers
import NightWatch.Lib.TextOrder

/-!
The window of the source index that a reasoner sees: repositories in turn, each with its
executable sources first and these spread over their targets.
-/

namespace NightWatch.ReproductionSurface.SourceSelection

open Lib.JsText Lib.JsData Lib.Grouping Lib.Loop Lib.RoundRobin

class SelectableSourceEntry (T : Type) where
  path : T → JsString
  repository : T → JsString

export SelectableSourceEntry (path repository)

inductive SurfaceReadinessClass where
  | executableNow
  | notExecutable
  | unknown
  deriving DecidableEq

/-- The two fields of a `ReproductionSurfaceEntry` that the selection reads. -/
structure ReproductionSurfaceEntry where
  readiness : SurfaceReadinessClass
  targetId : Option JsString

/-- `ReadonlyMap<string, ReproductionSurfaceEntry>`. -/
abbrev Readiness := JsString → Option ReproductionSurfaceEntry

variable {T : Type}

section Selection

variable [SelectableSourceEntry T]

def isExecutable (readiness : Readiness) (entry : T) : Bool :=
  match readiness (path entry) with
  | some annotation => annotation.readiness = .executableNow
  | none => false

/-- A source without a target id gets a group of its own. -/
def targetKey (readiness : Readiness) (entry : T) : JsString :=
  ((readiness (path entry)).bind (·.targetId)).getD ("path:".toList ++ path entry)

/-- A turn of `for (let round = 0; spread.length < executable.length; round += 1)`. -/
def spreadTurn (groups : List (List T)) (total : Nat) (state : Nat × List T) :
    Turn (Nat × List T) (List T) :=
  if state.2.length < total then .again (state.1 + 1, state.2 ++ row groups state.1)
  else .done state.2

def spreadByTarget (fuel : Nat) (executable : List T) (readiness : Readiness) :
    Option (List T) :=
  let groups := (group (targetKey readiness) executable).map Prod.snd
  loop (spreadTurn groups executable.length) fuel (0, [])

/-- The bucket of one repository, executable sources first. -/
def arrange (fuel : Nat) (readiness : Option Readiness) (bucket : List T) : Option (List T) :=
  match readiness with
  | none => some bucket
  | some readiness =>
      (spreadByTarget fuel (bucket.filter (isExecutable readiness)) readiness).map
        (· ++ bucket.filter fun entry => !isExecutable readiness entry)

/-- The pass `for (const repository of repositories)`: buckets with their cursors, what is
selected, and whether the window is exhausted. -/
def visit (limit : Nat) : List (List T × Nat) → List T → Bool → List (List T × Nat) × List T × Bool
  | [], selected, exhausted => ([], selected, exhausted)
  | (bucket, cursor) :: rest, selected, exhausted =>
      if limit ≤ selected.length then ((bucket, cursor) :: rest, selected, exhausted)
      else
        match bucket[cursor]? with
        | none =>
            let (rest, selected, exhausted) := visit limit rest selected exhausted
            ((bucket, cursor) :: rest, selected, exhausted)
        | some entry =>
            let (rest, selected, exhausted) := visit limit rest (selected ++ [entry]) false
            ((bucket, cursor + 1) :: rest, selected, exhausted)

/-- A turn of `while (selected.length < limit && !exhausted)`. -/
def selectTurn (limit : Nat) (state : List (List T × Nat) × List T × Bool) :
    Turn (List (List T × Nat) × List T × Bool) (List T) :=
  let (rows, selected, exhausted) := state
  if selected.length < limit ∧ exhausted = false then .again (visit limit rows selected true)
  else .done selected

structure DiverseSelectionResult (T : Type) where
  entries : List T
  repositories : Nat
  omitted : Nat

/-- `Number.isSafeInteger(input.limit) && input.limit > 0 ? input.limit : 0`. -/
def windowLimit : JsNumber → Nat
  | .finite q => if (JsNumber.finite q).isSafeInteger ∧ 0 < q then q.num.toNat else 0
  | _ => 0

/-- `none` is a run that has not ended when its fuel is spent. -/
def selectDiverseSourceIndex (fuel : Nat) (entries : List T) (limit : JsNumber)
    (readiness : Option Readiness) : Option (DiverseSelectionResult T) :=
  if windowLimit limit = 0 ∨ entries = [] then some ⟨[], 0, entries.length⟩
  else do
    let byRepository := group repository entries
    let repositories := (byRepository.map Prod.fst).insertionSort textLe
    let buckets ← repositories.mapM fun r =>
      arrange fuel readiness ((byRepository.lookup r).getD [])
    let selected ← loop (selectTurn (windowLimit limit)) fuel (buckets.map (·, 0), [], false)
    return ⟨selected, (selected.map repository).dedup.length, entries.length - selected.length⟩

end Selection

section Loops

variable {limit n : Nat}

theorem loop_spread {groups : List (List T)} {total : Nat}
    (hfull : (weave groups total).length = total) {fuel r : Nat} (hr : r + fuel = total) :
    loop (spreadTurn groups total) (fuel + 1) (r, weave groups r) = some (weave groups total) := by
  induction fuel generalizing r with
  | zero =>
      obtain rfl : r = total := by omega
      exact loop_done (by simp [spreadTurn, hfull])
  | succ fuel ih =>
      by_cases hlt : (weave groups r).length < total
      · have hturn : spreadTurn groups total (r, weave groups r) =
            .again (r + 1, weave groups (r + 1)) := by simp [spreadTurn, hlt, weave_succ]
        rw [loop_again hturn]
        exact ih (by omega)
      · have hfront : weave groups r <+: weave groups total := weave_mono (by omega)
        rw [← hfront.eq_of_length_le (by omega)]
        exact loop_done (by simp [spreadTurn, hlt])

variable {selected : List T} {exhausted : Bool}

/-- One pass selects one round, as much of it as the limit leaves room for. -/
theorem visit_eq (buckets : List (List T)) (r : Nat) (hle : selected.length ≤ limit) :
    let after := visit limit (buckets.map fun b => (b, min r b.length)) selected exhausted
    after.2.1 = (selected ++ row buckets r).take limit ∧
      after.2.2 = (exhausted && ((row buckets r).isEmpty || decide (limit ≤ selected.length))) ∧
      ((selected ++ row buckets r).length ≤ limit →
        after.1 = buckets.map fun b => (b, min (r + 1) b.length)) := by
  induction buckets generalizing selected exhausted with
  | nil => simp [visit, row, hle]
  | cons b rest ih =>
      by_cases hroom : limit ≤ selected.length
      · have hlength : selected.length = limit := by omega
        simp only [List.map_cons, visit, if_pos hroom]
        refine ⟨?_, ?_, ?_⟩
        · rw [List.take_append_of_le_length hroom, List.take_of_length_le hle]
        · simp [hroom]
        · intro hfits
          have hnone : row (b :: rest) r = [] := by
            rw [List.length_append] at hfits
            exact List.length_eq_zero_iff.mp (by omega)
          have hshort : ∀ g ∈ b :: rest, min r g.length = min (r + 1) g.length := by
            intro g hg
            have := row_eq_nil.mp hnone g hg
            omega
          have hsame : (b :: rest).map (fun g => (g, min r g.length)) =
              (b :: rest).map fun g => (g, min (r + 1) g.length) :=
            List.map_congr_left fun g hg => by rw [hshort g hg]
          exact hsame
      · by_cases hr : r < b.length
        · have hmin : min r b.length = r := by omega
          have hget : b[r]? = some b[r] := List.getElem?_eq_getElem hr
          have hrow : row (b :: rest) r = b[r] :: row rest r := by
            rw [row, List.filterMap_cons, hget]
            rfl
          have hnext : r + 1 = min (r + 1) b.length := by omega
          obtain ⟨hsel, hflag, hrows⟩ := @ih (selected ++ [b[r]]) false (by simp; omega)
          simp only [List.map_cons, visit, if_neg hroom, hmin, hget]
          refine ⟨?_, ?_, ?_⟩
          · rw [hsel, hrow, List.append_assoc, List.singleton_append]
          · rw [hflag, hrow]
            simp [hroom]
          · intro hfits
            rw [hrows (by rw [hrow] at hfits; simpa using hfits), ← hnext]
        · have hmin : min r b.length = b.length := by omega
          have hget : b[b.length]? = none := by simp
          have hrow : row (b :: rest) r = row rest r := by
            rw [row, List.filterMap_cons, List.getElem?_eq_none (by omega)]
            rfl
          have hnext : b.length = min (r + 1) b.length := by omega
          obtain ⟨hsel, hflag, hrows⟩ := @ih _ exhausted hle
          simp only [List.map_cons, visit, if_neg hroom, hmin, hget]
          refine ⟨?_, ?_, ?_⟩
          · rw [hsel, hrow]
          · rw [hflag, hrow]
          · intro hfits
            rw [hrows (by rwa [hrow] at hfits), ← hnext]

theorem selectTurn_again {buckets : List (List T)} {r : Nat}
    (hlt : (weave buckets r).length < limit) :
    ∃ rows, selectTurn limit (buckets.map fun b => (b, min r b.length), weave buckets r, false) =
        .again (rows, (weave buckets (r + 1)).take limit, (row buckets r).isEmpty) ∧
      ((weave buckets (r + 1)).length ≤ limit →
        rows = buckets.map fun b => (b, min (r + 1) b.length)) := by
  obtain ⟨hsel, hflag, hrows⟩ := @visit_eq _ limit (weave buckets r) true buckets r (by omega)
  rw [← weave_succ] at hsel hrows
  refine ⟨_, ?_, hrows⟩
  have hopen : ¬ limit ≤ (weave buckets r).length := by omega
  rw [selectTurn, if_pos ⟨hlt, rfl⟩, ← hsel]
  simp only [hopen, decide_false, Bool.or_false, Bool.true_and] at hflag
  rw [← hflag]

theorem selectTurn_done {rows : List (List T × Nat)}
    (h : limit ≤ selected.length ∨ exhausted = true) :
    selectTurn limit (rows, selected, exhausted) = .done selected := by
  refine if_neg ?_
  rintro ⟨hlt, hopen⟩
  rcases h with hle | hex
  · omega
  · rw [hex] at hopen
    contradiction

theorem loop_select {buckets : List (List T)} {total r : Nat}
    (hshort : ∀ b ∈ buckets, b.length ≤ total) (hle : (weave buckets r).length ≤ limit)
    (hr : r + n = total) : loop (selectTurn limit) (n + 2)
        (buckets.map fun b => (b, min r b.length), weave buckets r, false) =
      some ((weave buckets total).take limit) := by
  induction n using Nat.strong_induction_on generalizing r with
  | _ n ih =>
      by_cases hlt : (weave buckets r).length < limit
      · obtain ⟨rows, hturn, hrows⟩ := selectTurn_again hlt
        rw [loop_again hturn]
        by_cases hnone : row buckets r = []
        · -- a round that finds nothing sets the flag, and all is selected
          have hall : weave buckets total = weave buckets (r + 1) := by
            rw [weave_succ, hnone, List.append_nil]
            exact weave_of_short (row_eq_nil.mp hnone) (by omega)
          rw [hall]
          exact loop_done (selectTurn_done (.inr (List.isEmpty_iff.mpr hnone)))
        · have hmore : r < total := by
            by_contra hge
            exact hnone (row_eq_nil.mpr fun b hb => (hshort b hb).trans (by omega))
          obtain ⟨k, rfl⟩ : ∃ k, n = k + 1 := ⟨n - 1, by omega⟩
          have hflag : (row buckets r).isEmpty = false := by simpa using hnone
          by_cases hfits : (weave buckets (r + 1)).length ≤ limit
          · rw [hrows hfits, List.take_of_length_le hfits, hflag]
            exact ih k (by omega) hfits (by omega)
          · obtain ⟨rest, hrest⟩ := @weave_mono _ buckets _ _ (show r + 1 ≤ total by omega)
            rw [← hrest, List.take_append_of_le_length (by omega)]
            exact loop_done (selectTurn_done (.inl (by rw [List.length_take]; omega)))
      · have hlength : (weave buckets r).length = limit := by omega
        obtain ⟨rest, hrest⟩ := @weave_mono _ buckets _ _ (show r ≤ total by omega)
        rw [← hrest, List.take_append_of_le_length (by omega), List.take_of_length_le (by omega)]
        exact loop_done (selectTurn_done (.inl (by omega)))

end Loops

variable [SelectableSourceEntry T]

section Spread

variable {α κ : Type}

theorem keyed_group [DecidableEq κ] {key : α → κ} (xs : List α) : Keyed key (group key xs) where
  nodup := nodup_group xs
  key_eq g hg x hx := by
    rw [← (mem_group.mp hg).2] at hx
    exact of_decide_eq_true (List.mem_filter.mp hx).2

theorem bucket_group [DecidableEq κ] [i : BEq κ] [LawfulBEq κ] {key : α → κ}
    (xs : List α) (k : κ) : ((group key xs).lookup k).getD [] = xs.filter fun x => key x = k := by
  obtain rfl : i = instBEqOfDecidableEq := lawful_beq_subsingleton _ _
  rw [lookup_group]
  split
  · rename_i hempty
    rw [hempty]
    rfl
  · rfl

theorem perm_weave_group [DecidableEq κ] (key : α → κ) (xs : List α) :
    (weave ((group key xs).map Prod.snd) xs.length).Perm xs := by
  refine @perm_of_filter _ _ key _ _ _ fun k => ?_
  rw [filter_weave (keyed_group xs), bucket_group, List.take_of_length_le (List.length_filter_le _ _)]

/-- Where `spreadByTarget` ends. -/
def spread (readiness : Readiness) (executable : List T) : List T :=
  weave ((group (targetKey readiness) executable).map Prod.snd) executable.length

variable {readiness : Readiness} {fuel : Nat} {executable : List T}

theorem spreadByTarget_eq (hfuel : executable.length < fuel) :
    spreadByTarget fuel executable readiness = some (spread readiness executable) :=
  loop_mono (loop_spread (perm_weave_group _ executable).length_eq (Nat.zero_add _)) hfuel

theorem spread_perm (executable : List T) : (spread readiness executable).Perm executable :=
  perm_weave_group _ executable

theorem spread_fresh {before between after : List T} {x y : T}
    (heq : spread readiness executable = before ++ x :: between ++ y :: after)
    (hx : ∃ z ∈ before, targetKey readiness z = targetKey readiness x) :
    ∃ z ∈ before ++ x :: between, targetKey readiness z = targetKey readiness y := by
  obtain ⟨z, hz, hkey⟩ := hx
  exact List.mem_map.mp (fresh_first (keyed_group executable) (fun g hg => (mem_group.mp hg).1) heq
    (List.mem_map.mpr ⟨z, hz, hkey⟩))

end Spread

section Shares

/-- Where `arrange` ends. -/
def share (readiness : Option Readiness) (bucket : List T) : List T :=
  match readiness with
  | none => bucket
  | some readiness =>
      spread readiness (bucket.filter (isExecutable readiness)) ++
        bucket.filter fun entry => !isExecutable readiness entry

variable {readiness : Option Readiness} {fuel : Nat} {entries : List T}

theorem arrange_eq {bucket : List T} (hfuel : bucket.length < fuel) :
    arrange fuel readiness bucket = some (share readiness bucket) := by
  cases readiness with
  | none => rfl
  | some readiness =>
      have hle := List.length_filter_le (isExecutable readiness) bucket
      rw [arrange, spreadByTarget_eq (by omega)]
      rfl

theorem share_perm (bucket : List T) : (share readiness bucket).Perm bucket := by
  cases readiness with
  | none => exact List.Perm.refl _
  | some readiness =>
      exact ((spread_perm _).append_right _).trans (List.filter_append_perm _ _)

/-- The repositories in order, each with its share. -/
def shares (readiness : Option Readiness) (entries : List T) : List (JsString × List T) :=
  (((group repository entries).map Prod.fst).insertionSort textLe).map fun r =>
    (r, share readiness (entries.filter fun entry => repository entry = r))

theorem keyed_shares : Keyed repository (shares readiness entries) where
  nodup := by
    rw [shares, List.map_map]
    simp only [Function.comp_def, List.map_id_fun', id_eq]
    exact (List.perm_insertionSort textLe _).nodup_iff.mpr (nodup_group entries)
  key_eq g hg x hx := by
    obtain ⟨r, -, rfl⟩ := List.mem_map.mp hg
    exact of_decide_eq_true (List.mem_filter.mp ((share_perm _).mem_iff.mp hx)).2

theorem lookup_shares (r : JsString) : ((shares readiness entries).lookup r).getD [] =
    share readiness (entries.filter fun entry => repository entry = r) := by
  by_cases hr : r ∈ ((group repository entries).map Prod.fst).insertionSort textLe
  · rw [shares, List.lookup_graph _ hr]
    rfl
  · have hnone : (entries.filter fun entry => repository entry = r) = [] := by
      by_contra hne
      have hmem : (r, _) ∈ group repository entries := mem_group.mpr ⟨hne, rfl⟩
      exact hr (List.mem_insertionSort _ |>.mpr (List.mem_map.mpr ⟨_, hmem, rfl⟩))
    have hlookup : (shares readiness entries).lookup r = none := by
      refine List.lookup_eq_none_iff.mpr fun g hg => ?_
      obtain ⟨r', hr', rfl⟩ := List.mem_map.mp hg
      have hdiff : r ≠ r' := fun heq => hr (heq ▸ hr')
      simpa using hdiff
    rw [hlookup, hnone]
    exact (share_perm []).eq_nil.symm

theorem weave_shares_perm :
    (weave ((shares readiness entries).map Prod.snd) entries.length).Perm entries := by
  refine @perm_of_filter _ _ repository _ _ _ fun r => ?_
  have hperm : (share readiness (entries.filter fun entry => repository entry = r)).Perm
      (entries.filter fun entry => repository entry = r) := share_perm _
  rw [filter_weave keyed_shares, lookup_shares,
    List.take_of_length_le (hperm.length_eq ▸ List.length_filter_le _ _)]
  exact hperm

end Shares

section Window

variable {limit : Nat} {readiness : Option Readiness} {entries : List T} {fuel : Nat}

/-- The entries that `selectDiverseSourceIndex` returns for a limit that it accepts. -/
def window (limit : Nat) (readiness : Option Readiness) (entries : List T) : List T :=
  (weave ((shares readiness entries).map Prod.snd) entries.length).take limit

theorem windowLimit_ofNat (hpos : 1 ≤ limit) (hsafe : limit ≤ 2 ^ 53 - 1) :
    windowLimit (.ofNat limit) = limit := by
  have hnum : (JsNumber.finite (limit : ℚ)).isSafeInteger ∧ (0 : ℚ) < limit := by
    refine ⟨?_, by exact_mod_cast hpos⟩
    rw [JsNumber.isSafeInteger, Rat.den_natCast, Rat.num_natCast, Int.natAbs_natCast,
      beq_self_eq_true, Bool.true_and]
    exact decide_eq_true hsafe
  rw [JsNumber.ofNat, windowLimit, if_pos hnum, Rat.num_natCast, Int.toNat_natCast]

theorem select_eq (hpos : 1 ≤ limit) (hsafe : limit ≤ 2 ^ 53 - 1)
    (hfuel : entries.length + 2 ≤ fuel) :
    selectDiverseSourceIndex fuel entries (.ofNat limit) readiness =
      some ⟨window limit readiness entries,
        ((window limit readiness entries).map repository).dedup.length,
        entries.length - (window limit readiness entries).length⟩ := by
  rw [selectDiverseSourceIndex, windowLimit_ofNat hpos hsafe]
  by_cases hempty : entries = []
  · subst hempty
    rw [if_pos (.inr rfl)]
    simp [window, weave]
  · rw [if_neg (by simp [hempty]; omega)]
    have hbucket : (fun r => arrange fuel readiness (((group repository entries).lookup r).getD [])) =
        fun r => some (share readiness (entries.filter fun entry => repository entry = r)) := by
      funext r
      rw [bucket_group]
      have := List.length_filter_le (fun entry => decide (repository entry = r)) entries
      exact arrange_eq (by omega)
    have hshort : ∀ b ∈ (shares readiness entries).map Prod.snd, b.length ≤ entries.length := by
      intro b hb
      obtain ⟨g, hg, rfl⟩ := List.mem_map.mp hb
      obtain ⟨r, -, rfl⟩ := List.mem_map.mp hg
      rw [(share_perm _).length_eq]
      exact List.length_filter_le _ _
    have hloop := loop_mono (@loop_select _ limit entries.length _ entries.length 0 hshort
      (Nat.zero_le _) (Nat.zero_add _)) hfuel
    have hbuckets : (((group repository entries).map Prod.fst).insertionSort textLe).mapM
        (fun r => some (share readiness (entries.filter fun entry => repository entry = r))) =
        some ((shares readiness entries).map Prod.snd) := by
      rw [shares, List.map_map]
      exact List.mapM_pure
    have hstart : ((shares readiness entries).map Prod.snd).map (fun b => (b, min 0 b.length)) =
        ((shares readiness entries).map Prod.snd).map (·, 0) :=
      List.map_congr_left fun b _ => by rw [Nat.zero_min]
    rw [hstart] at hloop
    dsimp only
    rw [hbucket, hbuckets, Option.bind_eq_bind, Option.bind_some]
    rw [show loop (selectTurn limit) fuel (_, [], false) = _ from hloop]
    rfl

theorem length_window : (window limit readiness entries).length = min limit entries.length := by
  rw [window, List.length_take, weave_shares_perm.length_eq]

theorem filter_window (r : JsString) :
    (window limit readiness entries).filter (fun entry => repository entry = r) <+:
      share readiness (entries.filter fun entry => repository entry = r) := by
  have h := (List.take_prefix limit (weave ((shares readiness entries).map Prod.snd)
    entries.length)).filter fun entry => repository entry = r
  rw [filter_weave keyed_shares, lookup_shares] at h
  exact h.trans (List.take_prefix _ _)

/-- The repositories of the window, entry by entry, are the same for every readiness map. -/
theorem repositories_window (readiness readiness' : Option Readiness) :
    (window limit readiness entries).map repository =
      (window limit readiness' entries).map repository := by
  have hshare : ∀ (m : Option Readiness) (r : JsString),
      (share m (entries.filter fun entry => repository entry = r)).map repository =
        List.replicate (entries.filter fun entry => repository entry = r).length r := by
    intro m r
    refine List.eq_replicate_iff.mpr ⟨?_, ?_⟩
    · rw [List.length_map, (share_perm _).length_eq]
    · intro name hname
      obtain ⟨entry, hentry, rfl⟩ := List.mem_map.mp hname
      exact of_decide_eq_true (List.mem_filter.mp ((share_perm _).mem_iff.mp hentry)).2
  rw [window, window, List.map_take, List.map_take, map_weave, map_weave, shares, shares]
  simp only [List.map_map, Function.comp_def, hshare]

theorem share_executable_first (m : Readiness) (bucket : List T) :
    (share (some m) bucket).Pairwise fun a b =>
      isExecutable m b = true → isExecutable m a = true := by
  have hspread : ∀ x ∈ spread m (bucket.filter (isExecutable m)), isExecutable m x = true :=
    fun x hx => (List.mem_filter.mp ((spread_perm _).mem_iff.mp hx)).2
  refine List.pairwise_append.mpr ⟨?_, ?_, fun a ha _ _ _ => hspread a ha⟩
  · exact List.pairwise_of_forall_mem_list fun a ha _ _ _ => hspread a ha
  · refine List.pairwise_of_forall_mem_list fun a _ b hb hexec => ?_
    have := (List.mem_filter.mp hb).2
    rw [hexec] at this
    contradiction

theorem share_fresh (m : Readiness) {bucket before between after : List T} {x y : T}
    (hfront : before ++ x :: between ++ y :: after <+: share (some m) bucket)
    (hy : isExecutable m y = true) (hx : ∃ z ∈ before, targetKey m z = targetKey m x) :
    ∃ z ∈ before ++ x :: between, isExecutable m z = true ∧ targetKey m z = targetKey m y := by
  obtain ⟨rest, hrest⟩ := hfront
  have hnot : ∀ front, y :: (after ++ rest) <:+ front →
      front ≠ bucket.filter fun entry => !isExecutable m entry := by
    rintro front hfront rfl
    have := (List.mem_filter.mp (hfront.subset List.mem_cons_self)).2
    rw [hy] at this
    contradiction
  have hexec : ∀ z ∈ spread m (bucket.filter (isExecutable m)), isExecutable m z = true :=
    fun z hz => (List.mem_filter.mp ((spread_perm _).mem_iff.mp hz)).2
  rw [share, List.append_assoc, List.cons_append, List.append_eq_append_iff] at hrest
  rcases hrest with ⟨left, hleft, hright⟩ | ⟨left, -, hright⟩
  · rcases left with _ | ⟨y', left⟩
    · exact absurd rfl (hnot _ (by rw [← List.nil_append (bucket.filter _), ← hright]))
    · obtain ⟨rfl, -⟩ := List.cons.inj hright
      obtain ⟨z, hz, hkey⟩ := spread_fresh hleft hx
      exact ⟨z, hz, hexec z (by rw [hleft]; exact List.mem_append_left _ hz), hkey⟩
  · exact absurd rfl (hnot _ (by rw [hright]; exact List.suffix_append _ _))

/-- The entries of one repository. -/
def ofRepository (r : JsString) (entries : List T) : List T :=
  entries.filter fun entry => repository entry = r

/-- For a limit that is a safe integer the selection ends and returns that many entries, each once:
repositories in equal shares whatever the readiness map, executable sources first, every target
once before any twice, and nothing lost when the limit grows. -/
theorem window_laws (hpaths : (entries.map path).Nodup) (hpos : 1 ≤ limit)
    (hsafe : limit ≤ 2 ^ 53 - 1) (hfuel : entries.length + 2 ≤ fuel)
    (readiness : Option Readiness) :
    ∃ result, selectDiverseSourceIndex fuel entries (.ofNat limit) readiness = some result ∧
      result.entries.length = min limit entries.length ∧ result.entries.Nodup ∧
      result.entries ⊆ entries ∧
      (∀ a b, (ofRepository a result.entries).length ≤ (ofRepository b result.entries).length + 1 ∨
        (ofRepository b result.entries).Perm (ofRepository b entries)) ∧ (∀ readiness', ∃ result',
        selectDiverseSourceIndex fuel entries (.ofNat limit) readiness' = some result' ∧
        ∀ r, (ofRepository r result'.entries).length = (ofRepository r result.entries).length) ∧
      (∀ m, readiness = some m → ∀ r, ((ofRepository r result.entries).Pairwise fun a b =>
          isExecutable m b = true → isExecutable m a = true) ∧ ∀ before x between y after,
          ofRepository r result.entries = before ++ x :: between ++ y :: after →
          isExecutable m x = true → isExecutable m y = true →
          (∃ z ∈ before, isExecutable m z = true ∧ targetKey m z = targetKey m x) →
          ∃ z ∈ before ++ x :: between, isExecutable m z = true ∧ targetKey m z = targetKey m y) ∧
      (limit < 2 ^ 53 - 1 → ∃ result',
        selectDiverseSourceIndex fuel entries (.ofNat (limit + 1)) readiness = some result' ∧
        result.entries <+: result'.entries) := by
  have hsub : (window limit readiness entries).Sublist
      (weave ((shares readiness entries).map Prod.snd) entries.length) := List.take_sublist _ _
  refine ⟨_, select_eq hpos hsafe hfuel, length_window, ?_, ?_, ?_, ?_, ?_, ?_⟩
  · exact hsub.nodup (weave_shares_perm.nodup_iff.mpr hpaths.of_map)
  · exact fun x hx => weave_shares_perm.subset (hsub.subset hx)
  · intro a b
    refine (balanced keyed_shares limit _ _ rfl rfl).imp id fun hspent => ?_
    rw [lookup_shares] at hspent
    rw [ofRepository, (filter_window b).eq_of_length hspent]
    exact share_perm _
  · refine fun readiness' => ⟨_, select_eq hpos hsafe hfuel, fun r => ?_⟩
    have hcount : ∀ xs : List T,
        (ofRepository r xs).length = ((xs.map repository).filter (· = r)).length := by
      intro xs
      rw [List.filter_map, List.length_map]
      rfl
    rw [hcount, hcount, repositories_window readiness']
  · rintro m rfl r
    have hfront : ofRepository r (window limit (some m) entries) <+: share (some m) _ :=
      filter_window r
    refine ⟨(share_executable_first m _).sublist hfront.sublist, ?_⟩
    rintro before x between y after hsplit - hy ⟨z, hz, -, hkey⟩
    change ofRepository r (window limit (some m) entries) = _ at hsplit
    rw [hsplit] at hfront
    exact share_fresh m hfront hy ⟨z, hz, hkey⟩
  · exact fun hlt => ⟨_, select_eq (by omega) (by omega) hfuel, List.take_prefix_take_left (by omega)⟩

end Window

section Samples

instance : SelectableSourceEntry (JsString × JsString) where
  path := Prod.fst
  repository := Prod.snd

/-- Four sources of one repository, named by their paths. -/
def sources : List (JsString × JsString) := ["p", "q", "r", "s"].map fun name => (name.toList, [])

/-- `p` and `q` share a target, and the target id of `s` is the key of `r`, which has none. -/
def surface : Readiness := fun name =>
  some ⟨.executableNow, if name = ['r'] then none
    else if name = ['s'] then some "path:r".toList else some ['t']⟩

theorem window_laws_sample :
    ∃ result, selectDiverseSourceIndex 6 sources (.ofNat 2) none = some result ∧
      result.entries.length = 2 := by
  obtain ⟨result, hresult, hlength, -⟩ :=
    @window_laws _ _ 2 sources 6 (by decide) (by decide) (by decide) (by decide) none
  exact ⟨result, hresult, hlength⟩

/-- A limit that is no safe integer gives an empty window; and `q`, the second source of its
target, precedes `s`, the first source of another. -/
theorem unsafe_limit_selects_nothing :
    (selectDiverseSourceIndex 6 sources (.ofNat (2 ^ 53)) none).map (·.entries) = some [] ∧
      (selectDiverseSourceIndex 6 sources (.ofNat 4) (some surface)).map
          (·.entries.map Prod.fst) = some [['p'], ['r'], ['q'], ['s']] := by
  decide

end Samples

end NightWatch.ReproductionSurface.SourceSelection
