import NightWatch.Lib.Guard
import NightWatch.Policy.PrivateScreening

namespace NightWatch.Policy.StructuralWalk

open Lib.JsText Lib.JsRuntime Lib.Guard Policy.PrivateScreening

section Loads

/-- What a part of the walk goes through: depth, nodes, steps of the key counter, and whether every
key is admissible. -/
structure Load where
  depth : Nat
  nodes : Nat
  keys : Nat
  clean : Bool

namespace Load

def nothing : Load := ⟨0, 0, 0, true⟩

def node : Load := ⟨0, 1, 0, true⟩

def both (a b : Load) : Load :=
  ⟨max a.depth b.depth, a.nodes + b.nodes, a.keys + b.keys, a.clean && b.clean⟩

def below (a : Load) : Load := { a with depth := a.depth + 1 }

def addTo (a : Load) (counters : Counters) : Counters :=
  ⟨counters.nodes + a.nodes, counters.keys + a.keys⟩

/-- The load fits on top of what has been counted. -/
structure Fits (a : Load) (depth : Nat) (counters : Counters) : Prop where
  depth_le : depth + a.depth ≤ maxDepth
  nodes_le : counters.nodes + a.nodes ≤ maxNodes
  keys_le : counters.keys + a.keys ≤ maxKeys
  clean : a.clean = true

/-- One load is part of another. -/
structure Within (a b : Load) : Prop where
  depth_le : a.depth ≤ b.depth
  nodes_le : a.nodes ≤ b.nodes
  keys_le : a.keys ≤ b.keys
  clean : b.clean = true → a.clean = true

theorem Within.refl (a : Load) : Within a a := ⟨Nat.le_refl _, Nat.le_refl _, Nat.le_refl _, id⟩

theorem Within.trans {a b c : Load} (h : Within a b) (h' : Within b c) : Within a c :=
  ⟨h.depth_le.trans h'.depth_le, h.nodes_le.trans h'.nodes_le, h.keys_le.trans h'.keys_le,
    fun hc => h.clean (h'.clean hc)⟩

theorem within_below (a : Load) : Within a a.below :=
  ⟨Nat.le_succ _, Nat.le_refl _, Nat.le_refl _, id⟩

theorem within_both_left (a b : Load) : Within a (both a b) :=
  ⟨Nat.le_max_left _ _, Nat.le_add_right _ _, Nat.le_add_right _ _,
    fun h => (Bool.and_eq_true_iff.mp h).1⟩

theorem within_both_right (a b : Load) : Within b (both a b) :=
  ⟨Nat.le_max_right _ _, Nat.le_add_left _ _, Nat.le_add_left _ _,
    fun h => (Bool.and_eq_true_iff.mp h).2⟩

theorem clean_both {a b : Load} : (both a b).clean = true ↔ a.clean = true ∧ b.clean = true :=
  Bool.and_eq_true_iff

theorem Within.both {a b : Load} (h : Within a b) (c : Load) :
    Within (Load.both c a) (Load.both c b) where
  depth_le := max_le_max_left _ h.depth_le
  nodes_le := Nat.add_le_add_left h.nodes_le _
  keys_le := Nat.add_le_add_left h.keys_le _
  clean hclean := clean_both.mpr
    ⟨(clean_both.mp hclean).1, h.clean (clean_both.mp hclean).2⟩

theorem Within.fits {a b : Load} (h : Within a b) {depth : Nat} {counters : Counters}
    (hb : b.Fits depth counters) : a.Fits depth counters where
  depth_le := (Nat.add_le_add_left h.depth_le _).trans hb.depth_le
  nodes_le := (Nat.add_le_add_left h.nodes_le _).trans hb.nodes_le
  keys_le := (Nat.add_le_add_left h.keys_le _).trans hb.keys_le
  clean := h.clean hb.clean

end Load

def Counters.Bounded (counters : Counters) : Prop :=
  counters.nodes ≤ maxNodes ∧ counters.keys ≤ maxKeys

/-- A part of the walk passes exactly when its load fits, and counts it. -/
def Carries (depth : Nat) (part : Counters → Walked) (load : Load) : Prop :=
  ∀ counters after, Counters.Bounded counters →
    (part counters = .ok after ↔ load.Fits depth counters ∧ after = load.addTo counters)

variable {depth : Nat} {part rest : Counters → Walked} {a b : Load}

theorem carries_ok (hdepth : depth ≤ maxDepth) : Carries depth .ok Load.nothing := by
  intro counters after hbounded
  constructor
  · intro h
    obtain rfl := Except.ok.inj h
    exact ⟨⟨hdepth, hbounded.1, hbounded.2, rfl⟩, rfl⟩
  · rintro ⟨-, rfl⟩
    rfl

theorem carries_countNode (hdepth : depth ≤ maxDepth) : Carries depth
    (fun counters => if maxNodes < counters.nodes + 1 then .error .nodeBudgetExceeded
      else .ok { counters with nodes := counters.nodes + 1 }) Load.node := by
  intro counters after hbounded
  dsimp only
  split
  · rename_i hfull
    constructor
    · intro h
      contradiction
    · rintro ⟨hfits, -⟩
      exact absurd hfits.nodes_le (Nat.not_le_of_lt hfull)
  · rename_i hroom
    constructor
    · intro h
      obtain rfl := Except.ok.inj h
      exact ⟨⟨hdepth, Nat.le_of_not_lt hroom, hbounded.2, rfl⟩, rfl⟩
    · rintro ⟨-, rfl⟩
      rfl

theorem carries_countKey (hdepth : depth ≤ maxDepth) : Carries depth countKey ⟨0, 0, 1, true⟩ := by
  intro counters after hbounded
  rw [countKey]
  split
  · rename_i hfull
    constructor
    · intro h
      contradiction
    · rintro ⟨hfits, -⟩
      exact absurd hfits.keys_le (Nat.not_le_of_lt hfull)
  · rename_i hroom
    constructor
    · intro h
      obtain rfl := Except.ok.inj h
      exact ⟨⟨hdepth, hbounded.1, Nat.le_of_not_lt hroom, rfl⟩, rfl⟩
    · rintro ⟨-, rfl⟩
      rfl

theorem carries_refused {failure : PrivateStructureFailure} (hclean : a.clean = false) :
    Carries depth (fun _ => .error failure) a := by
  intro counters after _
  constructor
  · intro h
    contradiction
  · rintro ⟨hfits, -⟩
    rw [hfits.clean] at hclean
    contradiction

theorem Carries.bind (hpart : Carries depth part a) (hrest : Carries depth rest b) :
    Carries depth (fun counters => part counters >>= rest) (a.both b) := by
  intro counters after hbounded
  rw [bind_eq_ok]
  constructor
  · rintro ⟨middle, hmiddle, hafter⟩
    obtain ⟨hfits, rfl⟩ := (hpart counters middle hbounded).mp hmiddle
    have hbounded' : Counters.Bounded (a.addTo counters) := ⟨hfits.nodes_le, hfits.keys_le⟩
    obtain ⟨hfits', rfl⟩ := (hrest _ after hbounded').mp hafter
    refine ⟨⟨?_, ?_, ?_, ?_⟩, ?_⟩
    · have hleft := hfits.depth_le
      have hright := hfits'.depth_le
      change depth + max a.depth b.depth ≤ maxDepth
      omega
    · rw [Load.both, ← Nat.add_assoc]
      exact hfits'.nodes_le
    · rw [Load.both, ← Nat.add_assoc]
      exact hfits'.keys_le
    · exact Bool.and_eq_true_iff.mpr ⟨hfits.clean, hfits'.clean⟩
    · rw [Load.addTo, Load.addTo, Load.addTo, Load.both, Nat.add_assoc, Nat.add_assoc]
  · rintro ⟨hfits, rfl⟩
    have hleft : a.Fits depth counters := (Load.within_both_left a b).fits hfits
    have hbounded' : Counters.Bounded (a.addTo counters) := ⟨hleft.nodes_le, hleft.keys_le⟩
    have hright : b.Fits depth (a.addTo counters) := by
      refine ⟨?_, ?_, ?_, ?_⟩
      · exact ((Load.within_both_right a b).fits hfits).depth_le
      · have hnodes := hfits.nodes_le
        rw [Load.both, ← Nat.add_assoc] at hnodes
        exact hnodes
      · have hkeys := hfits.keys_le
        rw [Load.both, ← Nat.add_assoc] at hkeys
        exact hkeys
      · exact (Bool.and_eq_true_iff.mp hfits.clean).2
    refine ⟨a.addTo counters, (hpart counters _ hbounded).mpr ⟨hleft, rfl⟩, ?_⟩
    refine (hrest _ _ hbounded').mpr ⟨hright, ?_⟩
    rw [Load.addTo, Load.addTo, Load.addTo, Load.both, Nat.add_assoc, Nat.add_assoc]

theorem Carries.below (h : Carries (depth + 1) part a) : Carries depth part a.below := by
  intro counters after hbounded
  rw [h counters after hbounded]
  have hdepth : depth + 1 + a.depth = depth + (a.depth + 1) := by omega
  constructor
  · rintro ⟨hfits, rfl⟩
    exact ⟨⟨hdepth ▸ hfits.depth_le, hfits.nodes_le, hfits.keys_le, hfits.clean⟩, rfl⟩
  · rintro ⟨hfits, rfl⟩
    exact ⟨⟨hdepth.symm ▸ hfits.depth_le, hfits.nodes_le, hfits.keys_le, hfits.clean⟩, rfl⟩

end Loads

section Values

variable (rt : Runtime) (nf : Normalization)

/-- A key that may have its value: not sentinel-shaped, and no sensitive one with more than nothing,
or than a number where these are allowed. -/
def admissible (key : JsString) (v : PlainValue) : Bool :=
  !isSentinelKey nf key &&
    match privateKeySensitivity rt nf key with
    | none => true
    | some .always => v.isEmptyValue
    | some .nonNumeric => v.isEmptyValue || v.isNumber

def isSkipped (key : JsString) (v : PlainValue) : Bool :=
  (privateKeySensitivity rt nf key).isSome && v.isEmptyValue

mutual

def loadOf : PlainValue → Load
  | .arr items => Load.node.both (loadItems items)
  | .obj fields => Load.node.both (Load.both ⟨0, 0, fields.length, true⟩ (loadFields fields))
  | _ => Load.node

def loadItems : List PlainValue → Load
  | [] => Load.nothing
  | v :: rest => (loadOf v).below.both (loadItems rest)

def loadFields : List (JsString × PlainValue) → Load
  | [] => Load.nothing
  | (key, v) :: rest =>
      Load.both ⟨0, 0, 1, true⟩ (Load.both ⟨0, 0, 0, admissible rt nf key v⟩
        ((if isSkipped rt nf key v then Load.nothing else (loadOf v).below).both (loadFields rest)))

end

variable {rt nf} {depth : Nat}

theorem carries_describe (hdepth : depth ≤ maxDepth) (fields : List (JsString × PlainValue)) :
    Carries depth (describe fields) ⟨0, 0, fields.length, true⟩ := by
  induction fields with
  | nil => exact carries_ok hdepth
  | cons field rest ih =>
      have hboth := (carries_countKey hdepth).bind ih
      have hload : Load.both ⟨0, 0, 1, true⟩ ⟨0, 0, rest.length, true⟩ =
          ⟨0, 0, (field :: rest).length, true⟩ := by
        rw [Load.both, List.length_cons, Nat.add_comm rest.length]
        rfl
      rw [hload] at hboth
      exact hboth

variable {load : Load} {v : PlainValue}

theorem carries_enter {rest : Counters → Walked}
    (hrest : depth ≤ maxDepth → Carries depth rest load) : Carries depth (fun counters =>
      if maxDepth < depth then .error .depthExceeded
      else if maxNodes < counters.nodes + 1 then .error .nodeBudgetExceeded
      else rest { counters with nodes := counters.nodes + 1 }) (Load.node.both load) := by
  rcases Nat.lt_or_ge maxDepth depth with hdeep | hdepth
  · intro counters after _
    dsimp only
    rw [if_pos hdeep]
    constructor
    · intro h
      contradiction
    · rintro ⟨hfits, -⟩
      have hle := hfits.depth_le
      omega
  · have hboth := (carries_countNode hdepth).bind (hrest hdepth)
    intro counters after hbounded
    rw [← hboth counters after hbounded]
    dsimp only
    rw [if_neg (Nat.not_lt_of_le hdepth)]
    split
    · rfl
    · rfl

theorem both_nothing (a : Load) : a.both Load.nothing = a := by
  rw [Load.both, Load.nothing]
  simp only [Nat.max_zero, Nat.add_zero, Bool.and_true]

theorem carries_leaf (hwalk : ∀ counters, walk rt nf depth v counters =
    if maxDepth < depth then .error .depthExceeded
    else if maxNodes < counters.nodes + 1 then .error .nodeBudgetExceeded
    else .ok { counters with nodes := counters.nodes + 1 })
    (hload : loadOf rt nf v = Load.node) : Carries depth (walk rt nf depth v) (loadOf rt nf v) := by
  have henter : Carries depth _ (Load.node.both Load.nothing) := carries_enter carries_ok
  rw [both_nothing] at henter
  rw [hload]
  intro counters after hbounded
  rw [hwalk counters]
  exact henter counters after hbounded

theorem nothing_both (a : Load) : Load.nothing.both a = a := by
  rw [Load.both, Load.nothing]
  simp only [Nat.zero_max, Nat.zero_add, Bool.true_and]

theorem carries_fieldValue {key : JsString} {fields : List (JsString × PlainValue)}
    (hv : Carries (depth + 1) (walk rt nf (depth + 1) v) (loadOf rt nf v))
    (hrest : Carries depth (walkFields rt nf depth fields) load) : Carries depth (fun counters =>
      if isSentinelKey nf key then .error .sensitiveKey
      else
        match privateKeySensitivity rt nf key with
        | some sensitivity =>
            if v.isEmptyValue then walkFields rt nf depth fields counters
            else if sensitivity = .always || !v.isNumber then .error .sensitiveKey
            else walk rt nf (depth + 1) v counters >>= walkFields rt nf depth fields
        | none => walk rt nf (depth + 1) v counters >>= walkFields rt nf depth fields)
      (Load.both ⟨0, 0, 0, admissible rt nf key v⟩
        ((if isSkipped rt nf key v then Load.nothing else (loadOf rt nf v).below).both load)) := by
  have hwalked : Carries depth (fun counters => walk rt nf (depth + 1) v counters >>=
      walkFields rt nf depth fields) ((loadOf rt nf v).below.both load) := hv.below.bind hrest
  have hpass : ∀ a : Load, Load.both ⟨0, 0, 0, true⟩ a = a := nothing_both
  have hrefused : ∀ {a : Load}, Carries depth (fun _ => .error .sensitiveKey)
      (Load.both ⟨0, 0, 0, false⟩ a) := carries_refused rfl
  rcases hsentinel : isSentinelKey nf key with _ | _
  · rcases hsensitivity : privateKeySensitivity rt nf key with _ | sensitivity
    · have hadmissible : admissible rt nf key v = true := by
        rw [admissible, hsentinel, hsensitivity]
        rfl
      have hskipped : isSkipped rt nf key v = false := by
        rw [isSkipped, hsensitivity]
        rfl
      rw [hadmissible, hskipped, hpass]
      exact hwalked
    · have hskipped : isSkipped rt nf key v = v.isEmptyValue := by
        rw [isSkipped, hsensitivity]
        rfl
      rw [hskipped]
      rcases hempty : v.isEmptyValue with _ | _
      · rcases hrefuses : sensitivity = .always || !v.isNumber with _ | _
        · have hnumeric : sensitivity = .nonNumeric ∧ v.isNumber = true := by
            cases sensitivity with
            | always => contradiction
            | nonNumeric => exact ⟨rfl, by simpa using hrefuses⟩
          have hadmissible : admissible rt nf key v = true := by
            rw [admissible, hsentinel, hsensitivity, hnumeric.1, hnumeric.2, hempty]
            rfl
          rw [hadmissible, hpass]
          simp only [Bool.false_eq_true, if_false, hrefuses]
          exact hwalked
        · have hadmissible : admissible rt nf key v = false := by
            rw [admissible, hsentinel, hsensitivity]
            cases sensitivity with
            | always => exact hempty
            | nonNumeric =>
                have hnumber : v.isNumber = false := by simpa using hrefuses
                rw [hempty, hnumber]
                rfl
          rw [hadmissible]
          simp only [Bool.false_eq_true, if_false, hrefuses, if_true]
          exact hrefused
      · have hadmissible : admissible rt nf key v = true := by
          rw [admissible, hsentinel, hsensitivity, hempty]
          cases sensitivity <;> rfl
        rw [hadmissible, hpass, if_pos rfl, nothing_both]
        exact hrest
  · have hadmissible : admissible rt nf key v = false := by
      rw [admissible, hsentinel]
      rfl
    rw [hadmissible]
    exact hrefused

mutual

theorem carries_walk : ∀ (v : PlainValue) (depth : Nat),
    Carries depth (walk rt nf depth v) (loadOf rt nf v)
  | .null, _ => carries_leaf (fun _ => rfl) rfl
  | .bool _, _ => carries_leaf (fun _ => rfl) rfl
  | .num _, _ => carries_leaf (fun _ => rfl) rfl
  | .str _, _ => carries_leaf (fun _ => rfl) rfl
  | .arr items, depth => by
      have henter := carries_enter (carries_walkItems items depth)
      exact henter
  | .obj fields, depth => by
      have henter := carries_enter fun hdepth =>
        (carries_describe hdepth fields).bind (carries_walkFields fields depth hdepth)
      exact henter

theorem carries_walkItems : ∀ (items : List PlainValue) (depth : Nat), depth ≤ maxDepth →
    Carries depth (walkItems rt nf depth items) (loadItems rt nf items)
  | [], _, hdepth => carries_ok hdepth
  | v :: rest, depth, hdepth =>
      (carries_walk v (depth + 1)).below.bind (carries_walkItems rest depth hdepth)

theorem carries_walkFields : ∀ (fields : List (JsString × PlainValue)) (depth : Nat),
    depth ≤ maxDepth → Carries depth (walkFields rt nf depth fields) (loadFields rt nf fields)
  | [], _, hdepth => carries_ok hdepth
  | (_, v) :: rest, depth, hdepth =>
      (carries_countKey hdepth).bind (carries_fieldValue (carries_walk v (depth + 1))
        (carries_walkFields rest depth hdepth))

end

theorem findStructuralPrivateFailure_eq_none :
    findStructuralPrivateFailure rt nf v = none ↔ (loadOf rt nf v).Fits 0 ⟨0, 0⟩ := by
  have hbounded : Counters.Bounded ⟨0, 0⟩ := ⟨Nat.zero_le _, Nat.zero_le _⟩
  have hwalk : Carries 0 (walk rt nf 0 v) (loadOf rt nf v) := carries_walk v 0
  have hwalk := hwalk ⟨0, 0⟩
  rw [findStructuralPrivateFailure]
  rcases hresult : walk rt nf 0 v ⟨0, 0⟩ with failure | after
  · constructor
    · intro h
      contradiction
    · intro hfits
      have hok := (hwalk _ hbounded).mpr ⟨hfits, rfl⟩
      rw [hresult] at hok
      contradiction
  · constructor
    · intro _
      exact ((hwalk after hbounded).mp hresult).1
    · intro _
      rfl

end Values

section Parts

/-- A value and the values inside it, at any depth. -/
inductive Part : PlainValue → PlainValue → Prop
  | refl (v : PlainValue) : Part v v
  | item {items : List PlainValue} {w u : PlainValue} (hw : w ∈ items) (hu : Part w u) :
      Part (.arr items) u
  | field {fields : List (JsString × PlainValue)} {key : JsString} {w u : PlainValue}
      (hw : (key, w) ∈ fields) (hu : Part w u) : Part (.obj fields) u

mutual

def keyCount : PlainValue → Nat
  | .arr items => keyCountItems items
  | .obj fields => fields.length + keyCountFields fields
  | _ => 0

def keyCountItems : List PlainValue → Nat
  | [] => 0
  | v :: rest => keyCount v + keyCountItems rest

def keyCountFields : List (JsString × PlainValue) → Nat
  | [] => 0
  | (_, v) :: rest => keyCount v + keyCountFields rest

end

variable {rt : Runtime} {nf : Normalization} {key : JsString} {u v w : PlainValue}
  {fields : List (JsString × PlainValue)}

theorem empty_of_isSkipped
    (h : isSkipped rt nf key v = true) : loadOf rt nf v = Load.node ∧ keyCount v = 0 := by
  have hempty : v.isEmptyValue = true := (Bool.and_eq_true_iff.mp h).2
  cases v with
  | null => exact ⟨rfl, rfl⟩
  | str s => exact ⟨rfl, rfl⟩
  | _ => contradiction

mutual

theorem keys_loadOf : ∀ v : PlainValue, (loadOf rt nf v).keys = 2 * keyCount v
  | .null | .bool _ | .num _ | .str _ => rfl
  | .arr items => by
      have hitems := keys_loadItems items
      change 0 + (loadItems rt nf items).keys = 2 * keyCountItems items
      omega
  | .obj fields => by
      have hfields := keys_loadFields fields
      change 0 + (fields.length + (loadFields rt nf fields).keys) =
        2 * (fields.length + keyCountFields fields)
      omega

theorem keys_loadItems : ∀ items : List PlainValue,
    (loadItems rt nf items).keys = 2 * keyCountItems items
  | [] => rfl
  | v :: rest => by
      have hv := keys_loadOf v
      have hrest := keys_loadItems rest
      change (loadOf rt nf v).keys + (loadItems rt nf rest).keys =
        2 * (keyCount v + keyCountItems rest)
      omega

theorem keys_loadFields : ∀ fields : List (JsString × PlainValue),
    (loadFields rt nf fields).keys = fields.length + 2 * keyCountFields fields
  | [] => rfl
  | (key, v) :: rest => by
      have hv := keys_loadOf v
      have hrest := keys_loadFields rest
      have hvalue : (if isSkipped rt nf key v then Load.nothing else (loadOf rt nf v).below).keys =
          2 * keyCount v := by
        rcases hskipped : isSkipped rt nf key v with _ | _
        · exact hv
        · rw [(empty_of_isSkipped hskipped).2]
          rfl
      change 1 + (0 + ((if isSkipped rt nf key v then Load.nothing
        else (loadOf rt nf v).below).keys + (loadFields rt nf rest).keys)) =
          (rest.length + 1) + 2 * (keyCount v + keyCountFields rest)
      omega

end

theorem within_items {items : List PlainValue} (hw : w ∈ items) :
    (loadOf rt nf w).Within (loadItems rt nf items) := by
  induction items with
  | nil => contradiction
  | cons v rest ih =>
      rw [loadItems]
      rcases List.mem_cons.mp hw with rfl | hw
      · exact (Load.within_below _).trans (Load.within_both_left _ _)
      · exact (ih hw).trans (Load.within_both_right _ _)

theorem within_fields (hw : (key, w) ∈ fields) :
    (loadOf rt nf w).Within (Load.node.both (loadFields rt nf fields)) := by
  induction fields with
  | nil => contradiction
  | cons field rest ih =>
      rcases List.mem_cons.mp hw with rfl | hw
      · rcases hskipped : isSkipped rt nf key w with _ | _
        · refine Load.Within.trans ?_ (Load.within_both_right _ _)
          rw [loadFields, hskipped]
          exact ((Load.within_below _).trans (Load.within_both_left _ _)).trans
            ((Load.within_both_right _ _).trans (Load.within_both_right _ _))
        · rw [(empty_of_isSkipped hskipped).1]
          exact Load.within_both_left _ _
      · have hrest : (loadFields rt nf rest).Within (loadFields rt nf (field :: rest)) := by
          obtain ⟨key', v⟩ := field
          rw [loadFields]
          exact (Load.within_both_right _ _).trans
            ((Load.within_both_right _ _).trans (Load.within_both_right _ _))
        exact (ih hw).trans (hrest.both _)

theorem within_part (h : Part v u) : (loadOf rt nf u).Within (loadOf rt nf v) := by
  induction h with
  | refl v => exact Load.Within.refl _
  | item hw _ ih => exact (ih.trans (within_items hw)).trans (Load.within_both_right _ _)
  | @field fields key w u hw _ ih =>
      refine (ih.trans (within_fields hw)).trans ?_
      have hfields := Load.within_both_right ⟨0, 0, fields.length, true⟩ (loadFields rt nf fields)
      rw [loadOf]
      exact hfields.both _

theorem structural_closed (h : Part v u) (hu : findStructuralPrivateFailure rt nf u ≠ none) :
    findStructuralPrivateFailure rt nf v ≠ none := by
  intro hv
  exact hu (findStructuralPrivateFailure_eq_none.mpr
    ((within_part h).fits (findStructuralPrivateFailure_eq_none.mp hv)))

/-- Every key of the value, at any depth, is admissible for what it has. -/
def Clean (rt : Runtime) (nf : Normalization) (v : PlainValue) : Prop :=
  ∀ fields, Part v (.obj fields) → ∀ key w, (key, w) ∈ fields → admissible rt nf key w = true

theorem admissible_of_clean
    (h : (loadFields rt nf fields).clean = true) {key : JsString} {w : PlainValue}
    (hw : (key, w) ∈ fields) : admissible rt nf key w = true := by
  induction fields with
  | nil => contradiction
  | cons field rest ih =>
      obtain ⟨key', v⟩ := field
      rw [loadFields] at h
      obtain ⟨hadmissible, hothers⟩ := Load.clean_both.mp (Load.clean_both.mp h).2
      rcases List.mem_cons.mp hw with heq | hw
      · obtain ⟨rfl, rfl⟩ := Prod.mk.inj heq
        exact hadmissible
      · exact ih (Load.clean_both.mp hothers).2 hw

mutual

theorem clean_loadOf : ∀ v : PlainValue, Clean rt nf v → (loadOf rt nf v).clean = true
  | .null, _ | .bool _, _ | .num _, _ | .str _, _ => rfl
  | .arr items, h =>
      clean_loadItems items fun _ hw fields hpart => h fields (.item hw hpart)
  | .obj fields, h =>
      clean_loadFields fields (h fields (.refl _))
        fun _ _ hw inner hpart => h inner (.field hw hpart)

theorem clean_loadItems : ∀ items : List PlainValue, (∀ w ∈ items, Clean rt nf w) →
    (loadItems rt nf items).clean = true
  | [], _ => rfl
  | v :: rest, h => Load.clean_both.mpr
      ⟨clean_loadOf v (h v List.mem_cons_self),
        clean_loadItems rest fun w hw => h w (List.mem_cons_of_mem _ hw)⟩

theorem clean_loadFields : ∀ fields : List (JsString × PlainValue),
    (∀ key w, (key, w) ∈ fields → admissible rt nf key w = true) →
    (∀ key w, (key, w) ∈ fields → Clean rt nf w) → (loadFields rt nf fields).clean = true
  | [], _, _ => rfl
  | (key, v) :: rest, hadmissible, h => by
      have hv : (if isSkipped rt nf key v then Load.nothing
          else (loadOf rt nf v).below).clean = true := by
        split
        · rfl
        · exact clean_loadOf v (h key v List.mem_cons_self)
      have hrest := clean_loadFields rest
        (fun key w hw => hadmissible key w (List.mem_cons_of_mem _ hw))
        (fun key w hw => h key w (List.mem_cons_of_mem _ hw))
      rw [loadFields]
      exact Load.clean_both.mpr ⟨rfl, Load.clean_both.mpr
        ⟨hadmissible key v List.mem_cons_self, Load.clean_both.mpr ⟨hv, hrest⟩⟩⟩

end

theorem clean_iff : (loadOf rt nf v).clean = true ↔ Clean rt nf v := by
  constructor
  · intro h fields hpart key w hw
    have hobject := (within_part hpart).clean h
    rw [loadOf] at hobject
    exact admissible_of_clean (Load.clean_both.mp (Load.clean_both.mp hobject).2).2 hw
  · exact clean_loadOf v

theorem findStructuralPrivateFailure_eq_none_iff : findStructuralPrivateFailure rt nf v = none ↔
      (loadOf rt nf v).depth ≤ maxDepth ∧ (loadOf rt nf v).nodes ≤ maxNodes ∧
        2 * keyCount v ≤ maxKeys ∧ Clean rt nf v := by
  rw [findStructuralPrivateFailure_eq_none]
  constructor
  · rintro ⟨hdepth, hnodes, hkeys, hclean⟩
    rw [Nat.zero_add] at hdepth
    change 0 + (loadOf rt nf v).nodes ≤ maxNodes at hnodes
    change 0 + (loadOf rt nf v).keys ≤ maxKeys at hkeys
    rw [Nat.zero_add] at hnodes hkeys
    rw [keys_loadOf] at hkeys
    exact ⟨hdepth, hnodes, hkeys, clean_iff.mp hclean⟩
  · rintro ⟨hdepth, hnodes, hkeys, hclean⟩
    refine ⟨?_, ?_, ?_, clean_iff.mpr hclean⟩
    · rw [Nat.zero_add]
      exact hdepth
    · change 0 + (loadOf rt nf v).nodes ≤ maxNodes
      rw [Nat.zero_add]
      exact hnodes
    · change 0 + (loadOf rt nf v).keys ≤ maxKeys
      rw [Nat.zero_add, keys_loadOf]
      exact hkeys

end Parts

end NightWatch.Policy.StructuralWalk
