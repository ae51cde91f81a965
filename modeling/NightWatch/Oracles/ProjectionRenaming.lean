import NightWatch.Lib.TextOrder
import NightWatch.Oracles.Projections

/-!
What a projection reveals of the raw scalars: nothing but which of them are equal. The run
on a renamed value keeps exactly the renamed tables of the run on the value.
-/

namespace NightWatch.Oracles.ProjectionRenaming

open Lib.JsText Lib.JsData Lib.TextOrder Lib.Mirror Oracles.Projections

instance finiteChar : Finite Char := by
  have hbound (c : Char) : c.toNat < 0x110000 := by
    rcases toNat_valid c with h | h
    · omega
    · exact h.2
  apply Finite.of_injective fun c : Char => (⟨c.toNat, hbound c⟩ : Fin 0x110000)
  intro c d h
  rw [← Char.ofNat_toNat c, ← Char.ofNat_toNat d, Fin.mk.inj h]

theorem length_le_utf16Length (s : JsString) : s.length ≤ utf16Length s := by
  induction s with
  | nil => exact Nat.zero_le _
  | cons c s ih =>
      have hc : 1 ≤ if c.toNat < 0x10000 then 1 else 2 := by split <;> omega
      have hlength : utf16Length (c :: s) = (if c.toNat < 0x10000 then 1 else 2) + utf16Length s :=
        rfl
      rw [List.length_cons, hlength]
      omega

theorem finite_utf16Length_le (bound : Nat) : {s : JsString | utf16Length s ≤ bound}.Finite := by
  apply (List.finite_length_le Char bound).subset
  intro s hs
  exact (length_le_utf16Length s).trans hs

theorem utf16Length_le_iff {f : JsString → JsString} (hf : Function.Injective f) {bound : Nat}
    (hkeeps : ∀ s, utf16Length s ≤ bound → utf16Length (f s) ≤ bound) (s : JsString) :
    utf16Length (f s) ≤ bound ↔ utf16Length s ≤ bound := by
  constructor
  · intro hshort
    have hbij := ((finite_utf16Length_le bound).injOn_iff_bijOn_of_mapsTo hkeeps).mp hf.injOn
    obtain ⟨t, ht, heq⟩ := hbij.surjOn hshort
    exact hf heq ▸ ht
  · exact hkeeps s

section Renaming

/-- A renaming of the raw scalars: injective, empty texts stay empty, and texts within a
limit stay within it. -/
structure Renaming (limits : ProjectionLimits) where
  text : JsString → JsString
  number : ℚ → ℚ
  text_injective : Function.Injective text
  number_injective : Function.Injective number
  text_empty : text [] = []
  text_input : ∀ s, utf16Length s ≤ limits.maxRawInputBytes →
    utf16Length (text s) ≤ limits.maxRawInputBytes
  text_identity : ∀ s, utf16Length s ≤ maxIdentityRawLength →
    utf16Length (text s) ≤ maxIdentityRawLength

variable {limits : ProjectionLimits} (ρ : Renaming limits)

def Renaming.renameNumber : JsNumber → JsNumber
  | .finite q => .finite (ρ.number q)
  | n => n

mutual

def Renaming.rename : JsValue → JsValue
  | .undefined => .undefined
  | .null => .null
  | .bool b => .bool b
  | .num n => .num (ρ.renameNumber n)
  | .str s => .str (ρ.text s)
  | .arr items => .arr (Renaming.renameItems items)
  | .obj fields => .obj (Renaming.renameFields fields)

def Renaming.renameItems : List JsValue → List JsValue
  | [] => []
  | v :: rest => Renaming.rename v :: Renaming.renameItems rest

def Renaming.renameFields : List (JsString × JsValue) → List (JsString × JsValue)
  | [] => []
  | (name, v) :: rest => (name, Renaming.rename v) :: Renaming.renameFields rest

end

@[simp] theorem length_renameItems (items : List JsValue) :
    (ρ.renameItems items).length = items.length := by
  induction items with
  | nil => rfl
  | cons v rest ih => simp [Renaming.renameItems, ih]

@[simp] theorem length_renameFields (fields : List (JsString × JsValue)) :
    (ρ.renameFields fields).length = fields.length := by
  induction fields with
  | nil => rfl
  | cons field rest ih => simp [Renaming.renameFields, ih]

def Renaming.image (p : Projector) : Projector :=
  { p with ctx := { p.ctx with
      identityMap := p.ctx.identityMap.map (Prod.map ρ.text id)
      numericMap := p.ctx.numericMap.map (Prod.map ρ.number id) } }

variable (p : Projector)

@[simp] theorem image_nodeCount : (ρ.image p).nodeCount = p.nodeCount := rfl

@[simp] theorem image_limits : (ρ.image p).ctx.limits = p.ctx.limits := rfl

@[simp] theorem image_identityMap :
    (ρ.image p).ctx.identityMap = p.ctx.identityMap.map (Prod.map ρ.text id) := rfl

@[simp] theorem image_numericMap :
    (ρ.image p).ctx.numericMap = p.ctx.numericMap.map (Prod.map ρ.number id) := rfl

theorem lookup_map {α β : Type} [BEq α] [LawfulBEq α] {f : α → α} (hf : Function.Injective f)
    (key : α) (entries : List (α × β)) :
    (entries.map (Prod.map f id)).lookup (f key) = entries.lookup key := by
  induction entries with
  | nil => rfl
  | cons entry rest ih =>
      rw [List.map_cons, List.lookup_cons, List.lookup_cons, ih, Prod.map_fst, Prod.map_snd]
      by_cases hkey : key = entry.1
      · rw [hkey, beq_self_eq_true, beq_self_eq_true]
        rfl
      · rw [beq_false_of_ne hkey, beq_false_of_ne (hf.ne hkey)]

end Renaming

section Runs

variable {limits : ProjectionLimits} (ρ : Renaming limits)

theorem tokenForString_mirrors (s : JsString) :
    Mirrors ρ.image (tokenForString s) (tokenForString (ρ.text s)) := by
  intro p
  have hlength := utf16Length_le_iff ρ.text_injective ρ.text_identity s
  have hlookup := lookup_map ρ.text_injective s p.ctx.identityMap
  rw [tokenForString, tokenForString]
  by_cases hlong : maxIdentityRawLength < utf16Length s
  · rw [if_pos hlong, if_pos (by omega)]
    rfl
  · rw [if_neg hlong, if_neg (by omega)]
    rw [image_identityMap, hlookup, image_limits]
    cases p.ctx.identityMap.lookup s with
    | some existing => rfl
    | none =>
        simp only [List.length_map]
        by_cases hfull : p.ctx.limits.maxIdentityTokens ≤ p.ctx.identityMap.length
        · rw [if_pos hfull, if_pos hfull]
          rfl
        · rw [if_neg hfull, if_neg hfull]
          simp [Except.map, Renaming.image]

theorem refForNumber_mirrors (q : ℚ) :
    Mirrors ρ.image (refForNumber q) (refForNumber (ρ.number q)) := by
  intro p
  have hlookup := lookup_map ρ.number_injective q p.ctx.numericMap
  rw [refForNumber, refForNumber]
  rw [image_numericMap, hlookup, image_limits]
  cases p.ctx.numericMap.lookup q with
  | some existing => rfl
  | none =>
      simp only [List.length_map]
      by_cases hfull : p.ctx.limits.maxNumericRefs ≤ p.ctx.numericMap.length
      · rw [if_pos hfull, if_pos hfull]
        rfl
      · rw [if_neg hfull, if_neg hfull]
        simp [Except.map, Renaming.image]

theorem countNode_mirrors : Mirrors ρ.image (countNode limits) (countNode limits) := by
  intro p
  rw [countNode, countNode, image_nodeCount]
  by_cases hfull : limits.maxProjectionNodes < p.nodeCount + 1
  · rw [if_pos hfull, if_pos hfull]
    rfl
  · rw [if_neg hfull, if_neg hfull]
    rfl

theorem enter_mirrors (depth : Nat) : Mirrors ρ.image (enter limits depth) (enter limits depth) :=
  Mirrors.ite (Mirrors.throw _) (countNode_mirrors ρ)

theorem projectNumber_mirrors (n : JsNumber) :
    Mirrors ρ.image (projectNumber n) (projectNumber (ρ.renameNumber n)) := by
  cases n with
  | finite q =>
      apply Mirrors.bind (refForNumber_mirrors ρ q)
      intro ref
      exact Mirrors.pure _
  | nan => exact Mirrors.throw _
  | negInfinity => exact Mirrors.throw _
  | posInfinity => exact Mirrors.throw _

theorem projectString_mirrors (s : JsString) :
    Mirrors ρ.image (projectString limits s) (projectString limits (ρ.text s)) := by
  have hlength := utf16Length_le_iff ρ.text_injective ρ.text_input s
  have hempty : ρ.text s = [] ↔ s = [] := by
    rw [← ρ.text_injective.eq_iff (a := s), ρ.text_empty]
  simp only [projectString, hempty]
  by_cases hlong : limits.maxRawInputBytes < utf16Length s
  · have hlong' : limits.maxRawInputBytes < utf16Length (ρ.text s) := by omega
    rw [if_pos hlong, if_pos hlong']
    exact Mirrors.throw _
  · have hshort : ¬limits.maxRawInputBytes < utf16Length (ρ.text s) := by omega
    rw [if_neg hlong, if_neg hshort]
    apply Mirrors.bind (tokenForString_mirrors ρ s)
    intro token
    exact Mirrors.pure _

variable {a b : Projecting ProjectionNode}

theorem projectField_mirrors (name : JsString)
    (h : Mirrors ρ.image a b) : Mirrors ρ.image (projectField name a) (projectField name b) := by
  apply Mirrors.ite (Mirrors.throw _)
  apply Mirrors.bind h
  intro node
  exact Mirrors.pure _

theorem projectUndefined_mirrors (depth : Nat) :
    Mirrors ρ.image (projectUndefined limits depth) (projectUndefined limits depth) := by
  apply Mirrors.bind (enter_mirrors ρ depth)
  intro _
  exact Mirrors.throw _

/-- Children under the same names whose projections mirror each other. -/
def ChildrenMirror (children images : List (JsString × Projecting ProjectionNode)) : Prop :=
  List.Forall₂ (fun child image => child.1 = image.1 ∧ Mirrors ρ.image child.2 image.2)
    children images

variable {children images : List (JsString × Projecting ProjectionNode)}

theorem ChildrenMirror.names
    (h : ChildrenMirror ρ children images) : images.map Prod.fst = children.map Prod.fst := by
  induction h with
  | nil => rfl
  | cons hhead htail ih => rw [List.map_cons, List.map_cons, ih, hhead.1]

theorem ChildrenMirror.lookup (h : ChildrenMirror ρ children images)
    (hab : Mirrors ρ.image a b) (name : JsString) :
    Mirrors ρ.image ((children.lookup name).getD a) ((images.lookup name).getD b) := by
  induction h with
  | nil => exact hab
  | @cons child image rest images hhead htail ih =>
      rw [List.lookup_cons, List.lookup_cons, ← hhead.1]
      by_cases hname : (name == child.1) = true
      · rw [hname]
        exact hhead.2
      · rw [Bool.not_eq_true] at hname
        rw [hname]
        exact ih

theorem inKeyOrder_mirrors (depth : Nat)
    {children images : List (JsString × Projecting ProjectionNode)}
    (h : ChildrenMirror ρ children images) :
    List.Forall₂ (Mirrors ρ.image) (inKeyOrder limits depth children)
      (inKeyOrder limits depth images) := by
  rw [inKeyOrder, inKeyOrder, h.names, List.forall₂_map_left_iff, List.forall₂_map_right_iff,
    List.forall₂_same]
  intro name _
  exact projectField_mirrors ρ name (h.lookup ρ (projectUndefined_mirrors ρ depth) name)

mutual

theorem project_mirrors : (v : JsValue) → (depth : Nat) →
    Mirrors ρ.image (project limits v depth) (project limits (ρ.rename v) depth)
  | .undefined, depth => projectUndefined_mirrors ρ depth
  | .null, depth => (enter_mirrors ρ depth).bind fun _ => Mirrors.pure _
  | .bool _, depth => (enter_mirrors ρ depth).bind fun _ => Mirrors.pure _
  | .num n, depth => (enter_mirrors ρ depth).bind fun _ => projectNumber_mirrors ρ n
  | .str s, depth => (enter_mirrors ρ depth).bind fun _ => projectString_mirrors ρ s
  | .arr items, depth => by
      rw [Renaming.rename, project, project]
      apply (enter_mirrors ρ depth).bind
      intro _
      apply Mirrors.bind (Mirrors.runAll
        (List.forall₂_take limits.maxArrayItemsInspected (projectItems_mirror items (depth + 1))))
      intro nodes
      rw [length_renameItems]
      exact Mirrors.pure _
  | .obj fields, depth => by
      rw [Renaming.rename, project, project]
      apply (enter_mirrors ρ depth).bind
      intro _
      rw [length_renameFields]
      apply Mirrors.ite
      · exact Mirrors.bind (Mirrors.throw _) fun _ => Mirrors.bind
          (Mirrors.runAll (inKeyOrder_mirrors ρ _ (projectFields_mirror fields (depth + 1))))
          fun _ => Mirrors.pure _
      · exact Mirrors.bind
          (Mirrors.runAll (inKeyOrder_mirrors ρ _ (projectFields_mirror fields (depth + 1))))
          fun _ => Mirrors.pure _

theorem projectItems_mirror : (items : List JsValue) → (depth : Nat) →
    List.Forall₂ (Mirrors ρ.image) (projectItems limits items depth)
      (projectItems limits (ρ.renameItems items) depth)
  | [], _ => .nil
  | v :: rest, depth => .cons (project_mirrors v depth) (projectItems_mirror rest depth)

theorem projectFields_mirror : (fields : List (JsString × JsValue)) → (depth : Nat) →
    ChildrenMirror ρ (projectFields limits fields depth)
      (projectFields limits (ρ.renameFields fields) depth)
  | [], _ => .nil
  | (_, v) :: rest, depth =>
      .cons ⟨rfl, project_mirrors v depth⟩ (projectFields_mirror rest depth)

end

/-- Values projected one after the other in one context, up to the first error. -/
def projectEach (limits : ProjectionLimits) : List JsValue → ProjectionContext →
    Except SemanticProjectionError (List ProjectObservationResult)
  | [], _ => .ok []
  | v :: rest, ctx =>
      match projectValue limits v ctx with
      | .error e => .error e
      | .ok (result, ctx) => (projectEach limits rest ctx).map (result :: ·)

theorem projectEach_image (vs : List JsValue) (ctx : ProjectionContext) :
    projectEach limits (ρ.renameItems vs) (ρ.image ⟨ctx, 0⟩).ctx = projectEach limits vs ctx := by
  induction vs generalizing ctx with
  | nil => rfl
  | cons v rest ih =>
      have hmirror : project limits (ρ.rename v) 0 ⟨(ρ.image ⟨ctx, 0⟩).ctx, 0⟩ =
        (project limits v 0 ⟨ctx, 0⟩).map (Prod.map id ρ.image) := project_mirrors ρ v 0 ⟨ctx, 0⟩
      rw [Renaming.renameItems, projectEach, projectEach, projectValue, projectValue, hmirror]
      cases project limits v 0 ⟨ctx, 0⟩ with
      | error e => rfl
      | ok out => exact congrArg (Except.map (⟨out.1, out.2.nodeCount⟩ :: ·)) (ih out.2.ctx)

end Runs

end NightWatch.Oracles.ProjectionRenaming
