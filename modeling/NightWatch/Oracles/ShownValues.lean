import NightWatch.Lib.Grouping
import NightWatch.Lib.GrowingState
import NightWatch.Oracles.Projections

namespace NightWatch.Oracles.ShownValues

open Lib.JsText Lib.JsData
open Lib.JsData.JsValue (field)
open Lib.Mirror Lib.Grouping Lib.GrowingState Oracles.Projections

section Tables

theorem label_injective (stem : String) : Function.Injective (label stem) := by
  intro m n h
  have hpadded := (List.cons.inj (List.append_cancel_left h)).2
  have hvalue := congrArg decimalValue hpadded
  rw [decimalValue_padStart, decimalValue_padStart, decimalValue_decimal,
    decimalValue_decimal] at hvalue
  exact hvalue

variable {α : Type} [BEq α] [LawfulBEq α]

/-- The labels of a table: no value has two, and they are numbered in a row up to the cap. -/
structure Labels (stem : String) (table : List (α × JsString)) (counter cap : Nat) : Prop where
  labels : table.map Prod.snd = (List.range counter).map fun i => label stem (i + 1)
  nodup : (table.map Prod.fst).Nodup
  bounded : table.length ≤ cap

variable {stem : String} {table table' : List (α × JsString)} {counter cap : Nat} {raw raw' : α}
  {key : JsString}

omit [BEq α] [LawfulBEq α] in
theorem Labels.length_eq (h : Labels stem table counter cap) : table.length = counter := by
  simpa using congrArg List.length h.labels

omit [BEq α] [LawfulBEq α] in
theorem labels_nil (stem : String) (cap : Nat) : Labels stem ([] : List (α × JsString)) 0 cap :=
  ⟨rfl, List.nodup_nil, Nat.zero_le cap⟩

theorem Labels.push (h : Labels stem table counter cap) (hnew : table.lookup raw = none)
    (hroom : ¬cap ≤ table.length) :
    Labels stem (table ++ [(raw, label stem (counter + 1))]) (counter + 1) cap := by
  refine ⟨?_, ?_, ?_⟩
  · rw [List.map_append, h.labels, List.range_succ, List.map_append]
    rfl
  · rw [List.map_append, List.nodup_append]
    refine ⟨h.nodup, List.nodup_singleton raw, ?_⟩
    rintro other hother _ hraw rfl
    obtain rfl := List.mem_singleton.mp hraw
    obtain ⟨entry, hentry, heq⟩ := List.mem_map.mp hother
    have hne := List.lookup_eq_none_iff.mp hnew entry hentry
    rw [heq, bne_self_eq_false] at hne
    contradiction
  · rw [List.length_append, List.length_singleton]
    omega

theorem Labels.inj (h : Labels stem table counter cap) (hraw : table.lookup raw = some key)
    (hraw' : table.lookup raw' = some key) : raw = raw' := by
  have hnodup : (table.map Prod.snd).Nodup := by
    rw [h.labels]
    refine List.nodup_range.map fun i j hij => ?_
    exact Nat.succ_injective (label_injective stem hij)
  have hentries := List.inj_on_of_nodup_map hnodup ((mem_iff_lookup h.nodup).mpr hraw)
    ((mem_iff_lookup h.nodup).mpr hraw') rfl
  exact congrArg Prod.fst hentries

theorem Labels.exists_label (h : Labels stem table counter cap)
    (hraw : table.lookup raw = some key) : ∃ n, n < cap ∧ key = label stem (n + 1) := by
  have hmem : key ∈ table.map Prod.snd :=
    List.mem_map.mpr ⟨_, (mem_iff_lookup h.nodup).mpr hraw, rfl⟩
  rw [h.labels, List.mem_map] at hmem
  obtain ⟨n, hn, rfl⟩ := hmem
  have hlength := h.length_eq
  have hbounded := h.bounded
  exact ⟨n, by have := List.mem_range.mp hn; omega, rfl⟩

omit [LawfulBEq α] in
theorem lookup_of_prefix (h : table <+: table') (hraw : table.lookup raw = some key) :
    table'.lookup raw = some key := by
  obtain ⟨rest, rfl⟩ := h
  rw [List.lookup_append, hraw]
  rfl

end Tables

/-- What holds of the tables of every context. -/
structure Numbered (ctx : ProjectionContext) : Prop where
  identities : Labels "entity" ctx.identityMap ctx.identityCounter ctx.limits.maxIdentityTokens
  numerics : Labels "numeric" ctx.numericMap ctx.numericCounter ctx.limits.maxNumericRefs

theorem numbered_fresh (limits : ProjectionLimits) : Numbered (.fresh limits) :=
  ⟨labels_nil _ _, labels_nil _ _⟩

/-- A later context has the labels of the earlier one. -/
structure Advances (ctx ctx' : ProjectionContext) : Prop where
  limits : ctx'.limits = ctx.limits
  identities : ctx.identityMap <+: ctx'.identityMap
  numerics : ctx.numericMap <+: ctx'.numericMap
  numbered : Numbered ctx → Numbered ctx'

theorem Advances.refl (ctx : ProjectionContext) : Advances ctx ctx :=
  ⟨rfl, List.prefix_rfl, List.prefix_rfl, id⟩

theorem Advances.trans {ctx ctx' ctx'' : ProjectionContext} (h : Advances ctx ctx')
    (h' : Advances ctx' ctx'') : Advances ctx ctx'' where
  limits := h'.limits.trans h.limits
  identities := h.identities.trans h'.identities
  numerics := h.numerics.trans h'.numerics
  numbered hctx := h'.numbered (h.numbered hctx)

def Later (p p' : Projector) : Prop := Advances p.ctx p'.ctx

instance : IsPreorder Projector Later where
  refl p := Advances.refl p.ctx
  trans _ _ _ := Advances.trans

theorem tokenForString_lasting (raw : JsString) : Lasting Later (tokenForString raw) fun p token =>
      p.ctx.identityMap.lookup raw = some token := by
  intro p token p' h
  rw [tokenForString] at h
  by_cases hlong : maxIdentityRawLength < utf16Length raw
  · rw [if_pos hlong] at h
    contradiction
  rw [if_neg hlong] at h
  cases hlookup : p.ctx.identityMap.lookup raw with
  | some existing =>
      rw [hlookup] at h
      obtain ⟨rfl, rfl⟩ := Prod.mk.inj (Except.ok.inj h)
      exact ⟨refl_of Later p, fun t ht => lookup_of_prefix ht.identities hlookup⟩
  | none =>
      rw [hlookup] at h
      by_cases hfull : p.ctx.limits.maxIdentityTokens ≤ p.ctx.identityMap.length
      · simp only [if_pos hfull] at h
        contradiction
      · simp only [if_neg hfull] at h
        obtain ⟨rfl, rfl⟩ := Prod.mk.inj (Except.ok.inj h)
        refine ⟨⟨rfl, List.prefix_append _ _, List.prefix_rfl, fun hctx => ?_⟩, fun t ht => ?_⟩
        · exact ⟨hctx.identities.push hlookup hfull, hctx.numerics⟩
        · refine lookup_of_prefix ht.identities ?_
          rw [List.lookup_append, hlookup, Option.none_or, List.lookup_cons, beq_self_eq_true]

theorem refForNumber_lasting (raw : ℚ) :
    Lasting Later (refForNumber raw) fun p ref => p.ctx.numericMap.lookup raw = some ref := by
  intro p ref p' h
  rw [refForNumber] at h
  cases hlookup : p.ctx.numericMap.lookup raw with
  | some existing =>
      rw [hlookup] at h
      obtain ⟨rfl, rfl⟩ := Prod.mk.inj (Except.ok.inj h)
      exact ⟨refl_of Later p, fun t ht => lookup_of_prefix ht.numerics hlookup⟩
  | none =>
      rw [hlookup] at h
      by_cases hfull : p.ctx.limits.maxNumericRefs ≤ p.ctx.numericMap.length
      · simp only [if_pos hfull] at h
        contradiction
      · simp only [if_neg hfull] at h
        obtain ⟨rfl, rfl⟩ := Prod.mk.inj (Except.ok.inj h)
        refine ⟨⟨rfl, List.prefix_rfl, List.prefix_append _ _, fun hctx => ?_⟩, fun t ht => ?_⟩
        · exact ⟨hctx.identities, hctx.numerics.push hlookup hfull⟩
        · refine lookup_of_prefix ht.numerics ?_
          rw [List.lookup_append, hlookup, Option.none_or, List.lookup_cons, beq_self_eq_true]

/-- A context that was only asked for labels. -/
inductive Used : ProjectionContext → Prop
  | fresh (limits : ProjectionLimits) : Used (.fresh limits)
  | token {raw token : JsString} {p p' : Projector} (h : Used p.ctx)
      (hrun : tokenForString raw p = .ok (token, p')) : Used p'.ctx
  | ref {raw : ℚ} {ref : JsString} {p p' : Projector} (h : Used p.ctx)
      (hrun : refForNumber raw p = .ok (ref, p')) : Used p'.ctx

theorem numbered_of_used {ctx : ProjectionContext} (h : Used ctx) : Numbered ctx := by
  induction h with
  | fresh limits => exact numbered_fresh limits
  | token _ hrun ih => exact (tokenForString_lasting _ _ _ _ hrun).1.numbered ih
  | ref _ hrun ih => exact (refForNumber_lasting _ _ _ _ hrun).1.numbered ih

section Values

variable (limits : ProjectionLimits) (ctx : ProjectionContext)

def byName (fields : List (JsString × JsValue)) : List (JsString × JsValue) :=
  ((fields.map Prod.fst).insertionSort textLe).map fun name => (name, field fields name)

def labeledNumber : JsNumber → Option JsString
  | .finite q => ctx.numericMap.lookup q
  | _ => none

mutual

def shown : JsValue → ProjectionNode
  | .undefined | .null => .null
  | .bool b => .boolean (some b)
  | .num n => .number (labeledNumber ctx n)
  | .str s => .string (some (if s = [] then .empty else .nonempty)) (ctx.identityMap.lookup s)
  | .arr items => arrayOf items.length ((shownItems items).take limits.maxArrayItemsInspected)
  | .obj fields =>
      objectOf (((fields.map Prod.fst).insertionSort textLe).map fun name =>
        (name, ((shownFields fields).lookup name).getD .null))

def shownItems : List JsValue → List ProjectionNode
  | [] => []
  | v :: rest => shown v :: shownItems rest

def shownFields : List (JsString × JsValue) → List (JsString × ProjectionNode)
  | [] => []
  | (name, v) :: rest => (name, shown v) :: shownFields rest

end

/-- JSON data. -/
inductive IsData : JsValue → Prop
  | null : IsData .null
  | bool (b : Bool) : IsData (.bool b)
  | num (q : ℚ) : IsData (.num (.finite q))
  | str (s : JsString) : IsData (.str s)
  | arr {items : List JsValue} (hitems : ∀ v ∈ items, IsData v) : IsData (.arr items)
  | obj {fields : List (JsString × JsValue)} (hnodup : (fields.map Prod.fst).Nodup)
      (hvalues : ∀ entry ∈ fields, IsData entry.2) : IsData (.obj fields)

/-- What the context and the limits say of a value that was projected. -/
inductive Projected : JsValue → Prop
  | null : Projected .null
  | bool (b : Bool) : Projected (.bool b)
  | num {q : ℚ} {ref : JsString} (href : ctx.numericMap.lookup q = some ref) :
      Projected (.num (.finite q))
  | str {s token : JsString} (htoken : ctx.identityMap.lookup s = some token) : Projected (.str s)
  | arr {items : List JsValue}
      (hitems : ∀ v ∈ items.take limits.maxArrayItemsInspected, Projected v) :
      Projected (.arr items)
  | obj {fields : List (JsString × JsValue)} (hnodup : (fields.map Prod.fst).Nodup)
      (hlength : fields.length ≤ limits.maxFieldsPerObject)
      (hnames : ∀ entry ∈ fields, entry.1 ∉ forbiddenFieldNames)
      (hvalues : ∀ entry ∈ fields, Projected entry.2) : Projected (.obj fields)

variable {limits ctx}

theorem shownItems_eq (items : List JsValue) :
    shownItems limits ctx items = items.map (shown limits ctx) := by
  induction items with
  | nil => rw [shownItems, List.map_nil]
  | cons v rest ih => rw [shownItems, ih, List.map_cons]

theorem lookup_shownFields (fields : List (JsString × JsValue)) (name : JsString) :
    ((shownFields limits ctx fields).lookup name).getD .null =
      shown limits ctx (field fields name) := by
  induction fields with
  | nil => rw [shownFields, field, List.lookup_nil, List.lookup_nil, Option.getD_none,
      Option.getD_none, shown]
  | cons entry rest ih =>
      obtain ⟨key, v⟩ := entry
      rw [shownFields, field, List.lookup_cons, List.lookup_cons]
      rw [field] at ih
      cases name == key with
      | true => rfl
      | false => exact ih

theorem shown_arr (items : List JsValue) : shown limits ctx (.arr items) =
    arrayOf items.length ((items.take limits.maxArrayItemsInspected).map (shown limits ctx)) := by
  rw [shown, shownItems_eq, List.map_take]

theorem shown_obj (fields : List (JsString × JsValue)) : shown limits ctx (.obj fields) =
    objectOf ((byName fields).map fun entry => (entry.1, shown limits ctx entry.2)) := by
  rw [shown, byName, List.map_map]
  simp only [lookup_shownFields]
  rfl

variable {fields : List (JsString × JsValue)}

variable {entry : JsString × JsValue}

theorem field_of_mem (h : (fields.map Prod.fst).Nodup) (hentry : entry ∈ fields) : field fields entry.1 = entry.2 := by
  rw [field, (mem_iff_lookup h).mp hentry, Option.getD_some]

theorem mem_byName (h : (fields.map Prod.fst).Nodup) : entry ∈ byName fields ↔ entry ∈ fields := by
  rw [byName, List.mem_map]
  constructor
  · rintro ⟨name, hname, rfl⟩
    rw [List.mem_insertionSort, List.mem_map] at hname
    obtain ⟨entry, hentry, rfl⟩ := hname
    rw [field_of_mem h hentry]
    exact hentry
  · intro hentry
    refine ⟨entry.1, ?_, by rw [field_of_mem h hentry]⟩
    rw [List.mem_insertionSort]
    exact List.mem_map_of_mem hentry

end Values

section Runs

variable {limits : ProjectionLimits}

theorem enter_lasting (depth : Nat) : Lasting Later (enter limits depth) fun _ _ => True := by
  refine Lasting.ite (fun _ => Lasting.throw _) fun _ => ?_
  intro p x p' h
  rw [countNode] at h
  by_cases hfull : limits.maxProjectionNodes < p.nodeCount + 1
  · rw [if_pos hfull] at h
    contradiction
  · rw [if_neg hfull] at h
    obtain ⟨rfl, rfl⟩ := Prod.mk.inj (Except.ok.inj h)
    exact ⟨Advances.refl p.ctx, fun _ _ => trivial⟩

theorem lookup_projectFields (fields : List (JsString × JsValue)) (depth : Nat)
    {name : JsString} {v : JsValue} (h : fields.lookup name = some v) :
    (projectFields limits fields depth).lookup name = some (project limits v depth) := by
  induction fields with
  | nil => contradiction
  | cons entry rest ih =>
      obtain ⟨key, w⟩ := entry
      rw [projectFields, List.lookup_cons]
      rw [List.lookup_cons] at h
      cases hkey : name == key with
      | true =>
          rw [hkey] at h
          rw [Option.some.inj h]
      | false =>
          rw [hkey] at h
          exact ih h

theorem projectFields_names (fields : List (JsString × JsValue)) (depth : Nat) :
    (projectFields limits fields depth).map Prod.fst = fields.map Prod.fst := by
  induction fields with
  | nil => rw [projectFields, List.map_nil, List.map_nil]
  | cons entry rest ih => rw [projectFields, List.map_cons, ih, List.map_cons]

theorem projectItems_eq (items : List JsValue) (depth : Nat) :
    projectItems limits items depth = items.map fun v => project limits v depth := by
  induction items with
  | nil => rw [projectItems, List.map_nil]
  | cons v rest ih => rw [projectItems, ih, List.map_cons]

theorem projectField_lasting {name : JsString} {child : Projecting ProjectionNode}
    {q : Projector → ProjectionNode → Prop} (h : Lasting Later child q) :
    Lasting Later (projectField name child) fun p entry =>
      name ∉ forbiddenFieldNames ∧ entry.1 = name ∧ q p entry.2 := by
  refine Lasting.ite (fun _ => Lasting.throw _) fun hname => ?_
  refine (h.bind fun node => Lasting.pure (x := (name, node))
    (q := fun _ entry => entry = (name, node)) fun _ => rfl).mono ?_
  rintro p entry ⟨node, hnode, rfl⟩
  exact ⟨hname, rfl, hnode⟩

theorem map_of_forall₂ {α β : Type} {f : α → β} {p : α → Prop} {xs : List α} {ys : List β}
    (h : List.Forall₂ (fun x y => y = f x ∧ p x) xs ys) : ys = xs.map f ∧ ∀ x ∈ xs, p x := by
  induction h with
  | nil => exact ⟨rfl, fun _ hx => absurd hx List.not_mem_nil⟩
  | cons hhead _ ih =>
      obtain ⟨rfl, hx⟩ := hhead
      obtain ⟨rfl, hrest⟩ := ih
      exact ⟨rfl, List.forall_mem_cons.mpr ⟨hx, hrest⟩⟩

theorem fields_lasting {fields : List (JsString × JsValue)} {depth : Nat}
    (hnodup : (fields.map Prod.fst).Nodup)
    (h : ∀ entry ∈ fields, Lasting Later (project limits entry.2 depth) fun p node =>
      node = shown limits p.ctx entry.2 ∧ Projected limits p.ctx entry.2) :
    Lasting Later (runAll (inKeyOrder limits depth (projectFields limits fields depth)))
      fun p nodes => nodes = ((fields.map Prod.fst).insertionSort textLe).map (fun name =>
          (name, shown limits p.ctx (field fields name))) ∧
        ∀ entry ∈ fields, entry.1 ∉ forbiddenFieldNames ∧ Projected limits p.ctx entry.2 := by
  have hfield : ∀ name ∈ (fields.map Prod.fst).insertionSort textLe, Lasting Later
      (projectField name (((projectFields limits fields depth).lookup name).getD
        (projectUndefined limits depth))) fun p entry =>
          entry = (name, shown limits p.ctx (field fields name)) ∧
            name ∉ forbiddenFieldNames ∧ Projected limits p.ctx (field fields name) := by
    intro name hname
    rw [List.mem_insertionSort, List.mem_map] at hname
    obtain ⟨entry, hentry, rfl⟩ := hname
    have hlookup := (mem_iff_lookup hnodup).mp hentry
    rw [lookup_projectFields fields depth hlookup, Option.getD_some, field_of_mem hnodup hentry]
    refine (projectField_lasting (h entry hentry)).mono ?_
    rintro p ⟨name, node⟩ ⟨hname, rfl, rfl, hprojected⟩
    exact ⟨rfl, hname, hprojected⟩
  rw [inKeyOrder, projectFields_names]
  refine (Lasting.runAll hfield).mono ?_
  intro p nodes hnodes
  obtain ⟨rfl, hnames⟩ := map_of_forall₂ hnodes
  refine ⟨rfl, fun entry hentry => ?_⟩
  have hname := hnames entry.1 ((List.mem_insertionSort _).mpr (List.mem_map_of_mem hentry))
  rw [field_of_mem hnodup hentry] at hname
  exact hname

theorem project_lasting {v : JsValue} (h : IsData v) (depth : Nat) :
    Lasting Later (project limits v depth) fun p node =>
      node = shown limits p.ctx v ∧ Projected limits p.ctx v := by
  induction h generalizing depth with
  | null =>
      rw [project]
      refine ((enter_lasting depth).bind fun _ => Lasting.pure (x := ProjectionNode.null)
        (q := fun _ node => node = .null) fun _ => rfl).mono ?_
      rintro p node ⟨-, -, rfl⟩
      exact ⟨by rw [shown], .null⟩
  | bool b =>
      rw [project]
      refine ((enter_lasting depth).bind fun _ => Lasting.pure
        (x := ProjectionNode.boolean (some b)) (q := fun _ node => node = .boolean (some b))
        fun _ => rfl).mono ?_
      rintro p node ⟨-, -, rfl⟩
      exact ⟨by rw [shown], .bool b⟩
  | num q =>
      rw [project]
      refine ((enter_lasting depth).bind fun _ => (refForNumber_lasting q).bind fun ref =>
        Lasting.pure (x := ProjectionNode.number (some ref))
          (q := fun _ node => node = .number (some ref)) fun _ => rfl).mono ?_
      rintro p node ⟨-, -, ref, href, rfl⟩
      exact ⟨by rw [shown, labeledNumber, href], .num href⟩
  | str s =>
      rw [project, projectString]
      refine ((enter_lasting depth).bind fun _ => Lasting.ite (fun _ => Lasting.throw _) fun _ =>
        (tokenForString_lasting s).bind fun token => Lasting.pure
          (x := ProjectionNode.string (some (if s = [] then .empty else .nonempty)) (some token))
          (q := fun _ node =>
            node = .string (some (if s = [] then .empty else .nonempty)) (some token))
          fun _ => rfl).mono ?_
      rintro p node ⟨-, -, token, htoken, rfl⟩
      exact ⟨by rw [shown, htoken], .str htoken⟩
  | @arr items hitems ih =>
      rw [project, projectItems_eq, ← List.map_take]
      refine ((enter_lasting depth).bind fun _ => (Lasting.runAll fun v hv =>
        ih v (List.mem_of_mem_take hv) (depth + 1)).bind fun nodes =>
          Lasting.pure (x := arrayOf items.length nodes)
            (q := fun _ node => node = arrayOf items.length nodes) fun _ => rfl).mono ?_
      rintro p node ⟨-, -, nodes, hnodes, rfl⟩
      obtain ⟨rfl, hprojected⟩ := map_of_forall₂ hnodes
      exact ⟨(shown_arr items).symm, .arr hprojected⟩
  | @obj fields hnodup hvalues ih =>
      rw [project]
      refine ((enter_lasting depth).bind (r := fun _ p node =>
        node = shown limits p.ctx (.obj fields) ∧ Projected limits p.ctx (.obj fields))
        fun _ => Lasting.ite (fun _ => ?_) fun hfits => ?_).mono ?_
      · intro p node p' hrun
        contradiction
      · refine ((fields_lasting hnodup fun entry hentry => ih entry hentry (depth + 1)).bind
          fun nodes => Lasting.pure (x := objectOf nodes) (q := fun _ node => node = objectOf nodes)
            fun _ => rfl).mono ?_
        rintro p node ⟨nodes, ⟨rfl, hentries⟩, rfl⟩
        refine ⟨?_, .obj hnodup (Nat.le_of_not_lt hfits)
          (fun entry hentry => (hentries entry hentry).1)
          fun entry hentry => (hentries entry hentry).2⟩
        rw [shown_obj, byName, List.map_map]
        rfl
      · rintro p node ⟨-, -, hnode⟩
        exact hnode

theorem projectValue_eq {value : JsValue} (h : IsData value) {ctx ctx' : ProjectionContext}
    {result : ProjectObservationResult}
    (hrun : projectValue limits value ctx = .ok (result, ctx')) :
    Advances ctx ctx' ∧ ∀ later, Advances ctx' later →
      result.root = shown limits later value ∧ Projected limits later value := by
  rw [projectValue] at hrun
  cases hproject : project limits value 0 ⟨ctx, 0⟩ with
  | error e =>
      rw [hproject] at hrun
      contradiction
  | ok out =>
      rw [hproject] at hrun
      obtain ⟨rfl, rfl⟩ := Prod.mk.inj (Except.ok.inj hrun)
      obtain ⟨hadvances, hnode⟩ := project_lasting h 0 _ _ _ hproject
      exact ⟨hadvances, fun later hlater => hnode ⟨later, 0⟩ hlater⟩

end Runs

end NightWatch.Oracles.ShownValues
