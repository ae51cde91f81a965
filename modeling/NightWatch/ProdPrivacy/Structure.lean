import NightWatch.Lib.TextOrder
import NightWatch.Lib.Results
import NightWatch.ProdPrivacy.Evidence

namespace NightWatch.ProdPrivacy.Structure

open Lib.JsText Lib.JsData Lib.JsRuntime Lib.Json Lib.Guard Lib.Mirror Lib.Results
  ProdPrivacy.Projection ProdPrivacy.Evidence

section Text

theorem then_eq_ok {x : Except ProductionPrivacyError Unit}
    {y : Unit → Except ProductionPrivacyError Unit} :
    (x >>= y) = .ok () ↔ x = .ok () ∧ y () = .ok () := by
  rw [bind_eq_ok]
  constructor
  · rintro ⟨⟨⟩, hx, hy⟩
    exact ⟨hx, hy⟩
  · rintro ⟨hx, hy⟩
    exact ⟨(), hx, hy⟩

theorem failIf_eq_ok {condition : Bool} {e : ProductionPrivacyError} :
    failIf condition e = .ok () ↔ condition = false := by
  rw [failIf]
  cases condition with
  | false => simp
  | true => simp

variable {count : Nat} {a b : ProductionNode}

theorem boundedCount_eq_ok {max : Nat} : boundedCount max count = .ok () ↔ count ≤ max := by
  rw [boundedCount, failIf_eq_ok, decide_eq_false_iff_not, not_lt]

theorem isScalar_count (h : count ≤ maxCount) : IsJson (.num (.ofNat count)) := by
  have hscalar : IsScalar (.num (.finite ((count : ℤ) : ℚ))) := by
    refine .num count ?_
    rw [Int.natAbs_natCast]
    exact h.trans (by decide)
  rw [Int.cast_natCast] at hscalar
  exact .scalar hscalar

theorem isJson_str (s : JsString) : IsJson (.str s) := .scalar (.str s)

variable (rt : Runtime)

mutual

theorem isJson_of_checkNode : (node : ProductionNode) → checkNode rt node = .ok () →
    IsJson (structuralValue node)
  | .null, _ => by
      refine .obj (by decide) (by decide) ?_
      simpa [typeMember] using isJson_str _
  | .boolean booleanClass, _ => by
      rw [structuralValue]
      refine .obj (by simp only [List.map_cons, List.map_nil, typeMember]; decide)
        (by simp only [List.map_cons, List.map_nil, typeMember]; decide) ?_
      simpa [typeMember] using ⟨isJson_str _, isJson_str _⟩
  | .number _, _ => by
      refine .obj (by decide) (by decide) ?_
      simpa [typeMember] using isJson_str _
  | .string stringClass _, _ => by
      rw [structuralValue.eq_def]
      refine .obj (by simp only [List.map_cons, List.map_nil, typeMember]; decide)
        (by simp only [List.map_cons, List.map_nil, typeMember]; decide) ?_
      simpa [typeMember] using ⟨isJson_str _, isJson_str _⟩
  | .object fieldCount keyProvenance provenFieldCount dynamicFieldCount provenFields
      dynamicFields, h => by
      simp only [checkNode, then_eq_ok] at h
      obtain ⟨hfields, hproven, hdynamic, -, -, -, hnodes, -, hnamed⟩ := h
      rw [boundedCount_eq_ok] at hfields hproven hdynamic
      rw [structuralValue]
      refine .obj (by simp only [List.map_cons, List.map_nil, typeMember, countMember]; decide)
        (by simp only [List.map_cons, List.map_nil, typeMember, countMember]; decide) ?_
      simp only [List.map_cons, List.map_nil, typeMember, countMember, List.forall_mem_cons]
      refine ⟨isJson_str _, isScalar_count (hfields.trans (by decide)), isJson_str _,
        isScalar_count (hproven.trans (by decide)), isScalar_count (hdynamic.trans (by decide)),
        .arr (isJson_of_checkProvenFields provenFields hnamed),
        .arr (isJson_of_checkNodes dynamicFields hnodes), by simp⟩
  | .array itemType itemCount inspectedCount items arrayTruncated, h => by
      simp only [checkNode, then_eq_ok] at h
      obtain ⟨hcount, hinspected, -, -, hnodes⟩ := h
      rw [boundedCount_eq_ok] at hcount hinspected
      rw [structuralValue]
      refine .obj (by simp only [List.map_cons, List.map_nil, typeMember, countMember]; decide)
        (by simp only [List.map_cons, List.map_nil, typeMember, countMember]; decide) ?_
      simp only [List.map_cons, List.map_nil, typeMember, countMember, List.forall_mem_cons]
      exact ⟨isJson_str _, isJson_str _, isScalar_count hcount, isScalar_count hinspected,
        .arr (isJson_of_checkNodes items hnodes), .scalar (.bool _), by simp⟩

theorem isJson_of_checkNodes : (nodes : List ProductionNode) → checkNodes rt nodes = .ok () →
    ∀ v ∈ structuralValues nodes, IsJson v
  | [], _ => by simp [structuralValues]
  | node :: rest, h => by
      simp only [checkNodes, then_eq_ok] at h
      rw [structuralValues, List.forall_mem_cons]
      exact ⟨isJson_of_checkNode node h.1, isJson_of_checkNodes rest h.2⟩

theorem isJson_of_checkProvenFields : (fields : List (JsString × ProductionNode)) →
    checkProvenFields rt fields = .ok () → ∀ v ∈ provenValues fields, IsJson v
  | [], _ => by simp [provenValues]
  | (name, node) :: rest, h => by
      simp only [checkProvenFields, then_eq_ok] at h
      rw [provenValues, List.forall_mem_cons]
      refine ⟨.obj (by simp only [List.map_cons, List.map_nil]; decide)
        (by simp only [List.map_cons, List.map_nil]; decide) ?_,
        isJson_of_checkProvenFields rest h.2.2⟩
      simp only [List.map_cons, List.map_nil, List.forall_mem_cons]
      exact ⟨isJson_str _, isJson_of_checkNode node h.2.1, by simp⟩

end

theorem typeName_injective : Function.Injective typeName := by
  intro a b h
  cases a <;> cases b <;> first | rfl | exact absurd h (by decide)

theorem itemTypeName_injective : Function.Injective itemTypeName := by
  intro a b h
  cases a with
  | mixed =>
      cases b with
      | mixed => rfl
      | of type => cases type <;> exact absurd h (by decide)
  | of type =>
      cases b with
      | mixed => cases type <;> exact absurd h (by decide)
      | of type' => rw [typeName_injective h]

theorem classificationName_injective : Function.Injective classificationName := by
  intro a b h
  cases a <;> cases b <;> first | rfl | exact absurd h (by decide)

theorem type_of_structuralValue (h : structuralValue a = structuralValue b) : a.type = b.type := by
  apply typeName_injective
  have hhead (node : ProductionNode) : ∃ rest,
      structuralValue node = .obj (("type".toList, .str (typeName node.type)) :: rest) := by
    cases node <;> exact ⟨_, rfl⟩
  obtain ⟨rest, ha⟩ := hhead a
  obtain ⟨rest', hb⟩ := hhead b
  rw [ha, hb] at h
  have hmember := (List.cons.inj (JsValue.obj.inj h)).1
  exact JsValue.str.inj (Prod.mk.inj hmember).2

mutual

theorem toEvidenceNode_of_structuralValue : (a b : ProductionNode) →
    structuralValue a = structuralValue b → toEvidenceNode a = toEvidenceNode b
  | .null, b, h => by
      have htype := type_of_structuralValue h
      cases b <;> first | rfl | contradiction
  | .boolean booleanClass, b, h => by
      have htype := type_of_structuralValue h
      cases b with
      | boolean booleanClass' =>
          cases booleanClass <;> cases booleanClass' <;>
            first | rfl | (simp [structuralValue] at h)
      | _ => contradiction
  | .number _, b, h => by
      have htype := type_of_structuralValue h
      cases b <;> first | rfl | contradiction
  | .string stringClass _, b, h => by
      have htype := type_of_structuralValue h
      cases b with
      | string stringClass' _ =>
          cases stringClass <;> cases stringClass' <;>
            first | rfl | (simp [structuralValue] at h)
      | _ => contradiction
  | .object _ _ _ _ provenFields dynamicFields, b, h => by
      have htype := type_of_structuralValue h
      cases b with
      | object _ _ _ _ provenFields' dynamicFields' =>
          simp only [structuralValue, countMember, JsValue.obj.injEq, List.cons.injEq,
            Prod.mk.injEq, true_and, JsValue.num.injEq, JsValue.str.injEq, JsValue.arr.injEq,
            and_true] at h
          obtain ⟨hfields, hclass, hproven, hdynamic, hnamed, hnodes⟩ := h
          rw [toEvidenceNode, toEvidenceNode, ofNat_injective hfields,
            classificationName_injective hclass, ofNat_injective hproven,
            ofNat_injective hdynamic,
            toEvidenceFields_of_provenValues provenFields provenFields' hnamed,
            toEvidenceNodes_of_structuralValues dynamicFields dynamicFields' hnodes]
      | _ => contradiction
  | .array _ _ _ items _, b, h => by
      have htype := type_of_structuralValue h
      cases b with
      | array _ _ _ items' _ =>
          simp only [structuralValue, countMember, JsValue.obj.injEq, List.cons.injEq,
            Prod.mk.injEq, true_and, JsValue.num.injEq, JsValue.str.injEq, JsValue.arr.injEq,
            JsValue.bool.injEq, and_true] at h
          obtain ⟨hitemType, hcount, hinspected, hnodes, htruncated⟩ := h
          rw [toEvidenceNode, toEvidenceNode, itemTypeName_injective hitemType,
            ofNat_injective hcount, ofNat_injective hinspected, htruncated,
            toEvidenceNodes_of_structuralValues items items' hnodes]
      | _ => contradiction

theorem toEvidenceNodes_of_structuralValues : (as bs : List ProductionNode) →
    structuralValues as = structuralValues bs → toEvidenceNodes as = toEvidenceNodes bs
  | [], [], _ => rfl
  | [], _ :: _, h => by simp [structuralValues] at h
  | _ :: _, [], h => by simp [structuralValues] at h
  | a :: as, b :: bs, h => by
      rw [structuralValues, structuralValues, List.cons.injEq] at h
      rw [toEvidenceNodes, toEvidenceNodes, toEvidenceNode_of_structuralValue a b h.1,
        toEvidenceNodes_of_structuralValues as bs h.2]

theorem toEvidenceFields_of_provenValues : (as bs : List (JsString × ProductionNode)) →
    provenValues as = provenValues bs → toEvidenceFields as = toEvidenceFields bs
  | [], [], _ => rfl
  | [], _ :: _, h => by simp [provenValues] at h
  | _ :: _, [], h => by simp [provenValues] at h
  | (name, a) :: as, (name', b) :: bs, h => by
      simp only [provenValues, List.cons.injEq, JsValue.obj.injEq, Prod.mk.injEq, true_and,
        JsValue.str.injEq, and_true] at h
      rw [toEvidenceFields, toEvidenceFields, h.1.1,
        toEvidenceNode_of_structuralValue a b h.1.2, toEvidenceFields_of_provenValues as bs h.2]

end

theorem toEvidenceNode_of_structuralText (ha : checkNode rt a = .ok ())
    (hb : checkNode rt b = .ok ()) (h : structuralText rt a = structuralText rt b) :
    toEvidenceNode a = toEvidenceNode b := by
  apply toEvidenceNode_of_structuralValue
  have hparse := rt.jsonParse_stringify _ (isJson_of_checkNode rt a ha)
  rw [← structuralText, h, structuralText,
    rt.jsonParse_stringify _ (isJson_of_checkNode rt b hb)] at hparse
  exact (Option.some.inj hparse).symm

end Text

section Structures

variable (rt : Runtime) (vocabulary : KeyVocabularySource) (policy : PrivacyPolicy)
  (limits : ProductionProjectionLimits)

def objectStructure (named : List (JsString × ProductionNode)) : ProductionNode :=
  objectNode policy (provenOf vocabulary (sortedByName named))
    (orderedByText rt (dynamicOf vocabulary (sortedByName named)))

mutual

def structureOf : JsValue → ProductionNode
  | .undefined | .null => .null
  | .bool b => .boolean b
  | .num _ => .number none
  | .str s => .string (stringClassOf s) none
  | .arr items => arrayNode items.length ((structuresOf items).take limits.maxArrayItemsInspected)
  | .obj fields => objectStructure rt vocabulary policy (namedStructures fields)

def structuresOf : List JsValue → List ProductionNode
  | [] => []
  | v :: rest => structureOf v :: structuresOf rest

def namedStructures : List (JsString × JsValue) → List (JsString × ProductionNode)
  | [] => []
  | (name, v) :: rest => (name, structureOf v) :: namedStructures rest

end

/-- The writer accepts the nodes under the dynamic keys of a value. -/
inductive Readable : JsValue → Prop
  | null : Readable .null
  | bool (b : Bool) : Readable (.bool b)
  | num (n : JsNumber) : Readable (.num n)
  | str (s : JsString) : Readable (.str s)
  | arr {items : List JsValue} (hitems : ∀ v ∈ items.take limits.maxArrayItemsInspected, Readable v) :
      Readable (.arr items)
  | obj {fields : List (JsString × JsValue)} (hfields : ∀ field ∈ fields, Readable field.2)
      (hdynamic : ∀ node ∈ dynamicOf vocabulary (namedStructures rt vocabulary policy limits fields),
        checkNode rt node = .ok ()) :
      Readable (.obj fields)

variable {rt vocabulary policy limits}

theorem structuresOf_eq_map (items : List JsValue) :
    structuresOf rt vocabulary policy limits items =
      items.map (structureOf rt vocabulary policy limits) := by
  induction items with
  | nil => rfl
  | cons v rest ih => rw [structuresOf, List.map_cons, ih]

theorem namedStructures_eq_map (fields : List (JsString × JsValue)) :
    namedStructures rt vocabulary policy limits fields =
      fields.map fun field => (field.1, structureOf rt vocabulary policy limits field.2) := by
  induction fields with
  | nil => rfl
  | cons field rest ih => rw [namedStructures, List.map_cons, ih]

theorem projectItems_eq_map (items : List JsValue) (depth : Nat) :
    projectItems rt vocabulary policy limits items depth =
      items.map fun v => project rt vocabulary policy limits v depth := by
  induction items with
  | nil => rfl
  | cons v rest ih => rw [projectItems, List.map_cons, ih]

theorem projectFields_eq_map (fields : List (JsString × JsValue)) (depth : Nat) :
    projectFields rt vocabulary policy limits fields depth =
      fields.map fun field => (field.1, project rt vocabulary policy limits field.2 depth) := by
  induction fields with
  | nil => rfl
  | cons field rest ih => rw [projectFields, List.map_cons, ih]

theorem sortedByName_map {α β : Type} (f : α → β) (fields : List (JsString × α)) :
    sortedByName (fields.map fun field => (field.1, f field.2)) =
      (sortedByName fields).map fun field => (field.1, f field.2) := by
  rw [sortedByName, sortedByName]
  refine (List.map_insertionSort (fun left right : JsString × α => textLe left.1 right.1)
    (fun left right : JsString × β => textLe left.1 right.1) _ _ ?_).symm
  exact fun _ _ _ _ => Iff.rfl

def stripField (field : JsString × ProductionNode) : JsString × ProductionNode :=
  (field.1, toEvidenceNode field.2)

theorem provenOf_strip (named : List (JsString × ProductionNode)) :
    provenOf vocabulary (named.map stripField) = (provenOf vocabulary named).map stripField :=
  List.filter_map

theorem dynamicOf_strip (named : List (JsString × ProductionNode)) :
    dynamicOf vocabulary (named.map stripField) = (dynamicOf vocabulary named).map toEvidenceNode := by
  rw [dynamicOf, List.filter_map, dynamicOf, List.map_map, List.map_map]
  rfl

theorem orderedByText_strip (nodes : List ProductionNode) :
    orderedByText rt (nodes.map toEvidenceNode) = (orderedByText rt nodes).map toEvidenceNode := by
  rw [orderedByText, orderedByText]
  refine (List.map_insertionSort _ _ _ _ fun a _ b _ => ?_).symm
  rw [structuralText_toEvidenceNode, structuralText_toEvidenceNode]

theorem objectNode_strip (provenFields : List (JsString × ProductionNode))
    (dynamicFields : List ProductionNode) :
    toEvidenceNode (objectNode policy provenFields dynamicFields) =
      objectNode policy (provenFields.map stripField) (dynamicFields.map toEvidenceNode) := by
  rw [objectNode, toEvidenceNode, objectNode, toEvidenceFields_eq_map, toEvidenceNodes_eq_map,
    List.length_map, List.length_map]
  rfl

theorem arrayNode_strip (itemCount : Nat) (nodes : List ProductionNode) :
    toEvidenceNode (arrayNode itemCount nodes) = arrayNode itemCount (nodes.map toEvidenceNode) := by
  have htypes : (nodes.map toEvidenceNode).map ProductionNode.type =
      nodes.map ProductionNode.type := by
    rw [List.map_map]
    exact List.map_congr_left fun node _ => type_toEvidenceNode node
  rw [arrayNode, toEvidenceNode, arrayNode, toEvidenceNodes_eq_map, htypes, List.length_map]

mutual

theorem checkNode_toEvidenceNode : (node : ProductionNode) →
    checkNode rt (toEvidenceNode node) = checkNode rt node
  | .null | .boolean _ | .number _ | .string _ _ => rfl
  | .object _ _ _ _ provenFields dynamicFields => by
      have hnames : (toEvidenceFields provenFields).map Prod.fst = provenFields.map Prod.fst := by
        rw [toEvidenceFields_eq_map, List.map_map]
        rfl
      have htexts : (toEvidenceNodes dynamicFields).map (structuralText rt) =
          dynamicFields.map (structuralText rt) := by
        rw [toEvidenceNodes_eq_map, List.map_map]
        exact List.map_congr_left fun node _ => structuralText_toEvidenceNode rt node
      have hproven : (toEvidenceFields provenFields).length = provenFields.length := by
        rw [toEvidenceFields_eq_map, List.length_map]
      have hdynamic : (toEvidenceNodes dynamicFields).length = dynamicFields.length := by
        rw [toEvidenceNodes_eq_map, List.length_map]
      rw [toEvidenceNode, checkNode, checkNode, hnames, htexts, hproven, hdynamic,
        checkNodes_toEvidenceNodes dynamicFields, checkProvenFields_toEvidenceFields provenFields]
  | .array _ _ _ items _ => by
      have hlength : (toEvidenceNodes items).length = items.length := by
        rw [toEvidenceNodes_eq_map, List.length_map]
      rw [toEvidenceNode, checkNode, checkNode, hlength, checkNodes_toEvidenceNodes items]

theorem checkNodes_toEvidenceNodes : (nodes : List ProductionNode) →
    checkNodes rt (toEvidenceNodes nodes) = checkNodes rt nodes
  | [] => rfl
  | node :: rest => by
      rw [toEvidenceNodes, checkNodes, checkNodes, checkNode_toEvidenceNode node,
        checkNodes_toEvidenceNodes rest]

theorem checkProvenFields_toEvidenceFields : (fields : List (JsString × ProductionNode)) →
    checkProvenFields rt (toEvidenceFields fields) = checkProvenFields rt fields
  | [] => rfl
  | (_, node) :: rest => by
      rw [toEvidenceFields, checkProvenFields, checkProvenFields, checkNode_toEvidenceNode node,
        checkProvenFields_toEvidenceFields rest]

end

theorem checkNodes_eq_ok {nodes : List ProductionNode} :
    checkNodes rt nodes = .ok () ↔ ∀ node ∈ nodes, checkNode rt node = .ok () := by
  induction nodes with
  | nil => simp [checkNodes]
  | cons node rest ih => rw [checkNodes, then_eq_ok, ih, List.forall_mem_cons]

end Structures

section Runs

variable {rt : Runtime} {vocabulary : KeyVocabularySource} {policy : PrivacyPolicy}
  {limits : ProductionProjectionLimits}

variable (rt vocabulary policy limits) in
/-- A node under a name shows the structure of the value under it. -/
def ShowsField (named : JsString × ProductionNode) (field : JsString × JsValue) : Prop :=
  stripField named = (field.1, structureOf rt vocabulary policy limits field.2) ∧
    Readable rt vocabulary policy limits field.2

variable (rt vocabulary policy limits) in
def Shows (node : ProductionNode) (v : JsValue) : Prop :=
  toEvidenceNode node = structureOf rt vocabulary policy limits v ∧
    Readable rt vocabulary policy limits v

theorem projectField_yields {name : JsString} {c : Projecting ProductionNode} {v : JsValue}
    (h : Yields c fun node => Shows rt vocabulary policy limits node v) :
    Yields (projectField (name, c)) fun named =>
      ShowsField rt vocabulary policy limits named (name, v) := by
  apply Yields.ite
  · exact fun _ => Yields.throw _
  · intro _
    apply Yields.bind h
    rintro node ⟨hnode, hreadable⟩
    exact Yields.pure ⟨by rw [stripField, hnode], hreadable⟩

theorem map_eq_of_forall₂ {α β γ : Type} {f : α → γ} {g : β → γ} {xs : List α} {ys : List β}
    (h : List.Forall₂ (fun x y => f x = g y) xs ys) : xs.map f = ys.map g := by
  induction h with
  | nil => rfl
  | cons hhead _ ih => rw [List.map_cons, List.map_cons, hhead, ih]

theorem assembleObject_yields {fields : List (JsString × JsValue)}
    {named : List (JsString × ProductionNode)} (h : List.Forall₂ (ShowsField rt vocabulary policy
      limits) named (sortedByName fields)) :
    Yields (assembleObject rt vocabulary policy limits named) fun node =>
      Shows rt vocabulary policy limits node (.obj fields) := by
  have hnamed : named.map stripField =
      sortedByName (namedStructures rt vocabulary policy limits fields) := by
    rw [namedStructures_eq_map, sortedByName_map]
    have hfield : List.Forall₂ (fun named (field : JsString × JsValue) => stripField named =
        (field.1, structureOf rt vocabulary policy limits field.2)) named (sortedByName fields) :=
      h.imp fun _ _ hshows => hshows.1
    exact map_eq_of_forall₂ hfield
  have hreadable : ∀ field ∈ fields, Readable rt vocabulary policy limits field.2 := by
    have hsorted : ∀ field ∈ sortedByName fields,
        Readable rt vocabulary policy limits field.2 := by
      intro field hfield
      obtain ⟨i, hi, rfl⟩ := List.getElem_of_mem hfield
      exact (h.get (by rw [h.length_eq]; exact hi) hi).2
    intro field hfield
    exact hsorted field (by rw [sortedByName, List.mem_insertionSort]; exact hfield)
  have hdone {ordered : List ProductionNode} (hordered : ordered =
      orderedByText rt (dynamicOf vocabulary named))
      (hchecked : checkNodes rt (dynamicOf vocabulary named) = .ok ()) :
      Shows rt vocabulary policy limits
        (objectNode policy (provenOf vocabulary named) ordered) (.obj fields) := by
    constructor
    · rw [objectNode_strip, structureOf, objectStructure, ← hnamed, provenOf_strip,
        dynamicOf_strip, orderedByText_strip, hordered]
    · refine .obj hreadable ?_
      have hperm : (dynamicOf vocabulary (namedStructures rt vocabulary policy limits fields)).Perm
          ((dynamicOf vocabulary named).map toEvidenceNode) := by
        rw [← dynamicOf_strip, hnamed]
        exact (((List.perm_insertionSort _ _).filter _).map _).symm
      intro node hnode
      obtain ⟨raw, hraw, rfl⟩ := List.mem_map.mp (hperm.mem_iff.mp hnode)
      rw [checkNode_toEvidenceNode]
      exact checkNodes_eq_ok.mp hchecked raw hraw
  apply Yields.ite
  · intro _
    exact Yields.bind (p := fun _ => False) (Yields.throw _) fun _ h => h.elim
  · intro _
    apply Yields.bind (Yields.lift _)
    intro _ hchecked
    apply Yields.bind (Yields.of_any _)
    intro _ _
    exact Yields.pure (hdone rfl hchecked)

mutual

theorem project_yields : (v : JsValue) → (depth : Nat) →
    Yields (project rt vocabulary policy limits v depth) fun node =>
      Shows rt vocabulary policy limits node v
  | .undefined, _ => (Yields.of_any _).bind fun _ _ => Yields.throw _
  | .null, _ => (Yields.of_any _).bind fun _ _ => Yields.pure ⟨rfl, .null⟩
  | .bool b, _ => (Yields.of_any _).bind fun _ _ => Yields.pure ⟨rfl, .bool b⟩
  | .num n, _ => by
      apply (Yields.of_any _).bind
      intro _ _
      cases n with
      | finite q => exact (Yields.of_any _).bind fun _ _ => Yields.pure ⟨rfl, .num _⟩
      | nan => exact Yields.throw _
      | negInfinity => exact Yields.throw _
      | posInfinity => exact Yields.throw _
  | .str s, _ => by
      apply (Yields.of_any _).bind
      intro _ _
      apply Yields.ite
      · exact fun _ => Yields.throw _
      · intro _
        exact (Yields.of_any _).bind fun _ _ => Yields.pure ⟨rfl, .str s⟩
  | .arr items, depth => by
      rw [project, projectItems_eq_map, ← List.map_take]
      apply (Yields.of_any _).bind
      intro _ _
      have hitems := items_yield items
      apply Yields.bind (Yields.runAll (r := Shows rt vocabulary policy limits) ?_)
      · intro nodes hnodes
        refine Yields.pure ⟨?_, .arr ?_⟩
        · rw [arrayNode_strip, structureOf, structuresOf_eq_map, ← List.map_take]
          congr 1
          exact map_eq_of_forall₂ (hnodes.imp fun _ _ hshows => hshows.1)
        · intro v hv
          obtain ⟨i, hi, rfl⟩ := List.getElem_of_mem hv
          exact (hnodes.get (by rw [hnodes.length_eq]; exact hi) hi).2
      · rw [List.forall₂_map_left_iff, List.forall₂_same]
        exact fun v hv => hitems v (List.mem_of_mem_take hv) (depth + 1)
  | .obj fields, depth => by
      have hsorted := sortedByName_map
        (fun v => project rt vocabulary policy limits v (depth + 1)) fields
      rw [project, projectFields_eq_map, hsorted, List.map_map]
      apply (Yields.of_any _).bind
      intro _ _
      have hfields := fields_yield fields
      have hrun : Yields (runAll ((sortedByName fields).map (projectField ∘ fun field =>
          (field.1, project rt vocabulary policy limits field.2 (depth + 1))))) fun named =>
          List.Forall₂ (ShowsField rt vocabulary policy
            limits) named (sortedByName fields) := by
        apply Yields.runAll
        rw [List.forall₂_map_left_iff, List.forall₂_same]
        intro field hfield
        rw [sortedByName, List.mem_insertionSort] at hfield
        exact projectField_yields (hfields field hfield (depth + 1))
      apply Yields.ite
      · intro _
        exact Yields.bind (p := fun _ => False) (Yields.throw _) fun _ h => h.elim
      · intro _
        apply Yields.bind hrun
        intro named hnamed
        exact assembleObject_yields hnamed

theorem items_yield : (items : List JsValue) → ∀ v ∈ items, ∀ depth,
    Yields (project rt vocabulary policy limits v depth) fun node =>
      Shows rt vocabulary policy limits node v
  | [], _, h, _ => by contradiction
  | v :: rest, w, h, depth => by
      rcases List.mem_cons.mp h with heq | hrest
      · rw [heq]
        exact project_yields v depth
      · exact items_yield rest w hrest depth

theorem fields_yield : (fields : List (JsString × JsValue)) → ∀ field ∈ fields, ∀ depth,
    Yields (project rt vocabulary policy limits field.2 depth) fun node =>
      Shows rt vocabulary policy limits node
        field.2
  | [], _, h, _ => by contradiction
  | (_, v) :: rest, field, h, depth => by
      rcases List.mem_cons.mp h with heq | hrest
      · rw [heq]
        exact project_yields v depth
      · exact fields_yield rest field hrest depth

end

end Runs

end NightWatch.ProdPrivacy.Structure
