import NightWatch.ProdPrivacy.Structure

namespace NightWatch.ProdPrivacy.ValueFree

open Lib.JsText Lib.JsData Lib.JsRuntime Lib.Guard ProdPrivacy.Projection ProdPrivacy.Evidence
  ProdPrivacy.Structure

section Skeletons

structure FieldPair where
  name : JsString
  name' : JsString
  value : JsValue
  value' : JsValue

def FieldPair.left (pair : FieldPair) : JsString × JsValue := (pair.name, pair.value)

def FieldPair.right (pair : FieldPair) : JsString × JsValue := (pair.name', pair.value')

variable (vocabulary : KeyVocabularySource)

/-- A proven key stays; another becomes one that is neither proven nor forbidden. -/
structure Renames (pair : FieldPair) : Prop where
  proven : isSourceProvenKey vocabulary pair.name = true → pair.name' = pair.name
  dynamic : isSourceProvenKey vocabulary pair.name = false →
    isSourceProvenKey vocabulary pair.name' = false ∧ pair.name' ∉ forbiddenProductionKeyNames

/-- Values that differ in numbers, string texts and names of dynamic keys; each object renames its
keys injectively and may list its fields in another order. -/
inductive SameSkeleton : JsValue → JsValue → Prop
  | null : SameSkeleton .null .null
  | bool (b : Bool) : SameSkeleton (.bool b) (.bool b)
  | num (m n : JsNumber) : SameSkeleton (.num m) (.num n)
  | str {s t : JsString} (hempty : s = [] ↔ t = []) : SameSkeleton (.str s) (.str t)
  | arr {pairs : List (JsValue × JsValue)} (hitems : ∀ pair ∈ pairs, SameSkeleton pair.1 pair.2) :
      SameSkeleton (.arr (pairs.map Prod.fst)) (.arr (pairs.map Prod.snd))
  | obj {fields fields' : List (JsString × JsValue)} {pairs : List FieldPair}
      (hfields : fields.Perm (pairs.map FieldPair.left))
      (hfields' : fields'.Perm (pairs.map FieldPair.right))
      (hnodup : (pairs.map FieldPair.name).Nodup) (hnodup' : (pairs.map FieldPair.name').Nodup)
      (hrenames : ∀ pair ∈ pairs, Renames vocabulary pair)
      (hvalues : ∀ pair ∈ pairs, SameSkeleton pair.value pair.value') :
      SameSkeleton (.obj fields) (.obj fields')

end Skeletons

section Structures

variable {rt : Runtime} {vocabulary : KeyVocabularySource} {policy : PrivacyPolicy}
  {limits : ProductionProjectionLimits}

theorem stringClassOf_congr {s t : JsString} (h : s = [] ↔ t = []) :
    stringClassOf s = stringClassOf t := by
  simp only [stringClassOf, h]

theorem sortedByName_perm (fields : List (JsString × ProductionNode)) :
    (sortedByName fields).Perm fields := List.perm_insertionSort _ _

theorem sortedByName_pairwise (fields : List (JsString × ProductionNode)) :
    (sortedByName fields).Pairwise fun left right => textLe left.1 right.1 := by
  have : Std.Total fun left right : JsString × ProductionNode => textLe left.1 right.1 :=
    ⟨fun left right => total_of textLe left.1 right.1⟩
  have : IsTrans (JsString × ProductionNode) fun left right => textLe left.1 right.1 :=
    ⟨fun _ _ _ hst htu => trans_of textLe hst htu⟩
  exact List.pairwise_insertionSort _ _

theorem provenOf_sorted {named named' : List (JsString × ProductionNode)}
    (hnodup : (named.map Prod.fst).Nodup)
    (hperm : (provenOf vocabulary named).Perm (provenOf vocabulary named')) :
    provenOf vocabulary (sortedByName named) = provenOf vocabulary (sortedByName named') := by
  have hleft : (provenOf vocabulary (sortedByName named)).Perm (provenOf vocabulary named) :=
    (sortedByName_perm named).filter _
  have hright : (provenOf vocabulary (sortedByName named')).Perm (provenOf vocabulary named') :=
    (sortedByName_perm named').filter _
  refine List.Perm.eq_of_pairwise ?_ ((sortedByName_pairwise named).filter _)
    ((sortedByName_pairwise named').filter _) (hleft.trans (hperm.trans hright.symm))
  intro left right hmem hmem' hle hge
  have hname : left.1 = right.1 := antisymm_of textLe hle hge
  have hin : left ∈ named := List.mem_of_mem_filter (hleft.mem_iff.mp hmem)
  have hin' : right ∈ named := by
    exact List.mem_of_mem_filter (hperm.mem_iff.mpr (hright.mem_iff.mp hmem'))
  exact List.inj_on_of_nodup_map hnodup hin hin' hname

theorem orderedByText_pairwise (nodes : List ProductionNode) :
    (orderedByText rt nodes).Pairwise fun left right =>
      textLe (structuralText rt left) (structuralText rt right) := by
  have : Std.Total fun left right : ProductionNode =>
      textLe (structuralText rt left) (structuralText rt right) :=
    ⟨fun left right => total_of textLe _ _⟩
  have : IsTrans ProductionNode fun left right =>
      textLe (structuralText rt left) (structuralText rt right) :=
    ⟨fun _ _ _ hst htu => trans_of textLe hst htu⟩
  exact List.pairwise_insertionSort _ _

theorem orderedByText_congr {nodes nodes' : List ProductionNode} (hperm : nodes.Perm nodes')
    (hchecked : ∀ node ∈ nodes, checkNode rt node = .ok ())
    (hevidence : ∀ node ∈ nodes, toEvidenceNode node = node) :
    orderedByText rt nodes = orderedByText rt nodes' := by
  have hleft : (orderedByText rt nodes).Perm nodes := List.perm_insertionSort _ _
  have hright : (orderedByText rt nodes').Perm nodes' := List.perm_insertionSort _ _
  refine List.Perm.eq_of_pairwise ?_ (orderedByText_pairwise nodes) (orderedByText_pairwise nodes')
    (hleft.trans (hperm.trans hright.symm))
  intro left right hmem hmem' hle hge
  have hin : left ∈ nodes := hleft.mem_iff.mp hmem
  have hin' : right ∈ nodes := hperm.mem_iff.mpr (hright.mem_iff.mp hmem')
  have htext : structuralText rt left = structuralText rt right := antisymm_of textLe hle hge
  have heq := toEvidenceNode_of_structuralText rt (hchecked left hin) (hchecked right hin') htext
  rwa [hevidence left hin, hevidence right hin'] at heq

mutual

theorem toEvidenceNode_structureOf : (v : JsValue) →
    toEvidenceNode (structureOf rt vocabulary policy limits v) =
      structureOf rt vocabulary policy limits v
  | .undefined | .null | .bool _ | .num _ | .str _ => rfl
  | .arr items => by
      rw [structureOf, arrayNode_strip, List.map_take, structuresOf_strip items]
  | .obj fields => by
      have hnamed := namedStructures_strip fields
      have hsorted : (sortedByName (namedStructures rt vocabulary policy limits fields)).map
          stripField = sortedByName (namedStructures rt vocabulary policy limits fields) := by
        have hcommute := sortedByName_map toEvidenceNode
          (namedStructures rt vocabulary policy limits fields)
        exact hcommute.symm.trans (congrArg sortedByName hnamed)
      rw [structureOf, objectStructure, objectNode_strip, ← provenOf_strip, ← orderedByText_strip,
        ← dynamicOf_strip, hsorted]

theorem structuresOf_strip : (items : List JsValue) →
    (structuresOf rt vocabulary policy limits items).map toEvidenceNode =
      structuresOf rt vocabulary policy limits items
  | [] => rfl
  | v :: rest => by
      rw [structuresOf, List.map_cons, toEvidenceNode_structureOf v, structuresOf_strip rest]

theorem namedStructures_strip : (fields : List (JsString × JsValue)) →
    (namedStructures rt vocabulary policy limits fields).map stripField =
      namedStructures rt vocabulary policy limits fields
  | [] => rfl
  | (_, v) :: rest => by
      rw [namedStructures, List.map_cons, stripField, toEvidenceNode_structureOf v,
        namedStructures_strip rest]

end

section Renamed

variable {pairs : List FieldPair}

theorem namedStructures_perm {fields : List (JsString × JsValue)}
    {side : FieldPair → JsString × JsValue} (hfields : fields.Perm (pairs.map side)) :
    (namedStructures rt vocabulary policy limits fields).Perm (pairs.map fun pair =>
      ((side pair).1, structureOf rt vocabulary policy limits (side pair).2)) := by
  rw [namedStructures_eq_map]
  have hmap := hfields.map fun field => (field.1, structureOf rt vocabulary policy limits field.2)
  rwa [List.map_map] at hmap

theorem proven_iff (hrenames : ∀ pair ∈ pairs, Renames vocabulary pair) {pair : FieldPair}
    (hpair : pair ∈ pairs) :
    isSourceProvenKey vocabulary pair.name = isSourceProvenKey vocabulary pair.name' := by
  cases hproven : isSourceProvenKey vocabulary pair.name with
  | true => rw [(hrenames pair hpair).proven hproven, hproven]
  | false => rw [((hrenames pair hpair).dynamic hproven).1]

variable (hrenames : ∀ pair ∈ pairs, Renames vocabulary pair)
  (hvalue : ∀ pair ∈ pairs, structureOf rt vocabulary policy limits pair.value =
    structureOf rt vocabulary policy limits pair.value')

include hrenames hvalue

theorem provenOf_renamed : provenOf vocabulary (pairs.map fun pair =>
        (pair.left.1, structureOf rt vocabulary policy limits pair.left.2)) =
      provenOf vocabulary (pairs.map fun pair =>
        (pair.right.1, structureOf rt vocabulary policy limits pair.right.2)) := by
  rw [provenOf, provenOf, List.filter_map, List.filter_map]
  have hfilter : pairs.filter (fun pair => isSourceProvenKey vocabulary pair.name) =
      pairs.filter fun pair => isSourceProvenKey vocabulary pair.name' :=
    List.filter_congr fun pair hpair => proven_iff hrenames hpair
  refine Eq.trans ?_ (congrArg (List.map _) hfilter)
  refine List.map_congr_left fun pair hpair => ?_
  obtain ⟨hmem, hproven⟩ := List.mem_filter.mp hpair
  exact Prod.ext ((hrenames pair hmem).proven hproven).symm (hvalue pair hmem)

theorem dynamicOf_renamed : dynamicOf vocabulary (pairs.map fun pair =>
        (pair.left.1, structureOf rt vocabulary policy limits pair.left.2)) =
      dynamicOf vocabulary (pairs.map fun pair =>
        (pair.right.1, structureOf rt vocabulary policy limits pair.right.2)) := by
  rw [dynamicOf, dynamicOf, List.filter_map, List.filter_map, List.map_map, List.map_map]
  have hfilter : pairs.filter (fun pair => !isSourceProvenKey vocabulary pair.name) =
      pairs.filter fun pair => !isSourceProvenKey vocabulary pair.name' :=
    List.filter_congr fun pair hpair => by rw [proven_iff hrenames hpair]
  refine Eq.trans ?_ (congrArg (List.map _) hfilter)
  exact List.map_congr_left fun pair hpair => hvalue pair (List.mem_of_mem_filter hpair)

end Renamed

theorem structureOf_congr {v v' : JsValue} (h : SameSkeleton vocabulary v v')
    (hreadable : Readable rt vocabulary policy limits v) :
    structureOf rt vocabulary policy limits v = structureOf rt vocabulary policy limits v' := by
  induction h with
  | null => rfl
  | bool b => rfl
  | num m n => rfl
  | str hempty => rw [structureOf, structureOf, stringClassOf_congr hempty]
  | @arr pairs hitems ih =>
      cases hreadable with
      | arr hreadable =>
          rw [structureOf, structureOf, structuresOf_eq_map, structuresOf_eq_map, List.length_map,
            List.length_map, ← List.map_take, ← List.map_take, ← List.map_take, ← List.map_take,
            List.map_map, List.map_map]
          congr 1
          refine List.map_congr_left fun pair hpair => ?_
          refine ih pair (List.mem_of_mem_take hpair) (hreadable pair.1 ?_)
          rw [← List.map_take]
          exact List.mem_map_of_mem hpair
  | @obj fields fields' pairs hfields hfields' hnodup hnodup' hrenames hvalues ih =>
      cases hreadable with
      | obj hreadable hdynamic =>
          have hvalue (pair : FieldPair) (hpair : pair ∈ pairs) :
              structureOf rt vocabulary policy limits pair.value =
                structureOf rt vocabulary policy limits pair.value' :=
            ih pair hpair (hreadable pair.left (hfields.mem_iff.mpr (List.mem_map_of_mem hpair)))
          have hleft : (namedStructures rt vocabulary policy limits fields).Perm _ :=
            namedStructures_perm hfields
          have hright : (namedStructures rt vocabulary policy limits fields').Perm _ :=
            namedStructures_perm hfields'
          have hproven := provenOf_renamed hrenames hvalue
          have hdynamicSame := dynamicOf_renamed hrenames hvalue
          rw [structureOf, structureOf, objectStructure, objectStructure]
          congr 1
          · refine provenOf_sorted ?_ ?_
            · rw [(hleft.map Prod.fst).nodup_iff, List.map_map]
              exact hnodup
            · have hone : (provenOf vocabulary (namedStructures rt vocabulary policy limits fields)).Perm
                  (provenOf vocabulary _) := hleft.filter _
              have hother : (provenOf vocabulary
                  (namedStructures rt vocabulary policy limits fields')).Perm
                  (provenOf vocabulary _) := hright.filter _
              rw [hproven] at hone
              exact hone.trans hother.symm
          · have hsorted : (dynamicOf vocabulary (sortedByName
                (namedStructures rt vocabulary policy limits fields))).Perm
                (dynamicOf vocabulary (namedStructures rt vocabulary policy limits fields)) :=
              ((sortedByName_perm _).filter _).map _
            refine orderedByText_congr ?_ ?_ ?_
            · have hone : (dynamicOf vocabulary
                  (namedStructures rt vocabulary policy limits fields)).Perm
                  (dynamicOf vocabulary _) := (hleft.filter _).map _
              have hother : (dynamicOf vocabulary
                  (namedStructures rt vocabulary policy limits fields')).Perm
                  (dynamicOf vocabulary _) := (hright.filter _).map _
              have hsorted' : (dynamicOf vocabulary (sortedByName
                  (namedStructures rt vocabulary policy limits fields'))).Perm
                  (dynamicOf vocabulary (namedStructures rt vocabulary policy limits fields')) :=
                ((sortedByName_perm _).filter _).map _
              rw [hdynamicSame] at hone
              exact hsorted.trans (hone.trans (hother.symm.trans hsorted'.symm))
            · intro node hnode
              exact hdynamic node (hsorted.mem_iff.mp hnode)
            · intro node hnode
              obtain ⟨field, hfield, rfl⟩ := List.mem_map.mp (hsorted.mem_iff.mp hnode)
              rw [namedStructures_eq_map] at hfield
              obtain ⟨source, -, rfl⟩ := List.mem_map.mp (List.mem_of_mem_filter hfield)
              exact toEvidenceNode_structureOf source.2

end Structures

section Evidence

variable {rt : Runtime} {vocabulary : KeyVocabularySource} {policy : PrivacyPolicy}
  {limits : ProductionProjectionLimits} {sha256Hex : JsString → JsString}

variable {projection : SafeStructuralProjection}

theorem root_of_projectProduction {raw : JsValue}
    (h : projectProduction rt vocabulary policy limits raw = .ok projection) :
    Shows rt vocabulary policy limits projection.root raw := by
  rw [projectProduction] at h
  split at h
  · contradiction
  · cases hout : project rt vocabulary policy limits raw 0 freshProjector with
    | error e =>
        rw [hout] at h
        contradiction
    | ok out =>
        rw [hout] at h
        obtain rfl := Except.ok.inj h
        exact (project_yields raw 0).result freshProjector out.1 out.2 hout

theorem evidence_eq {request : ProductionEvidenceRequest} {projection' :
      SafeStructuralProjection} {evidence evidence' : SafeProductionEvidence}
    (h : toProductionEvidence rt sha256Hex request projection = .ok evidence)
    (h' : toProductionEvidence rt sha256Hex request projection' = .ok evidence')
    (hroot : toEvidenceNode projection.root = toEvidenceNode projection'.root) :
    evidence = evidence' := by
  have hfold : foldKeyProvenance projection.root = foldKeyProvenance projection'.root := by
    rw [foldKeyProvenance, ← visit_toEvidenceNode, hroot, visit_toEvidenceNode, foldKeyProvenance]
  simp only [toProductionEvidence, bind_eq_ok] at h h'
  obtain ⟨_, -, _, -, _, -, _, -, _, -, route, hroute, digest, hdigest, h⟩ := h
  obtain ⟨_, -, _, -, _, -, _, -, _, -, route', hroute', digest', hdigest', h'⟩ := h'
  obtain rfl : route = route' := Except.ok.inj (hroute.symm.trans hroute')
  rw [hroot] at hdigest
  obtain rfl : digest = digest' := Except.ok.inj (hdigest.symm.trans hdigest')
  rw [← Except.ok.inj h, ← Except.ok.inj h', hroot, hfold]

/-- Production evidence is free of values and of the names of dynamic keys. -/
theorem evidence_is_value_free {raw raw' : JsValue} (hskeleton : SameSkeleton vocabulary raw raw')
    {projection projection' : SafeStructuralProjection}
    (hproject : projectProduction rt vocabulary policy limits raw = .ok projection)
    (hproject' : projectProduction rt vocabulary policy limits raw' = .ok projection')
    {request : ProductionEvidenceRequest} {evidence evidence' : SafeProductionEvidence}
    (hevidence : toProductionEvidence rt sha256Hex request projection = .ok evidence)
    (hevidence' : toProductionEvidence rt sha256Hex request projection' = .ok evidence') :
    evidence = evidence' := by
  obtain ⟨hroot, hreadable⟩ := root_of_projectProduction hproject
  obtain ⟨hroot', -⟩ := root_of_projectProduction hproject'
  refine evidence_eq hevidence hevidence' ?_
  rw [hroot, hroot', structureOf_congr hskeleton hreadable]

def idVocabulary : KeyVocabularySource :=
  some ⟨some .production, "REVIEWED".toList, "keys".toList, ["id".toList]⟩

def healthRequest : ProductionEvidenceRequest where
  vocabulary := idVocabulary
  routeVocabulary := some ⟨some .production, "REVIEWED".toList, "routes".toList,
    ["GET /v1".toList]⟩
  policy := ⟨.production, .allowBoundedDynamic⟩
  routeTemplate := "GET /v1".toList
  statusClass := .status2xx

def identified (id : JsNumber) (name text : JsString) : JsValue :=
  .obj [("id".toList, .num id), (name, .str text)]

theorem identified_sameSkeleton :
    SameSkeleton idVocabulary (identified (.finite 1) "alice".toList "x".toList)
      (identified (.finite 2) "bob".toList "y".toList) := by
  refine @SameSkeleton.obj idVocabulary _ _ [⟨"id".toList, "id".toList, .num (.finite 1),
    .num (.finite 2)⟩, ⟨"alice".toList, "bob".toList, .str "x".toList, .str "y".toList⟩]
    (.refl _) (.refl _) (by decide) (by decide) ?_ ?_
  · rw [List.forall_mem_cons, List.forall_mem_singleton]
    exact ⟨⟨by decide, by decide⟩, ⟨by decide, by decide⟩⟩
  · rw [List.forall_mem_cons, List.forall_mem_singleton]
    exact ⟨.num _ _, .str (by decide)⟩

theorem renamed_key_is_value_free :
    ∃ projection projection' evidence evidence',
      projectProduction plainRuntime idVocabulary healthRequest.policy
        defaultProductionProjectionLimits
        (identified (.finite 1) "alice".toList "x".toList) = .ok projection ∧
      projectProduction plainRuntime idVocabulary healthRequest.policy
        defaultProductionProjectionLimits
        (identified (.finite 2) "bob".toList "y".toList) = .ok projection' ∧
      toProductionEvidence plainRuntime id healthRequest projection = .ok evidence ∧
      toProductionEvidence plainRuntime id healthRequest projection' = .ok evidence' ∧
      evidence = evidence' := by
  refine ⟨_, _, _, _, rfl, rfl, rfl, rfl, ?_⟩
  exact @evidence_is_value_free plainRuntime idVocabulary healthRequest.policy
    defaultProductionProjectionLimits id _ _ identified_sameSkeleton _ _ rfl rfl healthRequest
    _ _ rfl rfl

end Evidence

end NightWatch.ProdPrivacy.ValueFree
