import NightWatch.ProdPrivacy.Projection

namespace NightWatch.ProdPrivacy.Evidence

open Lib.JsText Lib.JsRuntime ProdPrivacy.Projection

mutual

def toEvidenceNode : ProductionNode → ProductionNode
  | .null => .null
  | .boolean booleanClass => .boolean booleanClass
  | .number _ => .number none
  | .string stringClass _ => .string stringClass none
  | .object fieldCount keyProvenance provenFieldCount dynamicFieldCount provenFields
      dynamicFields =>
      .object fieldCount keyProvenance provenFieldCount dynamicFieldCount
        (toEvidenceFields provenFields) (toEvidenceNodes dynamicFields)
  | .array itemType itemCount inspectedCount items arrayTruncated =>
      .array itemType itemCount inspectedCount (toEvidenceNodes items) arrayTruncated

def toEvidenceNodes : List ProductionNode → List ProductionNode
  | [] => []
  | node :: rest => toEvidenceNode node :: toEvidenceNodes rest

def toEvidenceFields : List (JsString × ProductionNode) → List (JsString × ProductionNode)
  | [] => []
  | (name, node) :: rest => (name, toEvidenceNode node) :: toEvidenceFields rest

end

mutual

/-- `visit` of `foldKeyProvenance`, from the worst classification so far. -/
def visit (worst : KeyProvenanceClassification) : ProductionNode → KeyProvenanceClassification
  | .object _ keyProvenance _ _ provenFields dynamicFields =>
      visitNodes (visitFields (worseClassification worst keyProvenance) provenFields) dynamicFields
  | .array _ _ _ items _ => visitNodes worst items
  | _ => worst

def visitNodes (worst : KeyProvenanceClassification) :
    List ProductionNode → KeyProvenanceClassification
  | [] => worst
  | node :: rest => visitNodes (visit worst node) rest

def visitFields (worst : KeyProvenanceClassification) :
    List (JsString × ProductionNode) → KeyProvenanceClassification
  | [] => worst
  | (_, node) :: rest => visitFields (visit worst node) rest

end

def foldKeyProvenance (node : ProductionNode) : KeyProvenanceClassification :=
  visit .allSourceProven node

section Evidence

inductive ProductionStatusClass where
  | status1xx
  | status2xx
  | status3xx
  | status4xx
  | status5xx

structure ProvenRouteVocabulary where
  marker : Option VocabularyAuthorityMarker
  provenanceClass : JsString
  provenanceDigest : JsString
  templates : List JsString

/-- `none` is `NO_PROVEN_ROUTE_VOCABULARY`. -/
abbrev RouteVocabularySource : Type := Option ProvenRouteVocabulary

structure ProductionEvidenceRequest where
  vocabulary : KeyVocabularySource
  routeVocabulary : RouteVocabularySource
  policy : PrivacyPolicy
  routeTemplate : JsString
  statusClass : ProductionStatusClass

structure SafeProductionEvidence where
  routeTemplate : JsString
  statusClass : ProductionStatusClass
  keyProvenance : KeyProvenanceClassification
  vocabularyProvenanceClass : JsString
  vocabularyProvenanceDigest : Option JsString
  routeProvenanceClass : JsString
  routeProvenanceDigest : JsString
  structuralDigest : JsString
  root : ProductionNode

def assertProductionVocabularyAuthority (marker : Option VocabularyAuthorityMarker) :
    Except ProductionPrivacyError Unit :=
  match marker with
  | none => .error (.vocabularyInvalid "CAPABILITY_NOT_MINTED")
  | some .testOnly => .error (.vocabularyInvalid "CAPABILITY_TEST_ONLY")
  | some .production => .ok ()

def assertProductionKeyVocabularyAuthority :
    KeyVocabularySource → Except ProductionPrivacyError Unit
  | none => .ok ()
  | some vocabulary => assertProductionVocabularyAuthority vocabulary.marker

def assertSourceProvenRoute (source : RouteVocabularySource) (routeTemplate : JsString) :
    Except ProductionPrivacyError (JsString × JsString) :=
  match source with
  | none => .error (.routeProvenanceUnresolved "ROUTE_NOT_SOURCE_PROVEN")
  | some vocabulary => do
      assertProductionVocabularyAuthority vocabulary.marker
      failIf (routeTemplate ∉ vocabulary.templates)
        (.routeProvenanceUnresolved "ROUTE_NOT_SOURCE_PROVEN")
      return (vocabulary.provenanceClass, vocabulary.provenanceDigest)

def productionProjectionVersion : JsString := "nightwatch.production-projection.v1".toList

def isParameterName : JsString → Bool
  | [] => false
  | first :: rest => first.isAlpha && rest.all fun c => c.isAlphanum || c = '_'

def isRouteSegment (segment : JsString) : Bool :=
  allOf (fun c => c.isAlphanum || c ∈ "._~-".toList) segment ||
    (segment.head? = some '\x7b' && segment.getLast? = some '\x7d' &&
      isParameterName (segment.tail.dropLast))

def isRouteTemplate (template : JsString) : Bool :=
  match splitFirst ' ' template with
  | some (method, '/' :: path) =>
      let segments := path.splitOn '/'
      method ∈ ["GET".toList, "HEAD".toList, "OPTIONS".toList] &&
        (segments.all isRouteSegment ||
          (segments.getLast? = some [] && segments.dropLast ≠ [] &&
            segments.dropLast.all isRouteSegment))
  | _ => false

-- The digest and the host are the surroundings'.
variable (rt : Runtime) (sha256Hex : JsString → JsString)

def productionStructuralDigest (node : ProductionNode) : Except ProductionPrivacyError JsString := do
  let bytes ← canonicalStructuralBytes rt node
  return "prodstruct:sha256:".toList ++
    (sha256Hex (productionProjectionVersion ++ '|' :: bytes)).take 24

def toProductionEvidence (request : ProductionEvidenceRequest)
    (projection : SafeStructuralProjection) :
    Except ProductionPrivacyError SafeProductionEvidence := do
  failIf (request.policy.cone ≠ .production) (.boundaryViolation "CONE_MISMATCH")
  assertProductionKeyVocabularyAuthority request.vocabulary
  failIf (projection.keyProvenance ≠ foldKeyProvenance projection.root)
    (.evidenceInvalid "PROVENANCE_AMBIGUOUS")
  failIf (foldKeyProvenance projection.root = .unresolved)
    (.keyProvenanceUnresolved "PROVENANCE_AMBIGUOUS")
  failIf (!isRouteTemplate request.routeTemplate) (.evidenceInvalid "ROUTE_TEMPLATE_INVALID")
  let route ← assertSourceProvenRoute request.routeVocabulary request.routeTemplate
  let root := toEvidenceNode projection.root
  let structuralDigest ← productionStructuralDigest rt sha256Hex root
  return {
    routeTemplate := request.routeTemplate
    statusClass := request.statusClass
    keyProvenance := foldKeyProvenance projection.root
    vocabularyProvenanceClass := (request.vocabulary.map
      ProvenKeyVocabulary.provenanceClass).getD "NONE".toList
    vocabularyProvenanceDigest := request.vocabulary.map ProvenKeyVocabulary.provenanceDigest
    routeProvenanceClass := route.1
    routeProvenanceDigest := route.2
    structuralDigest := structuralDigest
    root := root }

end Evidence

mutual

theorem visit_toEvidenceNode (worst : KeyProvenanceClassification) :
    (node : ProductionNode) → visit worst (toEvidenceNode node) = visit worst node
  | .null | .boolean _ | .number _ | .string _ _ => rfl
  | .object _ keyProvenance _ _ provenFields dynamicFields => by
      rw [toEvidenceNode, visit, visit, visit_toEvidenceFields, visit_toEvidenceNodes]
  | .array _ _ _ items _ => by
      rw [toEvidenceNode, visit, visit, visit_toEvidenceNodes]

theorem visit_toEvidenceNodes (worst : KeyProvenanceClassification) :
    (nodes : List ProductionNode) → visitNodes worst (toEvidenceNodes nodes) = visitNodes worst nodes
  | [] => rfl
  | node :: rest => by
      rw [toEvidenceNodes, visitNodes, visitNodes, visit_toEvidenceNode, visit_toEvidenceNodes]

theorem visit_toEvidenceFields (worst : KeyProvenanceClassification) :
    (fields : List (JsString × ProductionNode)) →
      visitFields worst (toEvidenceFields fields) = visitFields worst fields
  | [] => rfl
  | (_, node) :: rest => by
      rw [toEvidenceFields, visitFields, visitFields, visit_toEvidenceNode, visit_toEvidenceFields]

end

mutual

theorem structuralValue_toEvidenceNode :
    (node : ProductionNode) → structuralValue (toEvidenceNode node) = structuralValue node
  | .null | .boolean _ | .number _ => rfl
  | .string stringClass _ => by
      cases stringClass with
      | empty => rfl
      | nonempty => rfl
  | .object _ _ _ _ provenFields dynamicFields => by
      rw [toEvidenceNode, structuralValue, structuralValue, provenValues_toEvidenceFields,
        structuralValues_toEvidenceNodes]
  | .array _ _ _ items _ => by
      rw [toEvidenceNode, structuralValue, structuralValue, structuralValues_toEvidenceNodes]

theorem structuralValues_toEvidenceNodes : (nodes : List ProductionNode) →
    structuralValues (toEvidenceNodes nodes) = structuralValues nodes
  | [] => rfl
  | node :: rest => by
      rw [toEvidenceNodes, structuralValues, structuralValues, structuralValue_toEvidenceNode,
        structuralValues_toEvidenceNodes]

theorem provenValues_toEvidenceFields : (fields : List (JsString × ProductionNode)) →
    provenValues (toEvidenceFields fields) = provenValues fields
  | [] => rfl
  | (_, node) :: rest => by
      rw [toEvidenceFields, provenValues, provenValues, structuralValue_toEvidenceNode,
        provenValues_toEvidenceFields]

end

theorem structuralText_toEvidenceNode (rt : Runtime) (node : ProductionNode) :
    structuralText rt (toEvidenceNode node) = structuralText rt node := by
  rw [structuralText, structuralText, structuralValue_toEvidenceNode]

theorem toEvidenceNodes_eq_map (nodes : List ProductionNode) :
    toEvidenceNodes nodes = nodes.map toEvidenceNode := by
  induction nodes with
  | nil => rfl
  | cons node rest ih => rw [toEvidenceNodes, List.map_cons, ih]

theorem toEvidenceFields_eq_map (fields : List (JsString × ProductionNode)) :
    toEvidenceFields fields = fields.map fun field => (field.1, toEvidenceNode field.2) := by
  induction fields with
  | nil => rfl
  | cons field rest ih => rw [toEvidenceFields, List.map_cons, ih]

theorem type_toEvidenceNode (node : ProductionNode) : (toEvidenceNode node).type = node.type := by
  cases node <;> rfl

end NightWatch.ProdPrivacy.Evidence
