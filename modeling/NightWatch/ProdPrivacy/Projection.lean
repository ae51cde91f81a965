import NightWatch.Lib.Guard
import NightWatch.Lib.JsRuntime
import NightWatch.Lib.Mirror

/-!
The production projection boundary: a raw value becomes structure, with the literals of
source-proven keys only, and with labels in encounter order that stay in memory.
-/

namespace NightWatch.ProdPrivacy.Projection

open Lib.JsText Lib.JsData Lib.JsRuntime Lib.Mirror

inductive ProductionPrivacyError where
  | limitExceeded (detail : String)
  | unsupportedInput (detail : String)
  | evidenceInvalid (detail : String)
  | boundaryViolation (detail : String)
  | vocabularyInvalid (detail : String)
  | keyProvenanceUnresolved (detail : String)
  | routeProvenanceUnresolved (detail : String)

structure ProductionProjectionLimits where
  maxDepth : Nat
  maxFieldsPerObject : Nat
  maxDynamicKeysPerObject : Nat
  maxArrayItemsInspected : Nat
  maxProjectionNodes : Nat
  maxEncounterTokens : Nat
  maxStringValueBytes : Nat

def defaultProductionProjectionLimits : ProductionProjectionLimits :=
  ⟨8, 64, 256, 128, 1024, 256, 4096⟩

inductive ProductionNodeType where
  | null
  | boolean
  | number
  | string
  | object
  | array
  deriving DecidableEq

inductive ProductionItemType where
  | of (type : ProductionNodeType)
  | mixed
  deriving DecidableEq

inductive ProductionStringClass where
  | empty
  | nonempty

inductive KeyProvenanceClassification where
  | allSourceProven
  | boundedDynamicKeyCollection
  | mixed
  | unresolved
  deriving DecidableEq

def severity : KeyProvenanceClassification → Nat
  | .allSourceProven => 0
  | .boundedDynamicKeyCollection => 1
  | .mixed => 2
  | .unresolved => 3

def worseClassification (left right : KeyProvenanceClassification) : KeyProvenanceClassification :=
  if severity right ≤ severity left then left else right

inductive ProductionNode where
  | null
  | boolean (booleanClass : Bool)
  | number (numericEncounterRef : Option JsString)
  | string (stringClass : ProductionStringClass) (encounterToken : Option JsString)
  | object (fieldCount : Nat) (keyProvenance : KeyProvenanceClassification)
      (provenFieldCount dynamicFieldCount : Nat) (provenFields : List (JsString × ProductionNode))
      (dynamicFields : List ProductionNode)
  | array (itemType : ProductionItemType) (itemCount inspectedCount : Nat)
      (items : List ProductionNode) (arrayTruncated : Bool)

def ProductionNode.type : ProductionNode → ProductionNodeType
  | null => .null
  | boolean _ => .boolean
  | number _ => .number
  | string _ _ => .string
  | object _ _ _ _ _ _ => .object
  | array _ _ _ _ _ => .array

def forbiddenProductionKeyNames : List JsString :=
  ["__proto__".toList, "constructor".toList, "prototype".toList, "toString".toList,
    "valueOf".toList, "hasOwnProperty".toList]

inductive VocabularyAuthorityMarker where
  | production
  | testOnly

structure ProvenKeyVocabulary where
  marker : Option VocabularyAuthorityMarker
  provenanceClass : JsString
  provenanceDigest : JsString
  keys : List JsString

/-- `none` is `NO_PROVEN_VOCABULARY`. -/
abbrev KeyVocabularySource : Type := Option ProvenKeyVocabulary

def isSourceProvenKey (source : KeyVocabularySource) (key : JsString) : Bool :=
  match source with
  | none => false
  | some vocabulary =>
      key ∉ forbiddenProductionKeyNames && vocabulary.marker.isSome && key ∈ vocabulary.keys

inductive KeyProvenanceRequirement where
  | requireSourceProven
  | allowBoundedDynamic
  deriving DecidableEq

inductive PrivacyCone where
  | production
  | dev
  deriving DecidableEq

structure PrivacyPolicy where
  cone : PrivacyCone
  keyProvenanceRequirement : KeyProvenanceRequirement

section Serializer

variable (rt : Runtime)

def typeName : ProductionNodeType → JsString
  | .null => "NULL".toList
  | .boolean => "BOOLEAN".toList
  | .number => "NUMBER".toList
  | .string => "STRING".toList
  | .object => "OBJECT".toList
  | .array => "ARRAY".toList

def itemTypeName : ProductionItemType → JsString
  | .of type => typeName type
  | .mixed => "MIXED".toList

def classificationName : KeyProvenanceClassification → JsString
  | .allSourceProven => "ALL_SOURCE_PROVEN".toList
  | .boundedDynamicKeyCollection => "BOUNDED_DYNAMIC_KEY_COLLECTION".toList
  | .mixed => "MIXED".toList
  | .unresolved => "UNRESOLVED".toList

def typeMember (type : ProductionNodeType) : JsString × JsValue :=
  ("type".toList, .str (typeName type))

def countMember (name : String) (count : Nat) : JsString × JsValue :=
  (name.toList, .num (.ofNat count))

mutual

def structuralValue : ProductionNode → JsValue
  | .null => .obj [typeMember .null]
  | .boolean booleanClass => .obj [typeMember .boolean,
      ("booleanClass".toList, .str (if booleanClass then "TRUE".toList else "FALSE".toList))]
  | .number _ => .obj [typeMember .number]
  | .string stringClass _ => .obj [typeMember .string,
      ("stringClass".toList, .str (match stringClass with
        | .empty => "EMPTY".toList
        | .nonempty => "NONEMPTY".toList))]
  | .object fieldCount keyProvenance provenFieldCount dynamicFieldCount provenFields
      dynamicFields =>
      .obj [typeMember .object, countMember "fieldCount" fieldCount,
        ("keyProvenance".toList, .str (classificationName keyProvenance)),
        countMember "provenFieldCount" provenFieldCount,
        countMember "dynamicFieldCount" dynamicFieldCount,
        ("provenFields".toList, .arr (provenValues provenFields)),
        ("dynamicFields".toList, .arr (structuralValues dynamicFields))]
  | .array itemType itemCount inspectedCount items arrayTruncated =>
      .obj [typeMember .array, ("itemType".toList, .str (itemTypeName itemType)),
        countMember "itemCount" itemCount, countMember "inspectedCount" inspectedCount,
        ("items".toList, .arr (structuralValues items)),
        ("arrayTruncated".toList, .bool arrayTruncated)]

def structuralValues : List ProductionNode → List JsValue
  | [] => []
  | node :: rest => structuralValue node :: structuralValues rest

def provenValues : List (JsString × ProductionNode) → List JsValue
  | [] => []
  | (name, node) :: rest =>
      .obj [("name".toList, .str name), ("node".toList, structuralValue node)] :: provenValues rest

end

/-- The canonical text: that of `JSON.stringify` on the members. -/
def structuralText (node : ProductionNode) : JsString := rt.jsonStringify (structuralValue node)

def maxCount : Nat := 1000000

def maxProvenKeyLength : Nat := 200

def failIf (condition : Bool) (e : ProductionPrivacyError) : Except ProductionPrivacyError Unit :=
  if condition then .error e else .ok ()

def boundedCount (max count : Nat) : Except ProductionPrivacyError Unit :=
  failIf (max < count) (.evidenceInvalid "CARDINALITY")

def inOrder (allowEqual : Bool) : List JsString → Bool
  | first :: second :: rest =>
      textLe first second && (allowEqual || first ≠ second) && inOrder allowEqual (second :: rest)
  | _ => true

def isProvenFieldName (name : JsString) : Bool :=
  name ≠ [] && utf16Length name ≤ maxProvenKeyLength && name ∉ forbiddenProductionKeyNames &&
    '\x00' ∉ name

mutual

def checkNode : ProductionNode → Except ProductionPrivacyError Unit
  | .null | .boolean _ | .number _ | .string _ _ => .ok ()
  | .object fieldCount _ provenFieldCount dynamicFieldCount provenFields dynamicFields => do
      boundedCount defaultProductionProjectionLimits.maxFieldsPerObject fieldCount
      boundedCount defaultProductionProjectionLimits.maxFieldsPerObject provenFieldCount
      boundedCount defaultProductionProjectionLimits.maxDynamicKeysPerObject dynamicFieldCount
      failIf (provenFields.length ≠ provenFieldCount || dynamicFields.length ≠ dynamicFieldCount)
        (.evidenceInvalid "CARDINALITY")
      failIf (provenFieldCount + dynamicFieldCount ≠ fieldCount) (.evidenceInvalid "CARDINALITY")
      failIf (!inOrder false (provenFields.map Prod.fst)) (.evidenceInvalid "FIELD_ORDER")
      checkNodes dynamicFields
      failIf (!inOrder true (dynamicFields.map (structuralText rt))) (.evidenceInvalid "FIELD_ORDER")
      checkProvenFields provenFields
  | .array _ itemCount inspectedCount items arrayTruncated => do
      boundedCount maxCount itemCount
      boundedCount maxCount inspectedCount
      failIf (items.length ≠ inspectedCount || itemCount < inspectedCount)
        (.evidenceInvalid "CARDINALITY")
      failIf (arrayTruncated ≠ decide (inspectedCount < itemCount)) (.evidenceInvalid "CARDINALITY")
      checkNodes items

def checkNodes : List ProductionNode → Except ProductionPrivacyError Unit
  | [] => .ok ()
  | node :: rest => do
      checkNode node
      checkNodes rest

def checkProvenFields : List (JsString × ProductionNode) → Except ProductionPrivacyError Unit
  | [] => .ok ()
  | (name, node) :: rest => do
      failIf (!isProvenFieldName name) (.evidenceInvalid "FIELD_TYPE")
      checkNode node
      checkProvenFields rest

end

def canonicalStructuralBytes (node : ProductionNode) : Except ProductionPrivacyError JsString := do
  checkNode rt node
  return structuralText rt node

end Serializer

section Encounters

structure EncounterContext where
  strings : List (JsString × JsString)
  numbers : List (ℚ × JsString)
  stringCounter : Nat
  numberCounter : Nat

structure ProductionProjector where
  encounters : EncounterContext
  nodeCount : Nat
  classification : KeyProvenanceClassification

def freshProjector : ProductionProjector := ⟨⟨[], [], 0, 0⟩, 0, .allSourceProven⟩

abbrev Projecting (α : Type) : Type := Computation ProductionProjector ProductionPrivacyError α

def fail {α : Type} (e : ProductionPrivacyError) : Projecting α := MonadExcept.throw e

variable (limits : ProductionProjectionLimits)

def encounterLabel (stem : String) (counter : Nat) : JsString :=
  stem.toList ++ '#' :: padStart 4 (decimal counter)

def tokenForString (raw : JsString) : Projecting JsString := fun p =>
  match p.encounters.strings.lookup raw with
  | some existing => .ok (existing, p)
  | none =>
      if limits.maxEncounterTokens ≤ p.encounters.strings.length then
        fail (.limitExceeded "ENCOUNTER_TOKEN_CAP") p
      else
        let token := encounterLabel "enc" (p.encounters.stringCounter + 1)
        .ok (token, { p with encounters := { p.encounters with
          stringCounter := p.encounters.stringCounter + 1
          strings := p.encounters.strings ++ [(raw, token)] } })

def refForNumber (raw : ℚ) : Projecting JsString := fun p =>
  match p.encounters.numbers.lookup raw with
  | some existing => .ok (existing, p)
  | none =>
      if limits.maxEncounterTokens ≤ p.encounters.numbers.length then
        fail (.limitExceeded "ENCOUNTER_TOKEN_CAP") p
      else
        let ref := encounterLabel "num" (p.encounters.numberCounter + 1)
        .ok (ref, { p with encounters := { p.encounters with
          numberCounter := p.encounters.numberCounter + 1
          numbers := p.encounters.numbers ++ [(raw, ref)] } })

end Encounters

section Projector

variable (rt : Runtime) (vocabulary : KeyVocabularySource) (policy : PrivacyPolicy)
  (limits : ProductionProjectionLimits)

def countNode : Projecting Unit := fun p =>
  if limits.maxProjectionNodes < p.nodeCount + 1 then fail (.limitExceeded "NODE_CAP") p
  else .ok ((), { p with nodeCount := p.nodeCount + 1 })

def enter (depth : Nat) : Projecting Unit :=
  if limits.maxDepth < depth then fail (.limitExceeded "DEPTH_CAP") else countNode limits

def record (classification : KeyProvenanceClassification) : Projecting Unit := fun p =>
  .ok ((), { p with classification := worseClassification p.classification classification })

def projectNumber : JsNumber → Projecting ProductionNode
  | .finite q => do
      let ref ← refForNumber limits q
      return .number (some ref)
  | _ => fail (.unsupportedInput "NON_FINITE_NUMBER")

def stringClassOf (s : JsString) : ProductionStringClass := if s = [] then .empty else .nonempty

def projectString (s : JsString) : Projecting ProductionNode :=
  if limits.maxStringValueBytes < utf16Length s then fail (.limitExceeded "STRING_VALUE_BYTES")
  else do
    let token ← tokenForString limits s
    return .string (stringClassOf s) (some token)

def classifyObject (provenCount dynamicCount : Nat) : KeyProvenanceClassification :=
  if dynamicCount = 0 then .allSourceProven
  else if policy.keyProvenanceRequirement = .requireSourceProven then .unresolved
  else if provenCount = 0 then .boundedDynamicKeyCollection
  else .mixed

def provenOf (named : List (JsString × ProductionNode)) : List (JsString × ProductionNode) :=
  named.filter fun field => isSourceProvenKey vocabulary field.1

def dynamicOf (named : List (JsString × ProductionNode)) : List ProductionNode :=
  (named.filter fun field => !isSourceProvenKey vocabulary field.1).map Prod.snd

def orderedByText (nodes : List ProductionNode) : List ProductionNode :=
  nodes.insertionSort fun left right => textLe (structuralText rt left) (structuralText rt right)

def objectNode (provenFields : List (JsString × ProductionNode))
    (dynamicFields : List ProductionNode) : ProductionNode :=
  .object (provenFields.length + dynamicFields.length)
    (classifyObject policy provenFields.length dynamicFields.length) provenFields.length
    dynamicFields.length provenFields dynamicFields

def assembleObject (named : List (JsString × ProductionNode)) : Projecting ProductionNode := do
  if limits.maxDynamicKeysPerObject < (dynamicOf vocabulary named).length then
    fail (.limitExceeded "DYNAMIC_KEY_CAP")
  liftM (checkNodes rt (dynamicOf vocabulary named))
  let ordered := orderedByText rt (dynamicOf vocabulary named)
  let node := objectNode policy (provenOf vocabulary named) ordered
  record (classifyObject policy (provenOf vocabulary named).length ordered.length)
  return node

/-- `itemType` of the items projected so far. -/
def itemTypeOf : List ProductionNodeType → ProductionItemType
  | [] => .mixed
  | first :: rest =>
      rest.foldl (fun found type => if found = .of type then found else .mixed) (.of first)

def arrayNode (itemCount : Nat) (items : List ProductionNode) : ProductionNode :=
  .array (itemTypeOf (items.map ProductionNode.type)) itemCount items.length items
    (items.length < itemCount)

def projectField (field : JsString × Projecting ProductionNode) :
    Projecting (JsString × ProductionNode) :=
  if field.1 ∈ forbiddenProductionKeyNames then fail (.unsupportedInput "FORBIDDEN_FIELD_NAME")
  else do
    let node ← field.2
    return (field.1, node)

/-- `Object.keys(value).sort()`, with what stands under each key. -/
def sortedByName {α : Type} (fields : List (JsString × α)) : List (JsString × α) :=
  fields.insertionSort fun left right => textLe left.1 right.1

mutual

def project : JsValue → Nat → Projecting ProductionNode
  | .undefined, depth => do
      enter limits depth
      fail (.unsupportedInput "NON_JSON_SCALAR")
  | .null, depth => do
      enter limits depth
      return .null
  | .bool b, depth => do
      enter limits depth
      return .boolean b
  | .num n, depth => do
      enter limits depth
      projectNumber limits n
  | .str s, depth => do
      enter limits depth
      projectString limits s
  | .arr items, depth => do
      enter limits depth
      let nodes ← runAll ((projectItems items (depth + 1)).take limits.maxArrayItemsInspected)
      return arrayNode items.length nodes
  | .obj fields, depth => do
      enter limits depth
      if limits.maxFieldsPerObject < fields.length then fail (.limitExceeded "OBJECT_FIELD_CAP")
      let named ← runAll ((sortedByName (projectFields fields (depth + 1))).map projectField)
      assembleObject rt vocabulary policy limits named

def projectItems : List JsValue → Nat → List (Projecting ProductionNode)
  | [], _ => []
  | v :: rest, depth => project v depth :: projectItems rest depth

def projectFields : List (JsString × JsValue) → Nat → List (JsString × Projecting ProductionNode)
  | [], _ => []
  | (name, v) :: rest, depth => (name, project v depth) :: projectFields rest depth

end

structure SafeStructuralProjection where
  keyProvenance : KeyProvenanceClassification
  root : ProductionNode

def projectProduction (source : JsValue) : Except ProductionPrivacyError SafeStructuralProjection :=
  if policy.cone ≠ .production then .error (.boundaryViolation "CONE_MISMATCH")
  else (project rt vocabulary policy limits source 0 freshProjector).map fun (root, p) =>
    ⟨p.classification, root⟩

end Projector

end NightWatch.ProdPrivacy.Projection
