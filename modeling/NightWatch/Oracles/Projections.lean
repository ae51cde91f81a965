import NightWatch.Lib.JsData
import NightWatch.Lib.Mirror

/-!
The safe projection of a raw JSON value: structure, presence and opaque labels. Strings
and numbers leave the projector as labels in the order of their first encounter; the
tables that know the raw values stay in the context.
-/

namespace NightWatch.Oracles.Projections

open Lib.JsText Lib.JsData Lib.Mirror

structure ProjectionLimits where
  maxDepth : Nat
  maxFieldsPerObject : Nat
  maxArrayItemsInspected : Nat
  maxProjectionNodes : Nat
  maxIdentityTokens : Nat
  maxNumericRefs : Nat
  maxRawInputBytes : Nat

inductive ProjectionNodeType where
  | null
  | boolean
  | number
  | string
  | object
  | array
  deriving DecidableEq

/-- The type of all items of an array, or `MIXED`. -/
inductive ItemType where
  | of (type : ProjectionNodeType)
  | mixed
  deriving DecidableEq

inductive StringContentClass where
  | empty
  | nonempty
  deriving DecidableEq

/-- A projected node with the fields its type may carry; an absent field is `none`, and absent
object fields are an empty list. -/
inductive ProjectionNode where
  | null
  | boolean (booleanClass : Option Bool)
  | number (numericRef : Option JsString)
  | string (stringClass : Option StringContentClass) (identityToken : Option JsString)
  | object (fieldCount : Option Nat) (fields : List (JsString × ProjectionNode))
  | array (itemType : Option ItemType) (itemCount inspectedCount : Option Nat)
      (items : List ProjectionNode) (arrayTruncated : Option Bool)
  /-- An array node without its `items`. -/
  | unlisted (itemType : Option ItemType) (itemCount inspectedCount : Option Nat)
      (arrayTruncated : Option Bool)

def ProjectionNode.type : ProjectionNode → ProjectionNodeType
  | null => .null
  | boolean _ => .boolean
  | number _ => .number
  | string _ _ => .string
  | object _ _ => .object
  | array _ _ _ _ _ => .array
  | unlisted _ _ _ _ => .array

def ProjectionNode.itemCount : ProjectionNode → Option Nat
  | .array _ itemCount _ _ _ | .unlisted _ itemCount _ _ => itemCount
  | _ => none

/-- `node.items`, where an array carries them. -/
def ProjectionNode.items : ProjectionNode → Option (List ProjectionNode)
  | .array _ _ _ items _ => some items
  | _ => none

def ProjectionNode.arrayTruncated : ProjectionNode → Option Bool
  | .array _ _ _ _ arrayTruncated | .unlisted _ _ _ arrayTruncated => arrayTruncated
  | _ => none

inductive SemanticProjectionError where
  | limitExceeded (detail : JsString)
  | unsupportedInput (detail : JsString)

def forbiddenFieldNames : List JsString :=
  ["__proto__".toList, "constructor".toList, "prototype".toList, "toString".toList,
    "valueOf".toList, "hasOwnProperty".toList]

structure ProjectionContext where
  limits : ProjectionLimits
  identityMap : List (JsString × JsString)
  numericMap : List (ℚ × JsString)
  identityCounter : Nat
  numericCounter : Nat

def ProjectionContext.fresh (limits : ProjectionLimits) : ProjectionContext := ⟨limits, [], [], 0, 0⟩

def maxIdentityRawLength : Nat := 4096

def label (stem : String) (counter : Nat) : JsString :=
  stem.toList ++ '#' :: padStart 4 (decimal counter)

structure Projector where
  ctx : ProjectionContext
  nodeCount : Nat

abbrev Projecting (α : Type) : Type := Computation Projector SemanticProjectionError α

def limitExceeded {α : Type} (detail : String) : Projecting α :=
  MonadExcept.throw (SemanticProjectionError.limitExceeded detail.toList)

def unsupportedInput {α : Type} (detail : String) : Projecting α :=
  MonadExcept.throw (SemanticProjectionError.unsupportedInput detail.toList)

def tokenForString (raw : JsString) : Projecting JsString := fun p =>
  if maxIdentityRawLength < utf16Length raw then limitExceeded "identity-value-too-large" p
  else
    match p.ctx.identityMap.lookup raw with
    | some existing => .ok (existing, p)
    | none =>
        if p.ctx.limits.maxIdentityTokens ≤ p.ctx.identityMap.length then
          limitExceeded "identity-token-cap" p
        else
          let token := label "entity" (p.ctx.identityCounter + 1)
          .ok (token, { p with ctx := { p.ctx with
            identityCounter := p.ctx.identityCounter + 1
            identityMap := p.ctx.identityMap ++ [(raw, token)] } })

def refForNumber (raw : ℚ) : Projecting JsString := fun p =>
  match p.ctx.numericMap.lookup raw with
  | some existing => .ok (existing, p)
  | none =>
      if p.ctx.limits.maxNumericRefs ≤ p.ctx.numericMap.length then
        limitExceeded "numeric-ref-cap" p
      else
        let ref := label "numeric" (p.ctx.numericCounter + 1)
        .ok (ref, { p with ctx := { p.ctx with
          numericCounter := p.ctx.numericCounter + 1
          numericMap := p.ctx.numericMap ++ [(raw, ref)] } })

def ProjectionContext.numericValue (ctx : ProjectionContext) (ref : JsString) : Option ℚ :=
  (ctx.numericMap.find? fun entry => entry.2 = ref).map Prod.fst

section Projection

variable (limits : ProjectionLimits)

def countNode : Projecting Unit := fun p =>
  if limits.maxProjectionNodes < p.nodeCount + 1 then limitExceeded "projection-node-cap" p
  else .ok ((), { p with nodeCount := p.nodeCount + 1 })

/-- What `project` does before it looks at the value. -/
def enter (depth : Nat) : Projecting Unit :=
  if limits.maxDepth < depth then limitExceeded "projection-depth-cap" else countNode limits

def projectString (s : JsString) : Projecting ProjectionNode :=
  if limits.maxRawInputBytes < utf16Length s then limitExceeded "string-value-bytes"
  else do
    let token ← tokenForString s
    return .string (some (if s = [] then .empty else .nonempty)) (some token)

def projectNumber : JsNumber → Projecting ProjectionNode
  | .finite q => do
      let ref ← refForNumber q
      return .number (some ref)
  | _ => unsupportedInput "non-finite-number"

/-- `itemType` of the items projected so far. -/
def itemTypeOf : List ProjectionNode → Option ItemType
  | [] => none
  | first :: rest =>
      some (rest.foldl (fun found item =>
        if found = .of item.type then found else .mixed) (.of first.type))

def arrayOf (itemCount : Nat) (items : List ProjectionNode) : ProjectionNode :=
  .array (some ((itemTypeOf items).getD .mixed)) (some itemCount) (some items.length) items
    (some (items.length < itemCount))

def projectField (name : JsString) (child : Projecting ProjectionNode) :
    Projecting (JsString × ProjectionNode) :=
  if name ∈ forbiddenFieldNames then unsupportedInput "forbidden-field-name"
  else do
    let node ← child
    return (name, node)

def projectUndefined (depth : Nat) : Projecting ProjectionNode := do
  enter limits depth
  unsupportedInput "non-json-scalar:undefined"

def inKeyOrder (depth : Nat) (children : List (JsString × Projecting ProjectionNode)) :
    List (Projecting (JsString × ProjectionNode)) :=
  ((children.map Prod.fst).insertionSort textLe).map fun name =>
    projectField name ((children.lookup name).getD (projectUndefined limits depth))

def objectOf (fields : List (JsString × ProjectionNode)) : ProjectionNode :=
  .object (some fields.length) fields

mutual

def project : JsValue → Nat → Projecting ProjectionNode
  | .undefined, depth => projectUndefined limits depth
  | .null, depth => do
      enter limits depth
      return .null
  | .bool b, depth => do
      enter limits depth
      return .boolean (some b)
  | .num n, depth => do
      enter limits depth
      projectNumber n
  | .str s, depth => do
      enter limits depth
      projectString limits s
  | .arr items, depth => do
      enter limits depth
      let nodes ← runAll ((projectItems items (depth + 1)).take limits.maxArrayItemsInspected)
      return arrayOf items.length nodes
  | .obj fields, depth => do
      enter limits depth
      if limits.maxFieldsPerObject < fields.length then limitExceeded "object-field-cap"
      let nodes ← runAll (inKeyOrder limits (depth + 1) (projectFields fields (depth + 1)))
      return objectOf nodes

def projectItems : List JsValue → Nat → List (Projecting ProjectionNode)
  | [], _ => []
  | v :: rest, depth => project v depth :: projectItems rest depth

def projectFields : List (JsString × JsValue) → Nat → List (JsString × Projecting ProjectionNode)
  | [], _ => []
  | (name, v) :: rest, depth => (name, project v depth) :: projectFields rest depth

end

structure ProjectObservationResult where
  root : ProjectionNode
  nodeCount : Nat

/-- What `projectValue` returns, and the context it leaves. -/
def projectValue (value : JsValue) (ctx : ProjectionContext) :
    Except SemanticProjectionError (ProjectObservationResult × ProjectionContext) :=
  (project limits value 0 ⟨ctx, 0⟩).map fun (root, p) => (⟨root, p.nodeCount⟩, p.ctx)

end Projection

end NightWatch.Oracles.Projections
