import NightWatch.Oracles.Projections

/-!
The fixed invariant vocabulary and its evaluation over safe projections.
-/

namespace NightWatch.Oracles.Invariants

open Lib.JsText Lib.JsData Oracles.Projections

abbrev SafePath : Type := List JsString

inductive EnvelopeClass where
  | success
  | error
  | unknown
  deriving DecidableEq

inductive TransitionExpectation where
  | change
  | remainStable
  | unknown

inductive EqualityExpectation where
  | equal
  | notEqual

inductive CountOperation where
  | countEquals
  | countGte

inductive ItemInvariant where
  | fieldPresent (itemExpected : Bool)
  | fieldAbsent
  | typeMatch (itemExpectedType : ProjectionNodeType)
  | typeInSet (itemAllowedTypes : List ProjectionNodeType)

structure CollectionItemContract where
  collectionPath : SafePath
  itemInvariant : ItemInvariant
  itemRelativePath : SafePath

inductive InvariantDefinition where
  | fieldPresent (path : SafePath) (expected : Bool)
  | fieldAbsent (path : SafePath)
  | typeMatch (path : SafePath) (expectedType : ProjectionNodeType)
  | typeInSet (path : SafePath) (allowedTypes : List ProjectionNodeType)
  | cardinalityMatch (path : SafePath) (min max exact : Option JsNumber)
  | envelopeClass (expected : EnvelopeClass) (successField errorField : SafePath)
  | identityEqual (leftPath rightPath : SafePath)
  | identityPresentInCollection (collectionPath itemIdentityPath detailIdentityPath : SafePath)
      (correlationContext : JsString)
  | numericSumRelation (relationId : JsString)
      (collectionPath numericFieldPath scalarPath : SafePath)
  | countRelation (relationId : JsString) (operation : CountOperation)
      (collectionPath : SafePath) (scalarPath : Option SafePath) (expectedCount : Option JsNumber)
  | shapeChanged (expectedTransition : TransitionExpectation) (statePath : Option SafePath)
  | collectionItemContract (contract : CollectionItemContract)
  | identityUniqueness (relationId : JsString) (collectionPath itemIdentityPath : SafePath)
  | paginationWindow (relationId : JsString)
      (leftCollectionPath rightCollectionPath itemIdentityPath : SafePath)
  | emptyStateConsistency (relationId : JsString)
      (collectionPath countPath emptyMarkerPath : SafePath)
  | stateRelation (relationId : JsString) (beforePath afterPath : SafePath)
      (expected : EqualityExpectation)
  | surfaceEquivalence (relationId : JsString) (leftPath rightPath : SafePath)
      (expected : EqualityExpectation)

inductive InvariantKind where
  | fieldPresent
  | fieldAbsent
  | typeMatch
  | typeInSet
  | cardinalityMatch
  | envelopeClass
  | identityEqual
  | identityPresentInCollection
  | numericSumRelation
  | countRelation
  | shapeChanged
  | collectionItemContract
  | identityUniqueness
  | paginationWindow
  | emptyStateConsistency
  | stateRelation
  | surfaceEquivalence
  deriving DecidableEq

inductive InvariantVerdict where
  | pass
  | violated
  | notApplicable
  | invalidInput
  deriving DecidableEq

inductive CoverageState where
  | fullyEvaluatedPass
  | violation
  | emptyNotApplicable
  | partialCoverageNoViolation
  | projectionLimitExceeded
  deriving DecidableEq

structure InvariantEvaluation where
  invariantKind : InvariantKind
  verdict : InvariantVerdict
  relationId : Option JsString
  coverageState : Option CoverageState
  inspectedItemCount : Option Nat
  violatingItemCount : Option Nat
  firstViolationOrdinal : Option Nat

def InvariantDefinition.kind : InvariantDefinition → InvariantKind
  | fieldPresent _ _ => .fieldPresent
  | fieldAbsent _ => .fieldAbsent
  | typeMatch _ _ => .typeMatch
  | typeInSet _ _ => .typeInSet
  | cardinalityMatch _ _ _ _ => .cardinalityMatch
  | envelopeClass _ _ _ => .envelopeClass
  | identityEqual _ _ => .identityEqual
  | identityPresentInCollection _ _ _ _ => .identityPresentInCollection
  | numericSumRelation _ _ _ _ => .numericSumRelation
  | countRelation _ _ _ _ _ => .countRelation
  | shapeChanged _ _ => .shapeChanged
  | collectionItemContract _ => .collectionItemContract
  | identityUniqueness _ _ _ => .identityUniqueness
  | paginationWindow _ _ _ _ => .paginationWindow
  | emptyStateConsistency _ _ _ _ => .emptyStateConsistency
  | stateRelation _ _ _ _ => .stateRelation
  | surfaceEquivalence _ _ _ _ => .surfaceEquivalence

/-- `/^[0-9]+$/`. -/
def isIndexSegment (segment : JsString) : Bool := allOf Char.isDigit segment

def resolvePath : ProjectionNode → SafePath → Option ProjectionNode
  | node, [] => some node
  | .array _ _ _ items _, segment :: rest =>
      if isIndexSegment segment then
        (items[decimalValue segment]?).bind fun item => resolvePath item rest
      else none
  | .object _ fields, segment :: rest =>
      (fields.lookup segment).bind fun node => resolvePath node rest
  | _, _ :: _ => none

/-- A resolved node, nothing, or an ambiguous position: a segment of an array that is
empty or that it lies beyond. -/
inductive Resolution where
  | found (node : ProjectionNode)
  | missing
  | ambiguous

def resolvePathWithAmbiguity : ProjectionNode → SafePath → Resolution
  | node, [] => .found node
  | .array _ itemCount _ items _, segment :: rest =>
      if isIndexSegment segment then
        if itemCount = some 0 then .ambiguous
        else
          match items[decimalValue segment]? with
          | some item => resolvePathWithAmbiguity item rest
          | none => .ambiguous
      else .missing
  | .object _ fields, segment :: rest =>
      match fields.lookup segment with
      | some node => resolvePathWithAmbiguity node rest
      | none => .missing
  | _, _ :: _ => .missing

/-- `JSON.stringify` of a name. -/
def jsonEscape (c : Char) : JsString :=
  if c = '"' then "\\\"".toList
  else if c = '\\' then "\\\\".toList
  else if c = '\n' then "\\n".toList
  else if c = '\r' then "\\r".toList
  else if c = '\t' then "\\t".toList
  else if c.toNat = 8 then "\\b".toList
  else if c.toNat = 12 then "\\f".toList
  else if c.toNat < 0x20 then
    "\\u00".toList ++ [(c.toNat / 16).digitChar, (c.toNat % 16).digitChar]
  else [c]

def jsonName (name : JsString) : JsString := '"' :: name.flatMap jsonEscape ++ ['"']

def braced (keys : List JsString) : JsString := '\x7b' :: join ',' keys ++ ['\x7d']

def sortedKeys (keys : List JsString) : List JsString := keys.insertionSort textLe

def arrayKey (itemCount : Option Nat) (keys : List JsString) (arrayTruncated : Option Bool) :
    JsString :=
  "ARRAY[".toList ++ decimal (itemCount.getD 0) ++ ']' :: braced (sortedKeys keys) ++
    (if arrayTruncated = some true then ":truncated".toList else [])

def labelKey (type : String) (key : Option JsString) : JsString :=
  type.toList ++ ':' :: key.getD ['?']

def booleanText (b : Bool) : JsString := if b then "TRUE".toList else "FALSE".toList

mutual

def semanticStateKey : ProjectionNode → JsString
  | .null => "NULL".toList
  | .boolean booleanClass => labelKey "BOOLEAN" (booleanClass.map booleanText)
  | .number numericRef => labelKey "NUMBER" numericRef
  | .string _ identityToken => labelKey "STRING" identityToken
  | .object _ fields => "OBJECT".toList ++ braced (fieldKeys fields)
  | .array _ itemCount _ items arrayTruncated => arrayKey itemCount (itemKeys items) arrayTruncated
  | .unlisted _ itemCount _ arrayTruncated => arrayKey itemCount [] arrayTruncated

def itemKeys : List ProjectionNode → List JsString
  | [] => []
  | item :: rest => semanticStateKey item :: itemKeys rest

def fieldKeys : List (JsString × ProjectionNode) → List JsString
  | [] => []
  | (name, node) :: rest => (jsonName name ++ ':' :: semanticStateKey node) :: fieldKeys rest

end

def arraysEqual (left right : ProjectionNode) : Bool :=
  left.itemCount = right.itemCount &&
    left.arrayTruncated.getD false = right.arrayTruncated.getD false &&
    (left.items.getD []).length = (right.items.getD []).length &&
    sortedKeys (itemKeys (left.items.getD [])) = sortedKeys (itemKeys (right.items.getD []))

mutual

def semanticStateEquals : ProjectionNode → ProjectionNode → Bool
  | .null, .null => true
  | .boolean a, .boolean b => a = b
  | .number a, .number b => a = b
  | .string c a, .string d b => c.getD .nonempty = d.getD .nonempty && a = b
  | .object _ fields, .object _ fields' => fieldsEqual fields fields'
  | left, right => left.type = .array && right.type = .array && arraysEqual left right

def fieldsEqual : List (JsString × ProjectionNode) → List (JsString × ProjectionNode) → Bool
  | [], [] => true
  | (name, node) :: rest, (name', node') :: rest' =>
      name = name' && semanticStateEquals node node' && fieldsEqual rest rest'
  | _, _ => false

end

section Numeric

-- `String(value)` of a number that is not whole is the runtime's.
variable (numberText : ℚ → JsString)

inductive NumericRelationOperation where
  | sumEquals
  | countEquals
  | countGte
  | equal
  | notEqual

inductive NumericRelationResult where
  | isMatch
  | mismatch
  | notApplicable
  | invalidInput
  deriving DecidableEq

def maxScaleDecimals : Nat := 9

/-- `Number.parseInt(text, 10)` of the exponent of a number text. -/
def exponentOf : JsString → ℤ
  | '-' :: digits => -decimalValue digits
  | '+' :: digits => decimalValue digits
  | digits => decimalValue digits

def mantissaDecimals (mantissa : JsString) : Nat :=
  match splitFirst '.' mantissa with
  | some (_, decimals) => decimals.length
  | none => 0

def decimalPlaces : JsNumber → Nat
  | .finite q =>
      if q.den = 1 then 0
      else
        match splitFirst 'e' (numberText q) with
        | some (mantissa, exponent) => (mantissaDecimals mantissa - exponentOf exponent).toNat
        | none => mantissaDecimals (numberText q)
  | _ => 0

/-- `Math.round(value * scale)`, where that is a safe integer. -/
def scaledInteger (scale : Nat) : JsNumber → Option ℤ
  | .finite q =>
      match JsNumber.ofRat (q * scale) with
      | .finite scaled =>
          if ⌊scaled + 1 / 2⌋.natAbs ≤ 2 ^ 53 - 1 then some ⌊scaled + 1 / 2⌋ else none
      | _ => none
  | _ => none

def scaledIntegers (scale : Nat) : List JsNumber → Option (List ℤ)
  | [] => some []
  | value :: rest => do
      let scaled ← scaledInteger scale value
      let more ← scaledIntegers scale rest
      return scaled :: more

def maxPlaces (operands : List JsNumber) : Nat :=
  (operands.map (decimalPlaces numberText)).foldl max 0

def matchIf (holds : Bool) : NumericRelationResult := if holds then .isMatch else .mismatch

def evaluateCount (gte : Bool) : List JsNumber → NumericRelationResult
  | [count, bound] =>
      if !count.isSafeInteger || !bound.isFinite then .invalidInput
      else if !bound.isInteger then .invalidInput
      else matchIf (if gte then count.ge bound else count = bound)
  | _ => .invalidInput

def evaluateSum (operands : List JsNumber) : NumericRelationResult :=
  if operands.length < 1 then .invalidInput
  else if operands.any fun value => !value.isFinite then .invalidInput
  else if maxScaleDecimals < maxPlaces numberText operands then .invalidInput
  else
    match scaledIntegers (10 ^ maxPlaces numberText operands) operands with
    | none => .invalidInput
    | some scaled =>
        matchIf ((scaled.dropLast.foldl (fun acc value => JsNumber.add acc (.finite value)) (.ofNat 0)) =
          .finite (scaled.getLastD 0))

def evaluateEqual (expected : Bool) : List JsNumber → NumericRelationResult
  | [left, right] =>
      if !left.isFinite || !right.isFinite then .invalidInput
      else if maxScaleDecimals < maxPlaces numberText [left, right] then .invalidInput
      else
        match scaledIntegers (10 ^ maxPlaces numberText [left, right]) [left, right] with
        | some [scaledLeft, scaledRight] => matchIf (decide (scaledLeft = scaledRight) = expected)
        | _ => .invalidInput
  | _ => .invalidInput

def evaluateNumericRelation (operation : NumericRelationOperation) (operands : List JsNumber) :
    NumericRelationResult :=
  match operation with
  | .countEquals => evaluateCount false operands
  | .countGte => evaluateCount true operands
  | .sumEquals => evaluateSum numberText operands
  | .equal => evaluateEqual numberText true operands
  | .notEqual => evaluateEqual numberText false operands

end Numeric

section Evaluation

variable (numberText : ℚ → JsString)

def InvariantEvaluation.of (kind : InvariantKind) (verdict : InvariantVerdict)
    (relationId : Option JsString) : InvariantEvaluation :=
  ⟨kind, verdict, relationId, none, none, none, none⟩

def passIf (holds : Bool) : InvariantVerdict := if holds then .pass else .violated

def fieldPresentVerdict (path : SafePath) (expected : Bool) :
    Option ProjectionNode → InvariantVerdict
  | none => .notApplicable
  | some root =>
      match resolvePathWithAmbiguity root path with
      | .ambiguous => .notApplicable
      | .found _ => passIf expected
      | .missing => passIf (!expected)

def fieldAbsentVerdict (path : SafePath) : Option ProjectionNode → InvariantVerdict
  | none => .notApplicable
  | some root =>
      match resolvePathWithAmbiguity root path with
      | .ambiguous => .notApplicable
      | .found _ => .violated
      | .missing => .pass

def typeVerdict (path : SafePath) (allowed : ProjectionNodeType → Bool) :
    Option ProjectionNode → InvariantVerdict
  | none => .notApplicable
  | some root =>
      match resolvePathWithAmbiguity root path with
      | .found node => passIf (allowed node.type)
      | .missing | .ambiguous => .notApplicable

def arrayAt (root : ProjectionNode) (path : SafePath) : Option ProjectionNode :=
  (resolvePath root path).filter fun node => node.type = .array

def cardinalityVerdict (count : JsNumber) (min max exact : Option JsNumber) : InvariantVerdict :=
  passIf (!(min.any fun bound => count.lt bound) && !(max.any fun bound => bound.lt count) &&
    !(exact.any fun value => count ≠ value))

def classifyEnvelope (root : ProjectionNode) (successField errorField : SafePath) : EnvelopeClass :=
  match (resolvePath root successField).isSome, (resolvePath root errorField).isSome with
  | true, false => .success
  | false, true => .error
  | _, _ => .unknown

def envelopeVerdict (expected observed : EnvelopeClass) : InvariantVerdict :=
  if expected = .unknown || observed = .unknown then .notApplicable
  else passIf (observed = expected)

def itemShapeTokens (item : ProjectionNode) (identityPath : SafePath) : Option JsString :=
  match resolvePath item identityPath with
  | some (.string _ identityToken) => identityToken
  | _ => none

def numberValue (ctx : ProjectionContext) : Option ProjectionNode → Option ℚ
  | some (.number (some numericRef)) => ctx.numericValue numericRef
  | _ => none

def ofEveryItem {α : Type} (read : ProjectionNode → Option α) : List ProjectionNode → Option (List α)
  | [] => some []
  | item :: rest => do
      let x ← read item
      let xs ← ofEveryItem read rest
      return x :: xs

def collectionIdentityTokens (node : Option ProjectionNode) (identityPath : SafePath) :
    Option (List JsString) :=
  match node.bind ProjectionNode.items with
  | none | some [] => none
  | some (item :: rest) => ofEveryItem (itemShapeTokens · identityPath) (item :: rest)

def membershipVerdict (list detail : ProjectionNode)
    (collectionPath itemIdentityPath detailIdentityPath : SafePath) : InvariantVerdict :=
  match arrayAt list collectionPath with
  | none => .notApplicable
  | some collection =>
      match collection.items with
      | none => .notApplicable
      | some items =>
          if collection.arrayTruncated = some true || items.length = 0 then .notApplicable
          else
            match itemShapeTokens detail detailIdentityPath,
                ofEveryItem (itemShapeTokens · itemIdentityPath) items with
            | some detailIdentity, some memberTokens => passIf (detailIdentity ∈ memberTokens)
            | _, _ => .notApplicable

def sumVerdict (ctx : ProjectionContext) (root : ProjectionNode)
    (collectionPath numericFieldPath scalarPath : SafePath) : InvariantVerdict :=
  match arrayAt root collectionPath with
  | none => .notApplicable
  | some collection =>
      match collection.items with
      | none => .notApplicable
      | some items =>
          if collection.arrayTruncated = some true then .notApplicable
          else
            match numberValue ctx (resolvePath root scalarPath),
                ofEveryItem (fun item => numberValue ctx (resolvePath item numericFieldPath)) items with
            | some scalar, some amounts =>
                match evaluateNumericRelation numberText .sumEquals
                    ((amounts ++ [scalar]).map .finite) with
                | .isMatch => .pass
                | .mismatch => .violated
                | .invalidInput => .invalidInput
                | .notApplicable => .notApplicable
            | _, _ => .notApplicable

def countBound (ctx : ProjectionContext) (root : ProjectionNode) (scalarPath : Option SafePath)
    (expectedCount : Option JsNumber) : Option JsNumber :=
  match expectedCount with
  | some bound => some bound
  | none => (scalarPath.bind fun path => numberValue ctx (resolvePath root path)).map .finite

def CountOperation.relation : CountOperation → NumericRelationOperation
  | .countEquals => .countEquals
  | .countGte => .countGte

def countVerdict (ctx : ProjectionContext) (root : ProjectionNode) (operation : CountOperation)
    (collectionPath : SafePath) (scalarPath : Option SafePath) (expectedCount : Option JsNumber) :
    InvariantVerdict :=
  match (arrayAt root collectionPath).bind ProjectionNode.itemCount,
      countBound ctx root scalarPath expectedCount with
  | some count, some bound =>
      match evaluateNumericRelation numberText operation.relation [.ofNat count, bound] with
      | .isMatch => .pass
      | .mismatch => .violated
      | _ => .invalidInput
  | _, _ => .notApplicable

def shapeChangedVerdict (expectedTransition : TransitionExpectation) (statePath : Option SafePath)
    (before after : ProjectionNode) : InvariantVerdict :=
  match resolvePath before (statePath.getD []), resolvePath after (statePath.getD []) with
  | some left, some right =>
      match expectedTransition with
      | .unknown => .notApplicable
      | .change => passIf !(semanticStateEquals left right)
      | .remainStable => passIf (semanticStateEquals left right)
  | _, _ => .notApplicable

def equalityVerdict (equal : Bool) : EqualityExpectation → InvariantVerdict
  | .equal => passIf equal
  | .notEqual => passIf !equal

def relationVerdict (left right : Option ProjectionNode) (expected : EqualityExpectation) :
    InvariantVerdict :=
  match left, right with
  | some left, some right => equalityVerdict (semanticStateEquals left right) expected
  | _, _ => .notApplicable

def uniquenessVerdict (tokens : Option (List JsString)) : InvariantVerdict :=
  match tokens with
  | some tokens => passIf (tokens.dedup.length = tokens.length)
  | none => .notApplicable

def windowVerdict (leftTokens rightTokens : Option (List JsString)) : InvariantVerdict :=
  match leftTokens, rightTokens with
  | some left, some right => passIf !(right.any fun token => token ∈ left)
  | _, _ => .notApplicable

def emptyStateVerdict (ctx : ProjectionContext) (root : ProjectionNode)
    (collectionPath countPath emptyMarkerPath : SafePath) : InvariantVerdict :=
  match (arrayAt root collectionPath).bind ProjectionNode.itemCount,
      numberValue ctx (resolvePath root countPath), resolvePath root emptyMarkerPath with
  | some itemCount, some count, some (.boolean (some observedEmpty)) =>
      if count.den ≠ 1 || count < 0 then .invalidInput
      else passIf (count = itemCount && (decide (count = 0) = observedEmpty) &&
        decide (count = 0) = decide (itemCount = 0))
  | _, _, _ => .notApplicable

def itemVerdict (contract : CollectionItemContract) (item : ProjectionNode) : InvariantVerdict :=
  match contract.itemInvariant with
  | .fieldPresent expected => fieldPresentVerdict contract.itemRelativePath expected (some item)
  | .fieldAbsent => fieldAbsentVerdict contract.itemRelativePath (some item)
  | .typeMatch expectedType =>
      typeVerdict contract.itemRelativePath (· = expectedType) (some item)
  | .typeInSet allowedTypes =>
      typeVerdict contract.itemRelativePath (· ∈ allowedTypes) (some item)

def violatingItems (contract : CollectionItemContract) (items : List ProjectionNode) : Nat :=
  items.countP fun item => itemVerdict contract item = .violated

def uncovered : InvariantEvaluation :=
  ⟨.collectionItemContract, .notApplicable, none, some .emptyNotApplicable, none, none, none⟩

def evaluateItems (contract : CollectionItemContract) (truncated : Bool)
    (items : List ProjectionNode) : InvariantEvaluation :=
  if 0 < violatingItems contract items then
    ⟨.collectionItemContract, .violated, none, some .violation, some items.length,
      some (violatingItems contract items),
      items.findIdx? fun item => itemVerdict contract item = .violated⟩
  else if truncated then
    ⟨.collectionItemContract, .pass, none, some .partialCoverageNoViolation, some items.length,
      some 0, none⟩
  else
    ⟨.collectionItemContract, .pass, none, some .fullyEvaluatedPass, some items.length, some 0,
      none⟩

def evaluateCollection (contract : CollectionItemContract) (root : ProjectionNode) :
    InvariantEvaluation :=
  match arrayAt root contract.collectionPath with
  | none => uncovered
  | some collection =>
      if collection.itemCount = some 0 || (collection.items.getD []).length = 0 then uncovered
      else
        evaluateItems contract (collection.arrayTruncated = some true) (collection.items.getD [])

def onFirst (projections : List ProjectionNode) (verdict : ProjectionNode → InvariantVerdict) :
    InvariantVerdict :=
  match projections[0]? with
  | some root => verdict root
  | none => .notApplicable

def onBoth (projections : List ProjectionNode)
    (verdict : ProjectionNode → ProjectionNode → InvariantVerdict) : InvariantVerdict :=
  match projections[0]?, projections[1]? with
  | some left, some right => verdict left right
  | _, _ => .notApplicable

def evaluateInvariant (ctx : ProjectionContext) (projections : List ProjectionNode)
    (invariant : InvariantDefinition) : InvariantEvaluation :=
  match invariant with
  | .fieldPresent path expected =>
      .of .fieldPresent (fieldPresentVerdict path expected projections[0]?) none
  | .fieldAbsent path => .of .fieldAbsent (fieldAbsentVerdict path projections[0]?) none
  | .typeMatch path expectedType =>
      .of .typeMatch (typeVerdict path (· = expectedType) projections[0]?) none
  | .typeInSet path allowedTypes =>
      .of .typeInSet (typeVerdict path (· ∈ allowedTypes) projections[0]?) none
  | .cardinalityMatch path min max exact =>
      .of .cardinalityMatch (onFirst projections fun root =>
        match (arrayAt root path).bind ProjectionNode.itemCount with
        | some count => cardinalityVerdict (.ofNat count) min max exact
        | none => .notApplicable) none
  | .envelopeClass expected successField errorField =>
      .of .envelopeClass (onFirst projections fun root =>
        envelopeVerdict expected (classifyEnvelope root successField errorField)) none
  | .identityEqual leftPath rightPath =>
      .of .identityEqual (onFirst projections fun root =>
        match itemShapeTokens root leftPath, itemShapeTokens root rightPath with
        | some left, some right => passIf (left = right)
        | _, _ => .notApplicable) none
  | .identityPresentInCollection collectionPath itemIdentityPath detailIdentityPath _ =>
      .of .identityPresentInCollection (onBoth projections fun list detail =>
        membershipVerdict list detail collectionPath itemIdentityPath detailIdentityPath) none
  | .numericSumRelation relationId collectionPath numericFieldPath scalarPath =>
      -- the relation id is reported once there was something to compare
      let verdict := onFirst projections fun root =>
        sumVerdict numberText ctx root collectionPath numericFieldPath scalarPath
      .of .numericSumRelation verdict (if verdict = .notApplicable then none else some relationId)
  | .countRelation relationId operation collectionPath scalarPath expectedCount =>
      let verdict := onFirst projections fun root =>
        countVerdict numberText ctx root operation collectionPath scalarPath expectedCount
      .of .countRelation verdict (if verdict = .notApplicable then none else some relationId)
  | .shapeChanged expectedTransition statePath =>
      .of .shapeChanged (onBoth projections (shapeChangedVerdict expectedTransition statePath)) none
  | .collectionItemContract contract =>
      match projections[0]? with
      | some root => evaluateCollection contract root
      | none => uncovered
  | .identityUniqueness relationId collectionPath itemIdentityPath =>
      .of .identityUniqueness (onFirst projections fun root => uniquenessVerdict
        (collectionIdentityTokens (resolvePath root collectionPath) itemIdentityPath))
        (some relationId)
  | .paginationWindow relationId leftCollectionPath rightCollectionPath itemIdentityPath =>
      .of .paginationWindow (onBoth projections fun left right => windowVerdict
        (collectionIdentityTokens (resolvePath left leftCollectionPath) itemIdentityPath)
        (collectionIdentityTokens (resolvePath right rightCollectionPath) itemIdentityPath))
        (some relationId)
  | .emptyStateConsistency relationId collectionPath countPath emptyMarkerPath =>
      .of .emptyStateConsistency (onFirst projections fun root =>
        emptyStateVerdict ctx root collectionPath countPath emptyMarkerPath) (some relationId)
  | .stateRelation relationId beforePath afterPath expected =>
      .of .stateRelation (onBoth projections fun before after =>
        relationVerdict (resolvePath before beforePath) (resolvePath after afterPath) expected)
        (some relationId)
  | .surfaceEquivalence relationId leftPath rightPath expected =>
      .of .surfaceEquivalence (onBoth projections fun left right =>
        relationVerdict (resolvePath left leftPath) (resolvePath right rightPath) expected)
        (some relationId)

def buildItemInvariant (contract : CollectionItemContract) : InvariantDefinition :=
  match contract.itemInvariant with
  | .fieldPresent expected => .fieldPresent contract.itemRelativePath expected
  | .fieldAbsent => .fieldAbsent contract.itemRelativePath
  | .typeMatch expectedType => .typeMatch contract.itemRelativePath expectedType
  | .typeInSet allowedTypes => .typeInSet contract.itemRelativePath allowedTypes

theorem itemVerdict_eq (ctx : ProjectionContext) (contract : CollectionItemContract)
    (item : ProjectionNode) : itemVerdict contract item =
      (evaluateInvariant numberText ctx [item] (buildItemInvariant contract)).verdict := by
  rw [itemVerdict, buildItemInvariant]
  cases contract.itemInvariant with
  | fieldPresent expected => rfl
  | fieldAbsent => rfl
  | typeMatch expectedType => rfl
  | typeInSet allowedTypes => rfl

end Evaluation

end NightWatch.Oracles.Invariants
