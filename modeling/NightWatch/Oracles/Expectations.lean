import NightWatch.Oracles.Semantic

namespace NightWatch.Oracles.Expectations

open Lib.JsText Lib.JsData Oracles.Projections Oracles.Invariants Oracles.Semantic

def maxPathSegments : Nat := 16

def maxPathSegmentLength : Nat := 128

/-- `^(?:[0-9]|[1-9][0-9]{1,2})$`. -/
def isArrayIndex (segment : JsString) : Bool :=
  isIndexSegment segment && segment.length ≤ 3 && (segment.length = 1 || segment.head? ≠ some '0')

def isSafeSegment (segment : JsString) : Bool :=
  segment ≠ [] && utf16Length segment ≤ maxPathSegmentLength &&
    !(includes segment "*".toList || includes segment "..".toList ||
      includes segment "$".toList || includes segment "/".toList) &&
    segment ∉ forbiddenFieldNames && (!isIndexSegment segment || isArrayIndex segment)

/-- `validateSafePath` accepts the path. -/
def isSafePath (path : SafePath) : Bool :=
  path.length ≤ maxPathSegments && path.all isSafeSegment

def isPlainId : JsString → Bool
  | [] => false
  | first :: rest =>
      first.isAlphanum && rest.length ≤ 199 &&
        rest.all fun c => c.isAlphanum || c ∈ "._:/-".toList

theorem length_of_isPlainId {id : JsString} (h : isPlainId id = true) :
    id ≠ [] ∧ utf16Length id ≤ 200 := by
  cases id with
  | nil => contradiction
  | cons first rest =>
      rw [isPlainId, Bool.and_eq_true, Bool.and_eq_true, decide_eq_true_eq, List.all_eq_true] at h
      obtain ⟨⟨hfirst, hlength⟩, hrest⟩ := h
      refine ⟨List.cons_ne_nil _ _, ?_⟩
      have hbasic : ∀ c ∈ first :: rest, c.toNat < 0x10000 := by
        have halnum (c : Char) (hc : c.isAlphanum = true) : c.toNat < 0x10000 := by
          simp only [Char.isAlphanum, Char.isAlpha, Char.isUpper, Char.isLower, Char.isDigit,
            Bool.or_eq_true, Bool.and_eq_true, decide_eq_true_eq, UInt32.le_iff_toNat_le] at hc
          rw [Char.toNat]
          rcases hc with (⟨-, hc⟩ | ⟨-, hc⟩) | ⟨-, hc⟩
          · exact lt_of_le_of_lt hc (by decide)
          · exact lt_of_le_of_lt hc (by decide)
          · exact lt_of_le_of_lt hc (by decide)
        intro c hc
        rcases List.mem_cons.mp hc with rfl | hc
        · exact halnum c hfirst
        · rcases Bool.or_eq_true_iff.mp (hrest c hc) with hc | hc
          · exact halnum c hc
          · have hmarks : ∀ mark ∈ "._:/-".toList, mark.toNat < 0x10000 := by decide
            exact hmarks c (of_decide_eq_true hc)
      rw [utf16Length_of_basic hbasic, List.length_cons]
      omega

def maxBoundedCount : Nat := 1000000

/-- `expectBoundedCount`. -/
def isBoundedCount (n : JsNumber) : Bool :=
  n.isInteger && n.ge (.ofNat 0) && !(JsNumber.ofNat maxBoundedCount).lt n

def maxTypeSetSize : Nat := 6

def isTypeSet (types : List ProjectionNodeType) : Bool :=
  types ≠ [] && types.length ≤ maxTypeSetSize && inNameOrder (types.map typeName)

def isCardinality (min max exact : Option JsNumber) : Bool :=
  [min, max, exact].all (·.all isBoundedCount) &&
    (min.isSome || max.isSome || exact.isSome) &&
    !(min.any fun lo => max.any fun hi => hi.lt lo) &&
    !(exact.any fun n => min.any (fun lo => n.lt lo) || max.any fun hi => hi.lt n)

def isItemInvariant : ItemInvariant → Bool
  | .typeInSet itemAllowedTypes => isTypeSet itemAllowedTypes
  | _ => true

/-- `validateInvariant` accepts the invariant as it stands. -/
def isInvariant : InvariantDefinition → Bool
  | .fieldPresent path _ | .fieldAbsent path | .typeMatch path _ => isSafePath path
  | .typeInSet path allowedTypes => isSafePath path && isTypeSet allowedTypes
  | .cardinalityMatch path min max exact => isSafePath path && isCardinality min max exact
  | .envelopeClass _ successField errorField => isSafePath successField && isSafePath errorField
  | .identityEqual leftPath rightPath => isSafePath leftPath && isSafePath rightPath
  | .identityPresentInCollection collectionPath itemIdentityPath detailIdentityPath
      correlationContext =>
      isSafePath collectionPath && isSafePath itemIdentityPath && isSafePath detailIdentityPath &&
        correlationContext ≠ []
  | .numericSumRelation relationId collectionPath numericFieldPath scalarPath =>
      isPlainId relationId && isSafePath collectionPath && isSafePath numericFieldPath &&
        isSafePath scalarPath
  | .countRelation relationId _ collectionPath scalarPath expectedCount =>
      -- exactly one of the two says what the count is compared with
      isPlainId relationId && isSafePath collectionPath &&
        (scalarPath.isSome != expectedCount.isSome) && scalarPath.all isSafePath &&
        expectedCount.all isBoundedCount
  | .shapeChanged _ statePath => statePath.all isSafePath
  | .collectionItemContract contract =>
      isSafePath contract.collectionPath && isSafePath contract.itemRelativePath &&
        contract.itemRelativePath ≠ [] && isItemInvariant contract.itemInvariant
  | .identityUniqueness relationId collectionPath itemIdentityPath =>
      isPlainId relationId && isSafePath collectionPath && isSafePath itemIdentityPath &&
        itemIdentityPath ≠ []
  | .paginationWindow relationId leftCollectionPath rightCollectionPath itemIdentityPath =>
      isPlainId relationId && isSafePath leftCollectionPath && isSafePath rightCollectionPath &&
        isSafePath itemIdentityPath && itemIdentityPath ≠ []
  | .emptyStateConsistency relationId collectionPath countPath emptyMarkerPath =>
      isPlainId relationId && isSafePath collectionPath && isSafePath countPath &&
        isSafePath emptyMarkerPath
  | .stateRelation relationId beforePath afterPath _ =>
      isPlainId relationId && isSafePath beforePath && isSafePath afterPath
  | .surfaceEquivalence relationId leftPath rightPath _ =>
      isPlainId relationId && isSafePath leftPath && isSafePath rightPath

def maxInvariantsPerExpectation : Nat := 32

def isSourceProvenance (provenance : SourceProvenance) : Bool :=
  provenance.repoId ≠ [] && provenance.sha.length = 40 && provenance.sha.all isHexDigit &&
    provenance.relativePath ≠ [] && !startsWith provenance.relativePath ['/'] &&
    !includes provenance.relativePath "..".toList && '\\' ∉ provenance.relativePath &&
    provenance.derivationVersion ≠ [] && provenance.symbol.all (· ≠ []) &&
    provenance.evidenceDigest.all (isDigestId "ev")

/-- `validateExpectation` accepts the expectation as it stands. -/
structure ValidExpectation (expectation : SemanticExpectation) : Prop where
  expectationId : isPlainId expectation.expectationId = true
  targetId : expectation.targetId ≠ []
  sourceProvenance : isSourceProvenance expectation.sourceProvenance = true
  nonempty : expectation.invariantDefinitions ≠ []
  bounded : expectation.invariantDefinitions.length ≤ maxInvariantsPerExpectation
  invariants : ∀ invariant ∈ expectation.invariantDefinitions, isInvariant invariant = true

end NightWatch.Oracles.Expectations
