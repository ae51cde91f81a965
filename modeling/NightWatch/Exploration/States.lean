import NightWatch.Lib.Guard
import NightWatch.Lib.JsData

namespace NightWatch.Exploration.States

open Lib.JsText Lib.JsData

inductive SafeScalar where
  | text (s : JsString)
  | number (n : JsNumber)
  | flag (b : Bool)
  deriving DecidableEq

/-- `a === b` on scalars: `NaN` equals nothing. -/
def SafeScalar.strictEq : SafeScalar → SafeScalar → Bool
  | .number .nan, _ | _, .number .nan => false
  | a, b => a = b

abbrev SafeScalarMap : Type := List (JsString × SafeScalar)

inductive SemanticClass where
  | knownRead
  | localOnly
  | other (name : JsString)
  deriving DecidableEq

inductive ActionStatus where
  | approved
  | stale
  | reviewRequired
  deriving DecidableEq

structure ActionPreconditions where
  routeClasses : List JsString
  requiredStructuralFlags : Option (List (JsString × Bool))
  requiredSafeViewState : Option SafeScalarMap
  forbiddenSafeViewState : Option SafeScalarMap
  deriving DecidableEq

structure SafeAction where
  actionId : JsString
  preconditions : ActionPreconditions
  semanticClass : SemanticClass
  expectedRouteClass : JsString
  expectedStructuralDelta : SafeScalarMap
  expectedReadFamilies : List JsString
  status : ActionStatus
  deriving DecidableEq

structure ExplorationEnvelope where
  allowedRoutes : List JsString
  allowedActionIds : List JsString
  maxActionsPerSequence : JsNumber
  maxDepth : JsNumber
  maxTransitions : JsNumber
  maxStateVisits : JsNumber
  maxTransitionVisits : JsNumber

structure ExplorationBudget where
  maxActionsPerSequence : JsNumber
  maxDepth : JsNumber
  maxStates : JsNumber
  maxTransitions : JsNumber
  maxRuntimeMs : JsNumber

/-- `Math.min(a, b)`. -/
def jsMin : JsNumber → JsNumber → JsNumber
  | .nan, _ | _, .nan => .nan
  | a, b => if a.lt b then a else b

section States

inductive AuthStateClass where
  | authenticatedDev
  | authInvalid
  | unknown
  | other (name : JsString)
  deriving DecidableEq

structure ExplorationStateInput where
  product : JsString
  surface : JsString
  routeClass : JsString
  structuralFlags : List (JsString × Bool)
  safeViewState : SafeScalarMap
  availableActionIds : List JsString
  semanticReadFamilies : List JsString
  authStateClass : AuthStateClass
  terminalFlags : List (JsString × Bool)
  deriving DecidableEq

structure ExplorationState where
  identity : ExplorationStateInput
  stateId : JsString
  deriving DecidableEq

def forbiddenStateTokens : List String :=
  ["customer", "account", "resource", "cost", "body", "response", "request", "cookie", "token",
    "secret", "html", "dom", "text", "name"]

def includesWord (s : JsString) (word : String) : Bool :=
  includes (s.map Char.toLower) word.toList

/-- `_`, `.`, `-` and what comes with them. -/
def isNameChar (extra : String) (c : Char) : Bool := c.isAlphanum || c ∈ extra.toList

def isStateKey : JsString → Bool
  | [] => false
  | first :: rest => first.isAlpha && rest.length ≤ 63 && rest.all (isNameChar "_.-")

def refuseIf (condition : Bool) (message : String) : Except String Unit :=
  if condition then .error message else .ok ()

def assertSafeKey (key : JsString) : Except String Unit := do
  refuseIf (forbiddenStateTokens.any (includesWord key))
    ("privacy-unsafe state key: " ++ String.ofList key)
  refuseIf (!isStateKey key) ("non-canonical state key: " ++ String.ofList key)

def assertSafeScalar (path : String) : SafeScalar → Except String Unit
  | .text s => do
      refuseIf (80 < utf16Length s || '\r' ∈ s || '\n' ∈ s) ("privacy-unsafe state value: " ++ path)
      refuseIf (!upTo 80 (isNameChar "_.:-") s) ("non-canonical state value: " ++ path)
  | _ => .ok ()

def assertSafeEntry (path : String) (entry : JsString × SafeScalar) : Except String Unit := do
  assertSafeKey entry.1
  assertSafeScalar (path ++ "." ++ String.ofList entry.1) entry.2

def isRouteClass : JsString → Bool
  | '/' :: rest => rest.all (isNameChar "._~!$&'()*+,;=:@%/-")
  | _ => false

def assertPrivacySafeStateInput (input : ExplorationStateInput) : Except String Unit := do
  refuseIf (input.product ≠ "ripple".toList) "Phase 4 state product must be Ripple"
  refuseIf (!isRouteClass input.routeClass)
    "state routeClass must be a sanitized approved route class"
  refuseIf (80 < utf16Length input.surface || !allOf (isNameChar "_.-") input.surface)
    "state surface must be a sanitized surface enum"
  NightWatch.Lib.Guard.forEach assertSafeKey (input.structuralFlags.map Prod.fst)
  NightWatch.Lib.Guard.forEach assertSafeKey (input.terminalFlags.map Prod.fst)
  NightWatch.Lib.Guard.forEach (assertSafeEntry "safeViewState") input.safeViewState
  refuseIf (!input.availableActionIds.all (upTo 120 (isNameChar "_.-")))
    "state action availability is not canonical"
  refuseIf (!input.semanticReadFamilies.all (upTo 120 (isNameChar "_.:-")))
    "state semantic family is not canonical"
  refuseIf (input.authStateClass ∉ [.authenticatedDev, .authInvalid, .unknown])
    "state auth class is not canonical"

/-- `Object.keys(map).sort()` with what stands under each key. -/
def sortedMap {α : Type} (map : List (JsString × α)) : List (JsString × α) :=
  map.insertionSort fun left right => textLe left.1 right.1

/-- `[...new Set(texts)].sort()`. -/
def sortedSet (texts : List JsString) : List JsString := texts.dedup.insertionSort textLe

def stateIdentityInput (input : ExplorationStateInput) : Except String ExplorationStateInput := do
  assertPrivacySafeStateInput input
  return {
    product := input.product
    surface := input.surface
    routeClass := input.routeClass
    structuralFlags := sortedMap input.structuralFlags
    safeViewState := sortedMap input.safeViewState
    availableActionIds := sortedSet input.availableActionIds
    semanticReadFamilies := sortedSet input.semanticReadFamilies
    authStateClass := input.authStateClass
    terminalFlags := sortedMap input.terminalFlags }

-- The hexadecimal digest of the canonical JSON of an identity.
variable (stateHash : ExplorationStateInput → JsString)

def createExplorationState (input : ExplorationStateInput) : Except String ExplorationState := do
  let identity ← stateIdentityInput input
  return ⟨identity, "state_".toList ++ stateHash identity⟩

end States

end NightWatch.Exploration.States
