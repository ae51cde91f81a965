import NightWatch.Source.EffectVocabulary
import NightWatch.Source.PhpTokens

/-!
The bounded effect closure: from the functions a route enters, through the functions that
they call in their own files, to the effect kinds of the calls met on the way.
-/

namespace NightWatch.Source.EffectClosure

open Lib.JsText PhpTokens EffectVocabulary

inductive PhpClosureRejectionCode where
  | sourceUnavailable | sourceUnsupported | symbolMissing | symbolAmbiguous
  | dynamicDispatch | calleeUnclassified | depthOverflow | declarationBudget
  | callsiteBudget | fileBudget | tokenBudget | noEntrypoint

inductive PhpEffectClosureState where
  | pureReadProven | effectful | ambiguous
  deriving DecidableEq

inductive PhpClosureEntrypointRole where
  | middleware | handler

structure PhpClosureEntrypoint where
  relativePath : JsString
  symbol : JsString
  role : PhpClosureEntrypointRole

/-- `PhpClosureSourceResolver`: the text of a file, or `null`. -/
abbrev SourceResolver := JsString → Option JsString

structure FileFacts where
  tokens : List PhpToken
  /-- The names declared in this file, once for each declaration. -/
  declared : List JsString
  declaresDynamicMember : Bool

/-- `declarations.get(name) ?? 0`. -/
def FileFacts.declarations (facts : FileFacts) (name : JsString) : Nat :=
  facts.declared.count name

structure WorkItem where
  relativePath : JsString
  symbol : JsString
  depth : Nat

def visitKey (relativePath symbol : JsString) : JsString := relativePath ++ '#' :: symbol

def WorkItem.key (item : WorkItem) : JsString := visitKey item.relativePath item.symbol

def isCallOpen (token : Option PhpToken) : Bool := token = some (.punct "(".toList)

/-- The names that follow the word `function`. -/
def declaredNames : List PhpToken → List JsString
  | .word w :: .word name :: rest =>
      if w = functionWord then name :: declaredNames (.word name :: rest)
      else declaredNames (.word name :: rest)
  | _ :: rest => declaredNames rest
  | [] => []

def fileFacts (tokens : List PhpToken) : FileFacts where
  tokens := tokens
  declared := declaredNames tokens
  declaresDynamicMember := (declaredNames tokens).any (· ∈ phpDynamicDispatchMembers)

/-- `tokens[index - 1]`. -/
def previousToken (tokens : List PhpToken) : Nat → Option PhpToken
  | 0 => none
  | index + 1 => tokens[index]?

def isMember (tokens : List PhpToken) (index : Nat) : Bool :=
  previousToken tokens index = some (.op "->".toList) ∨
    previousToken tokens index = some (.op "::".toList)

def isConstruction (tokens : List PhpToken) (index : Nat) : Bool :=
  previousToken tokens index = some (.word "new".toList)

def isVariable : PhpToken → Bool
  | .variable _ => true
  | _ => false

def isDynamicAccess (tokens : List PhpToken) (index : Nat) (token : PhpToken) : Bool :=
  (isMember tokens index && (isVariable token || token = .punct "\x7b".toList)) ||
    (!isMember tokens index && isVariable token && isCallOpen tokens[index + 1]?)

structure Callsite where
  scope : PhpCalleeScope
  construction : Bool
  name : JsString
  deriving DecidableEq

/-- The call whose callee is named at `index`: an identifier before an opening parenthesis, neither
a declaration's own name nor a control structure. -/
def callsiteAt (tokens : List PhpToken) (index : Nat) : Option Callsite :=
  match tokens[index]? with
  | some (.word name) =>
      if isCallOpen tokens[index + 1]? = false then none
      else if previousToken tokens index = some (.word functionWord) then none
      else if isMember tokens index = false ∧ isConstruction tokens index = false ∧
          isPhpControlConstruct name = true then none
      else some {
        scope :=
          if isMember tokens index || isConstruction tokens index then .method else .function
        construction := isConstruction tokens index
        name := name }
  | _ => none

/-- `new X`, or the name alone. -/
def Callsite.identifier (site : Callsite) : JsString :=
  if site.construction then "new ".toList ++ site.name else site.name

def Callsite.isDynamic (site : Callsite) : Bool :=
  !site.construction && isPhpDynamicDispatchCallee site.name site.scope

def Callsite.kind (site : Callsite) : EffectKind :=
  if site.construction then .unclassified else phpCalleeEffectKind site.name site.scope

inductive Verdict where
  | dynamic
  | classified (kind : EffectKind)
  | follow
  | unknown

def verdict (facts : FileFacts) (site : Callsite) : Verdict :=
  if site.isDynamic then .dynamic
  else if site.kind ≠ .unclassified then .classified site.kind
  else if site.construction = false ∧ facts.declarations site.name = 1 then .follow
  else .unknown

structure Walk where
  effectCounts : List EffectKind
  disqualifying : List EffectKind
  distinctCallees : List (PhpCalleeScope × JsString)
  unclassified : List (PhpCalleeScope × JsString)
  visited : List JsString
  files : List (JsString × Option FileFacts)
  rejectionCode : Option PhpClosureRejectionCode
  maxDepthReached : Nat
  callsites : Nat
  tokenBudget : Nat
  queue : List WorkItem

namespace Walk

def refuse (s : Walk) (code : PhpClosureRejectionCode) : Walk :=
  { s with rejectionCode := s.rejectionCode.orElse fun _ => some code }

/-- `effectCounts` holds each recorded kind once for each time. -/
def record (s : Walk) (kind : EffectKind) : Walk :=
  { s with
    effectCounts := s.effectCounts ++ [kind]
    disqualifying :=
      if kind.policy = .disqualifying then s.disqualifying.insert kind else s.disqualifying }

def cache (s : Walk) (relativePath : JsString) (facts : Option FileFacts) : Walk :=
  { s with files := s.files ++ [(relativePath, facts)] }

def push (s : Walk) (item : WorkItem) : Walk := { s with queue := s.queue ++ [item] }

end Walk

/-- A file is read once; one that is refused stays `null`. -/
def loadFile (resolver : SourceResolver) (relativePath : JsString) (s : Walk) :
    Option FileFacts × Walk :=
  match s.files.lookup relativePath with
  | some cached => (cached, s)
  | none =>
      if maxEffectClosureFiles ≤ s.files.length then
        (none, (s.refuse .fileBudget).cache relativePath none)
      else
        match resolver relativePath with
        | none => (none, (s.refuse .sourceUnavailable).cache relativePath none)
        | some sourceText =>
            match tokenizePhp sourceText with
            | none => (none, (s.refuse .sourceUnsupported).cache relativePath none)
            | some tokens =>
                let s := { s with tokenBudget := s.tokenBudget + tokens.length }
                if maxEffectClosureTokens < s.tokenBudget then
                  (none, (s.refuse .tokenBudget).cache relativePath none)
                else
                  let facts := fileFacts tokens
                  let s := if facts.declaresDynamicMember then s.refuse .dynamicDispatch else s
                  (some facts, s.cache relativePath (some facts))

inductive Scan where
  | next (s : Walk)
  | leave (s : Walk)

def scanCall (facts : FileFacts) (item : WorkItem) (site : Callsite) (s : Walk) : Scan :=
  let s := { s with callsites := s.callsites + 1 }
  if maxEffectClosureCallsites < s.callsites then .leave (s.refuse .callsiteBudget)
  else
    let s :=
      { s with distinctCallees := s.distinctCallees.insert (site.scope, site.identifier) }
    match verdict facts site with
    | .dynamic => .next (s.refuse .dynamicDispatch)
    | .classified kind => .next (s.record kind)
    | .follow =>
        if maxEffectClosureDepth < item.depth + 1 then .next (s.refuse .depthOverflow)
        else .next (s.push ⟨item.relativePath, site.name, item.depth + 1⟩)
    | .unknown =>
        let s := { s with unclassified := s.unclassified.insert (site.scope, site.identifier) }
        .next ((s.record .unclassified).refuse .calleeUnclassified)

def scanToken (facts : FileFacts) (item : WorkItem) (index : Nat) (token : PhpToken)
    (s : Walk) : Scan :=
  if isDynamicAccess facts.tokens index token then .next (s.refuse .dynamicDispatch)
  else
    match callsiteAt facts.tokens index with
    | none => .next s
    | some site => scanCall facts item site s

/-- The scan of a body. Behind the last token the source reads a property of `undefined` and
throws. -/
def scanBody (facts : FileFacts) (item : WorkItem) : List Nat → Walk → Option Walk
  | [], s => some s
  | index :: rest, s =>
      match facts.tokens[index]? with
      | none => none
      | some token =>
          match scanToken facts item index token s with
          | .next s => scanBody facts item rest s
          | .leave s => some s

def visit (resolver : SourceResolver) (item : WorkItem) (s : Walk) : Option Walk :=
  let s := { s with
    visited := s.visited ++ [item.key]
    maxDepthReached := max s.maxDepthReached item.depth }
  match loadFile resolver item.relativePath s with
  | (none, s) => some s
  | (some facts, s) =>
      if facts.declarations item.symbol = 0 then some (s.refuse .symbolMissing)
      else if 1 < facts.declarations item.symbol then some (s.refuse .symbolAmbiguous)
      else
        match findFunctionBody facts.tokens item.symbol with
        | none => some (s.refuse .symbolMissing)
        | some body => scanBody facts item body.indices s

/-- The loop over the queue, with `remaining` declarations left until the budget of visited
ones is used up. -/
def walkFrom (resolver : SourceResolver) : (remaining : Nat) → Walk → Option Walk
  | remaining, s =>
      match s.queue.dropWhile fun item => decide (item.key ∈ s.visited) with
      | [] => some { s with queue := [] }
      | item :: rest =>
          match remaining with
          | 0 => some ({ s with queue := rest }.refuse .declarationBudget)
          | remaining + 1 =>
              (visit resolver item { s with queue := rest }).bind (walkFrom resolver remaining)

def startWalk (entrypoints : List PhpClosureEntrypoint) : Walk :=
  let s : Walk := {
    effectCounts := [], disqualifying := [], distinctCallees := [], unclassified := []
    visited := [], files := [], rejectionCode := none, maxDepthReached := 0, callsites := 0
    tokenBudget := 0
    queue := entrypoints.map fun entrypoint =>
      ⟨entrypoint.relativePath, entrypoint.symbol, 0⟩ }
  if s.queue = [] then s.refuse .noEntrypoint else s

/-- The state in which the loop is left; `none` where it throws. -/
def finalWalk (resolver : SourceResolver) (entrypoints : List PhpClosureEntrypoint) : Option Walk :=
  walkFrom resolver maxEffectClosureDeclarations (startWalk entrypoints)

def effectKinds : List EffectKind :=
  [.pureRead, .dataWrite, .auditWrite, .cacheWrite, .sessionWrite, .messagePublish,
    .externalCall, .unclassified]

def effectKindsByName : List EffectKind :=
  [.auditWrite, .cacheWrite, .dataWrite, .externalCall, .messagePublish, .pureRead,
    .sessionWrite, .unclassified]

structure PhpEffectClosureProof where
  state : PhpEffectClosureState
  rejectionCode : Option PhpClosureRejectionCode
  entrypoints : List PhpClosureEntrypoint
  effectCounts : List (EffectKind × Nat)
  disqualifyingKinds : List EffectKind
  distinctCallees : Nat
  classifiedCallees : Nat
  unclassifiedCallees : Nat
  visitedDeclarations : Nat
  maxDepthReached : Nat
  filesRead : Nat
  callsites : Nat

def Walk.disqualifyingKinds (s : Walk) : List EffectKind :=
  effectKindsByName.filter (· ∈ s.disqualifying)

def Walk.state (s : Walk) : PhpEffectClosureState :=
  if 0 < s.disqualifyingKinds.length then .effectful
  else if s.rejectionCode ≠ none then .ambiguous
  else .pureReadProven

def Walk.proof (s : Walk) (entrypoints : List PhpClosureEntrypoint) : PhpEffectClosureProof where
  state := s.state
  rejectionCode := s.rejectionCode
  entrypoints := entrypoints
  effectCounts := effectKinds.map fun kind => (kind, s.effectCounts.count kind)
  disqualifyingKinds := s.disqualifyingKinds
  distinctCallees := s.distinctCallees.length
  classifiedCallees := s.distinctCallees.length - s.unclassified.length
  unclassifiedCallees := s.unclassified.length
  visitedDeclarations := s.visited.length
  maxDepthReached := s.maxDepthReached
  filesRead := (s.files.filter fun file => file.2.isSome).length
  callsites := s.callsites

/-- The proof for one route; `none` where the analysis throws. -/
def analyzePhpEffectClosure (resolver : SourceResolver)
    (entrypoints : List PhpClosureEntrypoint) : Option PhpEffectClosureProof :=
  (finalWalk resolver entrypoints).map fun s => s.proof entrypoints

/-- Nothing was refused and nothing disqualifying was met. -/
def Walk.Clean (s : Walk) : Prop := s.rejectionCode = none ∧ s.disqualifying = []

variable {s : Walk}

theorem Walk.mem_disqualifyingKinds {kind : EffectKind} :
    kind ∈ s.disqualifyingKinds ↔ kind ∈ s.disqualifying := by
  cases kind <;> simp [Walk.disqualifyingKinds, effectKindsByName]

theorem Walk.disqualifyingKinds_eq_nil : s.disqualifyingKinds = [] ↔ s.disqualifying = [] := by
  simp only [List.eq_nil_iff_forall_not_mem, Walk.mem_disqualifyingKinds]

theorem Walk.state_eq_pureReadProven : s.state = .pureReadProven ↔ s.Clean := by
  simp only [Walk.state, Walk.Clean, ← Walk.disqualifyingKinds_eq_nil, List.length_pos_iff]
  split_ifs with hkinds hcode <;> simp_all

theorem Walk.state_eq_effectful : s.state = .effectful ↔ s.disqualifying ≠ [] := by
  simp only [Walk.state, ne_eq, ← Walk.disqualifyingKinds_eq_nil, List.length_pos_iff]
  split_ifs with hkinds hcode <;> simp_all

end NightWatch.Source.EffectClosure
