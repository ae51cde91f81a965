import NightWatch.Lib.UriDecode
import NightWatch.Safety.EndpointSemantics

namespace NightWatch.Safety.BootstrapExemptions

open Lib.JsText Lib.JsData Lib.JsRuntime Lib.UriDecode Lib.WebUrl Safety.EndpointSemantics

def maxBootstrapExemptions : Nat := 64

inductive BootstrapRefusalCode where
  | unregistered
  | mismatch
  | exhausted
  | stale

structure BootstrapExemption where
  id : JsString
  environment : JsString
  origin : JsString
  method : JsString
  routePattern : JsString
  sourceProof : JsString
  sourceCurrent : Bool
  maxCountPerNavigation : JsNumber

structure BootstrapRequest where
  method : JsString
  url : JsString
  environment : JsString

inductive BootstrapConsumption where
  | granted (exemptionId navigationGeneration : JsString) (consumedCount : Nat)
      (routeTemplate routePattern sourceProof : JsString)
  | refused (code : BootstrapRefusalCode)

def normalizeMethod (rt : Runtime) (method : JsString) : JsString := rt.toUpperCase (trim method)

/-- `/^[A-Za-z][A-Za-z0-9._-]{0,63}$/`. -/
def isExemptionId (id : JsString) : Bool :=
  upTo 64 (fun c => c.isAlphanum || c = '.' || c = '_' || c = '-') id && id.head?.any Char.isAlpha

def refuse (code : String) : Except JsString Unit := .error code.toList

def assertThat (condition : Bool) (code : String) : Except JsString Unit :=
  if condition then .ok () else refuse code

def validateExemption (rt : Runtime) (exemption : BootstrapExemption) : Except JsString Unit := do
  let method := normalizeMethod rt exemption.method
  let pattern := exemption.routePattern
  let origin := exemption.origin
  let budget := exemption.maxCountPerNavigation
  assertThat (isExemptionId exemption.id) "BOOTSTRAP_EXEMPTION_ID_UNSAFE"
  assertThat (method = "GET".toList || method = "HEAD".toList)
    "BOOTSTRAP_EXEMPTION_METHOD_NOT_READ_ONLY"
  assertThat (startsWith pattern "^".toList && endsWith pattern "$".toList)
    "BOOTSTRAP_EXEMPTION_PATTERN_UNANCHORED"
  assertThat ('#' ∉ pattern) "BOOTSTRAP_EXEMPTION_PATTERN_UNSAFE"
  assertThat (startsWith origin "http://".toList || startsWith origin "https://".toList ||
    startsWith origin "ws://".toList || startsWith origin "wss://".toList)
    "BOOTSTRAP_EXEMPTION_ORIGIN_UNSAFE"
  assertThat (!(budget.lt (.finite 1) || JsNumber.lt (.finite 1024) budget))
    "BOOTSTRAP_EXEMPTION_BUDGET_UNSAFE"
  assertThat (rt.regExp pattern).isSome "SyntaxError"

def assertEntries (rt : Runtime) (seen : List JsString) :
    List BootstrapExemption → Except JsString Unit
  | [] => .ok ()
  | entry :: rest => do
      validateExemption rt entry
      assertThat (entry.id ∉ seen) "BOOTSTRAP_EXEMPTION_DUPLICATE"
      assertEntries rt (entry.id :: seen) rest

structure BootstrapExemptionTable (rt : Runtime) where
  entries : List BootstrapExemption
  registered : entries.length ≤ maxBootstrapExemptions ∧ assertEntries rt [] entries = .ok ()
  counts : JsString → JsString → Nat

namespace BootstrapExemptionTable

variable {rt : Runtime}

def of (rt : Runtime) (entries : List BootstrapExemption) :
    Except JsString (BootstrapExemptionTable rt) :=
  if hlength : entries.length ≤ maxBootstrapExemptions then
    match hentries : assertEntries rt [] entries with
    | .ok () => .ok ⟨entries, ⟨hlength, hentries⟩, fun _ _ => 0⟩
    | .error code => .error code
  else .error "BOOTSTRAP_EXEMPTION_TABLE_TOO_LARGE".toList

def patternFor (table : BootstrapExemptionTable rt) (exemptionId : JsString) : Option JsString :=
  (table.entries.find? fun entry => entry.id = exemptionId).map (·.routePattern)

def family (table : BootstrapExemptionTable rt) (request : BootstrapRequest) (url : Url) :
    List BootstrapExemption :=
  table.entries.filter fun entry =>
    entry.environment = request.environment && entry.origin = url.origin &&
      normalizeMethod rt entry.method = normalizeMethod rt request.method

def routeMatches (rt : Runtime) (pathname : JsString) (entry : BootstrapExemption) : Bool :=
  (rt.regExp entry.routePattern).any fun test => test pathname

def resolve (table : BootstrapExemptionTable rt) (request : BootstrapRequest) :
    Except BootstrapRefusalCode BootstrapExemption :=
  match rt.parseUrl request.url with
  | none => .error .mismatch
  | some url =>
      match table.family request url with
      | [] => .error .unregistered
      | entries =>
          match entries.find? (routeMatches rt (decodeURIComponentSafe url.pathname)) with
          | none => .error .mismatch
          | some entry => if entry.sourceCurrent then .ok entry else .error .stale

def exhausted (table : BootstrapExemptionTable rt) (generation : JsString)
    (entry : BootstrapExemption) : Bool :=
  JsNumber.ge (.ofNat (table.counts generation entry.id)) entry.maxCountPerNavigation

def spend (table : BootstrapExemptionTable rt) (generation id : JsString) :
    BootstrapExemptionTable rt :=
  { table with
    counts := Function.update table.counts generation
      (Function.update (table.counts generation) id (table.counts generation id + 1)) }

def consume (table : BootstrapExemptionTable rt) (navigationGeneration : Option JsString)
    (request : BootstrapRequest) : BootstrapConsumption × BootstrapExemptionTable rt :=
  match navigationGeneration with
  | none | some [] => (.refused .unregistered, table)
  | some generation =>
      match table.resolve request with
      | .error code => (.refused code, table)
      | .ok entry =>
          if table.exhausted generation entry then (.refused .exhausted, table)
          else
            (.granted entry.id generation (table.counts generation entry.id + 1)
              ((safeRuleMarker entry.id).getD "<UNKNOWN_ROUTE>".toList) entry.routePattern
              entry.sourceProof,
              table.spend generation entry.id)

@[simp] theorem spend_counts_self (table : BootstrapExemptionTable rt) (generation id : JsString) :
    (table.spend generation id).counts generation id = table.counts generation id + 1 := by
  simp [spend]

theorem spend_counts_ne (table : BootstrapExemptionTable rt) (generation id : JsString) :
    (table.spend generation id).counts ≠ table.counts := by
  intro h
  have hself := congrFun (congrFun h generation) id
  rw [spend_counts_self] at hself
  omega

/-- A unit of `entry` can be drawn for `request` in a navigation generation. -/
structure Grantable (table : BootstrapExemptionTable rt) (navigationGeneration : Option JsString)
    (request : BootstrapRequest) (generation : JsString) (entry : BootstrapExemption) : Prop where
  navigation : navigationGeneration = some generation
  named : generation ≠ []
  resolved : table.resolve request = .ok entry
  affordable : table.exhausted generation entry = false

theorem consume_cases (table : BootstrapExemptionTable rt)
    (navigationGeneration : Option JsString) (request : BootstrapRequest) :
    (∃ generation entry, table.Grantable navigationGeneration request generation entry ∧
      table.consume navigationGeneration request =
        (.granted entry.id generation (table.counts generation entry.id + 1)
          ((safeRuleMarker entry.id).getD "<UNKNOWN_ROUTE>".toList) entry.routePattern
          entry.sourceProof,
          table.spend generation entry.id)) ∨
    ((¬ ∃ generation entry, table.Grantable navigationGeneration request generation entry) ∧
      ∃ code, table.consume navigationGeneration request = (.refused code, table)) := by
  unfold consume
  split
  · refine Or.inr ⟨?_, _, rfl⟩
    rintro ⟨generation, entry, h⟩
    cases h.navigation
  · refine Or.inr ⟨?_, _, rfl⟩
    rintro ⟨generation, entry, h⟩
    cases h.navigation
    exact h.named rfl
  · rename_i generation hnamed
    split
    · rename_i code hresolve
      refine Or.inr ⟨?_, _, rfl⟩
      rintro ⟨generation', entry, h⟩
      rw [h.resolved] at hresolve
      contradiction
    · rename_i entry hresolve
      split
      · rename_i hexhausted
        refine Or.inr ⟨?_, _, rfl⟩
        rintro ⟨generation', entry', h⟩
        cases h.navigation
        have hentry := h.resolved
        rw [hresolve] at hentry
        cases hentry
        rw [h.affordable] at hexhausted
        contradiction
      · rename_i hexhausted
        refine Or.inl ⟨generation, entry, ⟨rfl, ?_, hresolve, eq_false_of_ne_true hexhausted⟩, rfl⟩
        rintro rfl
        exact hnamed rfl

end BootstrapExemptionTable

end NightWatch.Safety.BootstrapExemptions
