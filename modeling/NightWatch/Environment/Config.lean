import NightWatch.Lib.Guard
import NightWatch.Safety.Hosts
import NightWatch.Safety.Types

/-!
Environment configurations and their validator. A configuration arrives as plain
data and is narrowed field by field; every refusal carries the text the source
throws.
-/

namespace NightWatch.Environment.Config

open Lib.JsText Lib.Guard Lib.JsData Lib.JsRuntime Safety.Hosts Safety.Types

inductive EnvironmentName where
  | localEnv
  | dev
  | next
  deriving DecidableEq

def EnvironmentName.text : EnvironmentName → JsString
  | localEnv => "local".toList
  | dev => "dev".toList
  | next => "next".toList

/-- A `?` field of the source interface is an option. -/
structure EnvironmentConfig where
  name : EnvironmentName
  label : JsString
  uiBaseUrl : JsString
  apiHosts : Option (List JsString)
  authHosts : Option (List JsString)
  allowedHosts : List JsString
  staticAssetHosts : List JsString
  telemetryHosts : List JsString
  optionalThirdPartySupportHosts : Option (List JsString)
  browserBackgroundHosts : Option (List BrowserBackgroundHostConfig)
  failOn : List JsString

def environmentConfigKeys : List JsString :=
  ["name".toList, "label".toList, "uiBaseUrl".toList, "apiHosts".toList, "authHosts".toList,
    "allowedHosts".toList, "staticAssetHosts".toList, "telemetryHosts".toList,
    "optionalThirdPartySupportHosts".toList, "browserBackgroundHosts".toList, "failOn".toList]

def isLabelChar (c : Char) : Bool := c.isDigit || ('a' ≤ c && c ≤ 'z')

/-- `HOST_LABEL_RE`: lower-case letters and digits, with inner hyphens. -/
def hostLabel (label : JsString) : Bool :=
  label.all (fun c => isLabelChar c || c = '-') && label.head?.any isLabelChar &&
    label.getLast?.any isLabelChar

/-- `/^\d{1,3}(\.\d{1,3}){3}$/`. -/
def dottedQuad (host : JsString) : Bool :=
  let parts := host.splitOn '.'
  parts.length = 4 && parts.all (upTo 3 Char.isDigit)

def isIpv6LiteralChar (c : Char) : Bool :=
  c.isDigit || ('a' ≤ c && c ≤ 'f') || ('A' ≤ c && c ≤ 'F') || c = ':' || c = '.'

/-- `/^:\d{1,5}$/`. -/
def portSuffix : JsString → Bool
  | ':' :: port => upTo 5 Char.isDigit port
  | _ => false

def invalidBracketed (afterBracket : JsString) : Option JsString :=
  match splitFirst ']' afterBracket with
  | none => some "unterminated bracketed IPv6 literal".toList
  | some (literal, suffix) =>
      if !(upTo 45 isIpv6LiteralChar literal && 2 ≤ literal.length) || ':' ∉ literal then
        some "malformed bracketed IPv6 literal".toList
      else if suffix ≠ [] && !portSuffix suffix then
        some "malformed port after bracketed IPv6 literal".toList
      else none

def invalidHost (host : JsString) : Option JsString :=
  if host = [] then some "empty host".toList
  else if dottedQuad host then
    if (host.splitOn '.').all fun octet => decimalValue octet ≤ 255 then none
    else some "malformed IPv4 literal".toList
  else if (host.splitOn '.').any fun label => !hostLabel label then
    some "malformed hostname label".toList
  else none

def invalidBare (bare : JsString) : Option JsString :=
  match bare with
  | '[' :: afterBracket => invalidBracketed afterBracket
  | _ =>
      match splitLast ':' bare with
      | none => invalidHost bare
      | some (host, port) =>
          if ':' ∈ host then some "malformed host entry".toList
          else if !upTo 5 Char.isDigit port || 65535 < decimalValue port then
            some "malformed port".toList
          else invalidHost host

/-- Why a host entry is refused; `none` accepts it. -/
def invalidHostEntry (entry : JsString) : Option JsString :=
  if entry = [] || trim entry ≠ entry then some "empty or untrimmed host entry".toList
  else
    match entry with
    | '*' :: '.' :: bare =>
        if '*' ∈ bare then some "only one leading wildcard label is allowed".toList
        else if bare = [] then some "wildcard has no suffix".toList
        else invalidBare bare
    | bare =>
        if '*' ∈ bare then some "a wildcard must be a single leading *. label".toList
        else invalidBare bare

/-- `s.replace(/:\d+$/, '')`. -/
def stripPort (s : JsString) : JsString :=
  match splitLast ':' s with
  | some (host, port) => if allOf Char.isDigit port then host else s
  | none => s

/-- `/^(?:0*:)*1$/`: the `1` may only follow a colon. -/
def loopbackLiteral (literal : JsString) : Bool :=
  match literal.reverse with
  | '1' :: before => before.all (fun c => c = '0' || c = ':') && before.head? ≠ some '0'
  | _ => false

def bracketedLoopback (s : JsString) : Bool :=
  match s with
  | '[' :: rest => rest.getLast? = some ']' && loopbackLiteral rest.dropLast
  | _ => false

def loopbackHost (host : JsString) : Bool :=
  host = "localhost".toList || host = "::1".toList ||
    (dottedQuad host && startsWith host "127.".toList)

def isLoopbackBare (bare : JsString) : Bool :=
  if startsWith bare "[".toList then bracketedLoopback (stripPort bare)
  else
    match splitLast ':' bare with
    | some (host, _) => loopbackHost host
    | none => loopbackHost bare

def isLoopbackEntry (entry : JsString) : Bool :=
  isLoopbackBare (if startsWith entry "*.".toList then entry.drop 2 else entry)

def productionHostCovered (rt : Runtime) (entry : JsString) : Option JsString :=
  let lower := rt.toLowerCase entry
  let suffix := if startsWith lower "*.".toList then some (lower.drop 1) else none
  knownProductionHosts.find? fun production =>
    lower = production || suffix.any (endsWith production)

def refused (message : JsString) {α : Type} : Except JsString α :=
  .error ("fail-closed: ".toList ++ message)

def assertHostEntry (rt : Runtime) (source field entry : JsString) : Except JsString Unit :=
  match invalidHostEntry entry with
  | some invalid =>
      refused ("config (".toList ++ source ++ ") field \"".toList ++ field ++
        "\" entry \"".toList ++ entry ++ "\" is not a valid host pattern: ".toList ++ invalid)
  | none =>
      match productionHostCovered rt entry with
      | some production =>
          refused ("config (".toList ++ source ++ ") field \"".toList ++ field ++
            "\" entry \"".toList ++ entry ++ "\" names known production host \"".toList ++
            production ++ "\"".toList)
      | none => .ok ()

def assertHostList (rt : Runtime) (source field : JsString) (entries : List JsString) :
    Except JsString Unit :=
  forEach (assertHostEntry rt source field) entries

abbrev Fields := List (JsString × JsValue)

def configRecord (source : JsString) : JsValue → Except JsString Fields
  | .obj fields => .ok fields
  | _ => refused ("environment config (".toList ++ source ++ ") is not an object".toList)

def assertKnownKey (source key : JsString) : Except JsString Unit :=
  if key ∈ environmentConfigKeys then .ok ()
  else refused ("config (".toList ++ source ++ ") carries unknown key \"".toList ++ key ++
    "\"; an unknown key may be a misspelled allowlist".toList)

def assertName (rt : Runtime) (source : JsString) (name : EnvironmentName) (cfg : Fields) :
    Except JsString Unit :=
  let mismatch (given : JsValue) : Except JsString Unit :=
    refused ("config (".toList ++ source ++ ") name=".toList ++ stringOf rt given ++
      " does not match requested env \"".toList ++ name.text ++ "\"".toList)
  match JsValue.field cfg "name".toList with
  | .str given => if given = name.text then .ok () else mismatch (.str given)
  | given => mismatch given

def assertRequired (source : JsString) (cfg : Fields) (required : JsString) :
    Except JsString Unit :=
  match JsValue.field cfg required with
  | .undefined =>
      refused ("config (".toList ++ source ++ ") is missing required key \"".toList ++
        required ++ "\"".toList)
  | _ => .ok ()

def stringField (source : JsString) (cfg : Fields) (field : JsString) : Except JsString JsString :=
  let bad : Except JsString JsString :=
    refused ("config (".toList ++ source ++ ") field \"".toList ++ field ++
      "\" must be a non-empty string".toList)
  match JsValue.field cfg field with
  | .str s => if trim s = [] then bad else .ok s
  | _ => bad

def listField (source : JsString) (cfg : Fields) (field : JsString) :
    Except JsString (List JsString) :=
  let bad : Except JsString (List JsString) :=
    refused ("config (".toList ++ source ++ ") field \"".toList ++ field ++
      "\" must be an array of strings".toList)
  match JsValue.field cfg field with
  | .undefined => .ok []
  | .arr items =>
      match JsValue.strings items with
      | some entries => .ok entries
      | none => bad
  | _ => bad

def backgroundHost (rt : Runtime) (source : JsString) (index : Nat) (seenHosts : List JsString) :
    JsValue → Except JsString BrowserBackgroundHostConfig
  | .obj record =>
      let bad : Except JsString BrowserBackgroundHostConfig :=
        refused ("config (".toList ++ source ++ ") browserBackgroundHosts[".toList ++
          decimal index ++ "] must contain one exact hostname and a supported ".toList ++
          "browser-background classification".toList)
      match JsValue.field record "host".toList, JsValue.field record "classification".toList with
      | .str host, .str classification =>
          if trim host ≠ host || host = [] || '*' ∈ host || '/' ∈ host || ':' ∈ host then bad
          else
            match browserBackgroundClassification classification with
            | none => bad
            | some classification =>
                let normalizedHost := rt.toLowerCase host
                if normalizedHost ∈ seenHosts then
                  refused ("config (".toList ++ source ++
                    ") browserBackgroundHosts contains duplicate host \"".toList ++
                    normalizedHost ++ "\"".toList)
                else .ok ⟨normalizedHost, classification⟩
      | _, _ => bad
  | _ =>
      refused ("config (".toList ++ source ++ ") browserBackgroundHosts[".toList ++
        decimal index ++ "] must be an object".toList)

def backgroundHostList (rt : Runtime) (source : JsString) (index : Nat)
    (seenHosts : List JsString) : List JsValue → Except JsString (List BrowserBackgroundHostConfig)
  | [] => .ok []
  | item :: rest => do
      let config ← backgroundHost rt source index seenHosts item
      let configs ← backgroundHostList rt source (index + 1) (config.host :: seenHosts) rest
      .ok (config :: configs)

def backgroundHosts (rt : Runtime) (source : JsString) (cfg : Fields) :
    Except JsString (List BrowserBackgroundHostConfig) :=
  match JsValue.field cfg "browserBackgroundHosts".toList with
  | .undefined => .ok []
  | .arr items => backgroundHostList rt source 0 [] items
  | _ =>
      refused ("config (".toList ++ source ++ ") field \"browserBackgroundHosts\" must be an ".toList
        ++ "array of exact host classifications".toList)

def assertLoopbackEntry (field entry : JsString) : Except JsString Unit :=
  if isLoopbackEntry entry then .ok ()
  else refused ("local.json field \"".toList ++ field ++ "\" entry \"".toList ++ entry ++
    "\" is not loopback-only".toList)

def assertLoopbackUi (rt : Runtime) (source uiBaseUrl : JsString) : Except JsString Unit :=
  match rt.parseUrl uiBaseUrl with
  | none =>
      refused ("config (".toList ++ source ++ ") field \"uiBaseUrl\" is not a valid URL".toList)
  | some url =>
      if isLoopbackEntry url.hostname then .ok ()
      else refused ("local.json uiBaseUrl host \"".toList ++ url.hostname ++
        "\" is not loopback-only".toList)

/-- The rules of the local environment. Telemetry and optional-support lists are blocked classes;
the static asset list is not looked at either. -/
def assertLocalOnly (rt : Runtime) (source : JsString) (out : EnvironmentConfig) :
    Except JsString Unit := do
  forEach (assertLoopbackEntry "allowedHosts".toList) out.allowedHosts
  forEach (assertLoopbackEntry "apiHosts".toList) (out.apiHosts.getD [])
  forEach (assertLoopbackEntry "authHosts".toList) (out.authHosts.getD [])
  assertLoopbackUi rt source out.uiBaseUrl

def assertByName (rt : Runtime) (source : JsString) (name : EnvironmentName)
    (out : EnvironmentConfig) : Except JsString Unit :=
  if name = .localEnv then assertLocalOnly rt source out else .ok ()

def assertHostLists (rt : Runtime) (source : JsString) (out : EnvironmentConfig) :
    Except JsString Unit := do
  assertHostList rt source "allowedHosts".toList out.allowedHosts
  assertHostList rt source "apiHosts".toList (out.apiHosts.getD [])
  assertHostList rt source "authHosts".toList (out.authHosts.getD [])
  assertHostList rt source "staticAssetHosts".toList out.staticAssetHosts
  assertHostList rt source "telemetryHosts".toList out.telemetryHosts
  assertHostList rt source "optionalThirdPartySupportHosts".toList
    (out.optionalThirdPartySupportHosts.getD [])

def readConfig (rt : Runtime) (source : JsString) (name : EnvironmentName) (cfg : Fields) :
    Except JsString EnvironmentConfig := do
  forEach (assertKnownKey source) (cfg.map Prod.fst)
  assertName rt source name cfg
  forEach (assertRequired source cfg) ["label".toList, "uiBaseUrl".toList, "allowedHosts".toList,
    "staticAssetHosts".toList, "telemetryHosts".toList, "failOn".toList]
  let label ← stringField source cfg "label".toList
  let uiBaseUrl ← stringField source cfg "uiBaseUrl".toList
  let apiHosts ← listField source cfg "apiHosts".toList
  let authHosts ← listField source cfg "authHosts".toList
  let allowedHosts ← listField source cfg "allowedHosts".toList
  let staticAssetHosts ← listField source cfg "staticAssetHosts".toList
  let telemetryHosts ← listField source cfg "telemetryHosts".toList
  let optionalHosts ← listField source cfg "optionalThirdPartySupportHosts".toList
  let failOn ← listField source cfg "failOn".toList
  let browserBackgroundHosts ← backgroundHosts rt source cfg
  .ok {
    name := name
    label := label
    uiBaseUrl := uiBaseUrl
    apiHosts := some apiHosts
    authHosts := some authHosts
    allowedHosts := allowedHosts
    staticAssetHosts := staticAssetHosts
    telemetryHosts := telemetryHosts
    optionalThirdPartySupportHosts := some optionalHosts
    browserBackgroundHosts := some browserBackgroundHosts
    failOn := failOn }

def validateEnvironmentConfig (rt : Runtime) (name : EnvironmentName) (value : JsValue)
    (source : JsString := "in-memory".toList) : Except JsString EnvironmentConfig := do
  let cfg ← configRecord source value
  let out ← readConfig rt source name cfg
  assertHostLists rt source out
  assertByName rt source name out
  .ok out

variable {rt : Runtime} {field source : JsString} {entry : JsString} {name : EnvironmentName}

theorem assertHostEntry_eq_ok : assertHostEntry rt source field entry = .ok () ↔
      invalidHostEntry entry = none ∧ productionHostCovered rt entry = none := by
  unfold assertHostEntry
  constructor
  · intro h
    split at h
    · contradiction
    · rename_i hinvalid
      split at h
      · contradiction
      · rename_i hcovered
        exact ⟨hinvalid, hcovered⟩
  · rintro ⟨hinvalid, hcovered⟩
    rw [hinvalid, hcovered]

theorem assertHostList_eq_ok {entries : List JsString} :
    assertHostList rt source field entries = .ok () ↔ ∀ entry ∈ entries,
      invalidHostEntry entry = none ∧ productionHostCovered rt entry = none := by
  simp only [assertHostList, forEach_eq_ok, assertHostEntry_eq_ok]

theorem assertLoopbackEntry_eq_ok :
    assertLoopbackEntry field entry = .ok () ↔ isLoopbackEntry entry = true := by
  unfold assertLoopbackEntry
  split
  · rename_i h
    simp [h]
  · rename_i h
    simp [refused, h]

theorem readConfig_name
    {cfg : Fields} {out : EnvironmentConfig} (h : readConfig rt source name cfg = .ok out) :
    out.name = name := by
  simp only [readConfig, bind_eq_ok] at h
  obtain ⟨_, -, _, -, _, -, _, -, _, -, _, -, _, -, _, -, _, -, _, -, _, -, _, -, _, -, hout⟩ := h
  cases hout
  rfl

/-- What acceptance says about the lists that can admit a request. -/
structure Accepted (rt : Runtime) (name : EnvironmentName) (cfg : EnvironmentConfig) : Prop where
  name_eq : cfg.name = name
  allowed : ∀ entry ∈ cfg.allowedHosts,
    invalidHostEntry entry = none ∧ productionHostCovered rt entry = none
  static : ∀ entry ∈ cfg.staticAssetHosts,
    invalidHostEntry entry = none ∧ productionHostCovered rt entry = none
  loopback : name = .localEnv → ∀ entry ∈ cfg.allowedHosts, isLoopbackEntry entry = true

theorem accepted_of_validate {value : JsValue} {cfg : EnvironmentConfig}
    (h : validateEnvironmentConfig rt name value source = .ok cfg) : Accepted rt name cfg := by
  simp only [validateEnvironmentConfig, bind_eq_ok] at h
  obtain ⟨fields, -, out, hread, _, hlists, _, hlocal, hout⟩ := h
  cases hout
  simp only [assertHostLists, bind_eq_ok] at hlists
  obtain ⟨_, hallowed, _, -, _, -, _, hstatic, -⟩ := hlists
  refine ⟨readConfig_name hread, assertHostList_eq_ok.mp hallowed,
    assertHostList_eq_ok.mp hstatic, fun hname entry hentry => ?_⟩
  have hrules := ite_eq_ok.mp hlocal hname
  simp only [assertLocalOnly, bind_eq_ok] at hrules
  obtain ⟨_, hallowed, -⟩ := hrules
  exact assertLoopbackEntry_eq_ok.mp (forEach_eq_ok.mp hallowed entry hentry)

end NightWatch.Environment.Config
