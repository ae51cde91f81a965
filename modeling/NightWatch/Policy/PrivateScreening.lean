import NightWatch.Lib.JsRuntime
import NightWatch.Lib.Regex

namespace NightWatch.Policy.PrivateScreening

open Lib.JsText Lib.JsRuntime Lib.Regex

section Values

inductive PlainValue where
  | null
  | bool (b : Bool)
  | num (q : ℚ)
  | str (s : JsString)
  | arr (items : List PlainValue)
  | obj (fields : List (JsString × PlainValue))

def hex (n : Nat) : Char := n.digitChar

/-- The escapes of `JSON.stringify`. -/
def escape (c : Char) : JsString :=
  if c = '"' then "\\\"".toList
  else if c = '\\' then "\\\\".toList
  else if c = '\n' then "\\n".toList
  else if c = '\r' then "\\r".toList
  else if c = '\t' then "\\t".toList
  else if c.toNat = 0x08 then "\\b".toList
  else if c.toNat = 0x0c then "\\f".toList
  else if c.toNat < 0x20 then "\\u00".toList ++ [hex (c.toNat / 16), hex (c.toNat % 16)]
  else [c]

def quoted (s : JsString) : JsString := '"' :: (s.flatMap escape ++ ['"'])

variable (rt : Runtime)

mutual

/-- `JSON.stringify(value)`. -/
def stringify : PlainValue → JsString
  | .null => "null".toList
  | .bool b => if b then "true".toList else "false".toList
  | .num q => rt.numberText (.finite q)
  | .str s => quoted s
  | .arr items => '[' :: (stringifyItems items ++ [']'])
  | .obj fields => '\x7b' :: (stringifyFields fields ++ ['\x7d'])

def stringifyItems : List PlainValue → JsString
  | [] => []
  | v :: rest => stringify v ++ if rest.isEmpty then [] else ',' :: stringifyItems rest

def stringifyFields : List (JsString × PlainValue) → JsString
  | [] => []
  | (key, v) :: rest =>
      quoted key ++ ':' :: (stringify v ++ if rest.isEmpty then [] else ',' :: stringifyFields rest)

end

end Values

def isAlnum (c : Char) : Bool := c.isAlpha || c.isDigit

def isSecretChar (c : Char) : Bool := isAlnum c || "._~+/=-".toList.contains c

def isTokenChar (c : Char) : Bool := isAlnum c || c == '_' || c == '-'

/-- `SECRET_SHAPE_RE`. -/
def secretShape : Pattern :=
  oneOf (.seq (word "-----begin ") (.seq (.many fun c => c.isAlpha || c == ' ')
      (word "private key-----")))
    [.seq (word "bearer") (.seq (atLeast isSpace 1) (atLeast isSecretChar 8)),
      .seq (word "eyj") (.seq (atLeast isTokenChar 8) (.seq (char '.')
        (.seq (atLeast isTokenChar 8) (.seq (char '.') (atLeast isTokenChar 8))))),
      .seq (word "akia") (exactly isAlnum 16)]

/-- `PRIVATE_SENTINEL_RE`. -/
def privateSentinel : Pattern :=
  oneOf (word "token_sentinel")
    [word "customer_sentinel", word "account_sentinel", word "email_sentinel",
      word "cost_sentinel"]

def separator : Pattern := optional (.one fun c => c == '_' || c == '-')

def label : Pattern :=
  oneOf (word "authorization")
    [word "customer", word "account", word "payer", word "email", word "cookie", word "token",
      word "password", word "secret", .seq (word "billing") (.seq separator (word "group")),
      .seq (word "api") (.seq separator (word "key")), word "cost", word "amount"]

def labelSuffix : Pattern :=
  optional (.seq separator (oneOf (word "s")
    [word "id", word "ids", word "name", word "address", word "group", word "key", word "alias"]))

def quote : Pattern := optional (.one fun c => c == '"' || c == '\'')

def isValueChar (c : Char) : Bool := isAlnum c || "@._:+/=-".toList.contains c

/-- `PRIVATE_VALUE_RE`. -/
def privateValue : Pattern :=
  .seq label (.seq labelSuffix (.seq quote (.seq (.many isSpace)
    (.seq (.one fun c => c == ':' || c == '=') (.seq (.many isSpace)
      (.seq (optional (.seq (char '[') (.many isSpace)))
        (.seq quote (atLeast isValueChar 6))))))))

def isMark (c : Char) : Bool := "\"[]\x7b\x7d,:".toList.contains c

/-- `s.normalize('NFKC')`; the marks of JSON texts compose with nothing, and each side of them is
normalized alone. -/
structure Normalization where
  normalize : JsString → JsString
  normalize_nil : normalize [] = []
  normalize_mark : ∀ c, isMark c = true → ∀ s t,
    normalize (s ++ c :: t) = normalize s ++ c :: normalize t

section Screens

variable (nf : Normalization)

def isJoiner (c : Char) : Bool :=
  (0x200b ≤ c.toNat && c.toNat ≤ 0x200f) || c.toNat == 0x2060 || c.toNat == 0xfeff

def canonicalizePrivateText (text : JsString) : JsString :=
  (nf.normalize text).filter fun c => !isJoiner c

def containsSecretOrSentinelShape (text : JsString) : Bool :=
  found secretShape (canonicalizePrivateText nf text) ||
    found privateSentinel (canonicalizePrivateText nf text)

def containsLabeledPrivateValue (text : JsString) : Bool :=
  found privateValue (canonicalizePrivateText nf text)

def containsPrivatePayloadShape (text : JsString) : Bool :=
  containsSecretOrSentinelShape nf text || containsLabeledPrivateValue nf text

end Screens

section Keys

inductive KeySensitivity where
  | always
  | nonNumeric
  deriving DecidableEq

def sensitivePrivateKeys : List JsString :=
  ["customer", "customerid", "account", "accountid", "billinggroup", "payer", "email", "cookie",
    "token", "password", "secret", "authorization", "apikey", "auth"].map String.toList

def sensitiveNumericOkKeys : List JsString := ["cost", "amount"].map String.toList

def sensitiveKeySuffixes : List JsString :=
  ["", "s", "id", "ids", "name", "names", "address", "addresses", "group", "groups", "key", "keys",
    "alias", "aliases"].map String.toList

def hasClosedSuffix (bases : List JsString) (normalized : JsString) : Bool :=
  bases.any fun base =>
    startsWith normalized base && sensitiveKeySuffixes.contains (normalized.drop base.length)

def isSensitiveKey (normalized : JsString) : Option KeySensitivity :=
  if sensitivePrivateKeys.contains normalized then some .always
  else if sensitiveNumericOkKeys.contains normalized then some .nonNumeric
  else if hasClosedSuffix sensitivePrivateKeys normalized then some .always
  else if hasClosedSuffix sensitiveNumericOkKeys normalized then some .nonNumeric
  else none

variable (rt : Runtime) (nf : Normalization)

def normalizeKey (key : JsString) : JsString :=
  (rt.toLowerCase (nf.normalize key)).filter fun c => !(c == '_' || c == '-' || isSpace c)

def privateKeySensitivity (key : JsString) : Option KeySensitivity :=
  isSensitiveKey (normalizeKey rt nf key)

def isSentinelKey (key : JsString) : Bool := found privateSentinel (canonicalizePrivateText nf key)

end Keys

section Walk

def maxDepth : Nat := 32

def maxNodes : Nat := 10000

def maxKeys : Nat := 10000

def maxStringLength : Nat := 64 * 1024

inductive PrivateStructureFailure where
  | sensitiveKey
  | depthExceeded
  | nodeBudgetExceeded
  | keyBudgetExceeded

structure Counters where
  nodes : Nat
  keys : Nat

abbrev Walked : Type := Except PrivateStructureFailure Counters

def countKey (counters : Counters) : Walked :=
  if maxKeys < counters.keys + 1 then .error .keyBudgetExceeded
  else .ok { counters with keys := counters.keys + 1 }

def PlainValue.isEmptyValue : PlainValue → Bool
  | .null => true
  | .str s => s.isEmpty
  | _ => false

def PlainValue.isNumber : PlainValue → Bool
  | .num _ => true
  | _ => false

def describe : List (JsString × PlainValue) → Counters → Walked
  | [], counters => .ok counters
  | _ :: rest, counters => countKey counters >>= describe rest

variable (rt : Runtime) (nf : Normalization)

mutual

def walk (depth : Nat) : PlainValue → Counters → Walked
  | v, counters =>
      if maxDepth < depth then .error .depthExceeded
      else if maxNodes < counters.nodes + 1 then .error .nodeBudgetExceeded
      else
        match v with
        | .arr items => walkItems depth items { counters with nodes := counters.nodes + 1 }
        | .obj fields =>
            describe fields { counters with nodes := counters.nodes + 1 } >>= walkFields depth fields
        | _ => .ok { counters with nodes := counters.nodes + 1 }

def walkItems (depth : Nat) : List PlainValue → Counters → Walked
  | [], counters => .ok counters
  | v :: rest, counters => walk (depth + 1) v counters >>= walkItems depth rest

def walkFields (depth : Nat) : List (JsString × PlainValue) → Counters → Walked
  | [], counters => .ok counters
  | (key, v) :: rest, counters => do
      let counters ← countKey counters
      if isSentinelKey nf key then .error .sensitiveKey
      else
        match privateKeySensitivity rt nf key with
        | some sensitivity =>
            if v.isEmptyValue then walkFields depth rest counters
            else if sensitivity = .always || !v.isNumber then .error .sensitiveKey
            else walk (depth + 1) v counters >>= walkFields depth rest
        | none => walk (depth + 1) v counters >>= walkFields depth rest

end

def findStructuralPrivateFailure (v : PlainValue) : Option PrivateStructureFailure :=
  match walk rt nf 0 v ⟨0, 0⟩ with
  | .ok _ => none
  | .error failure => some failure

def containsStructuralPrivateShape (v : PlainValue) : Bool :=
  (findStructuralPrivateFailure rt nf v).isSome

end Walk

section Payloads

/-- `s.slice(0, n)`; half a surrogate pair at its end matches nothing and is left out. -/
def sliceUnits : Nat → JsString → JsString
  | _, [] => []
  | n, c :: s =>
      if utf16Length [c] ≤ n then c :: sliceUnits (n - utf16Length [c]) s else []

variable (rt : Runtime) (nf : Normalization)

def containsPrivatePayload (v : PlainValue) : Bool :=
  if containsStructuralPrivateShape rt nf v then true
  else
    match v with
    | .str s => containsPrivatePayloadShape nf s
    | v =>
        if maxStringLength < utf16Length (stringify rt v) then
          containsPrivatePayloadShape nf (sliceUnits maxStringLength (stringify rt v))
        else containsPrivatePayloadShape nf (stringify rt v)

inductive ArtifactError where
  | privacyBlocked

def assertPrivatePayload (v : PlainValue) : Except ArtifactError Unit :=
  if containsPrivatePayload rt nf v then .error .privacyBlocked
  else
    match v with
    | .str s => if containsPrivatePayloadShape nf s then .error .privacyBlocked else .ok ()
    | _ => .ok ()

end Payloads

end NightWatch.Policy.PrivateScreening
