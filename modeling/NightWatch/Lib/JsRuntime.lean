import NightWatch.Lib.Json
import NightWatch.Lib.WebUrl

/-!
The services of the JavaScript host that depend on tables or on large external
standards: Unicode case mapping, the address parser, regular expressions, number
formatting and date parsing. A development is generic over the host; the fields
after each service state what every conforming host guarantees.
-/

namespace NightWatch.Lib.JsRuntime

open Lib.JsText Lib.JsData Lib.Json Lib.WebUrl

structure Runtime where
  toLowerCase : JsString → JsString
  toLowerCase_ascii : ∀ s, IsAscii s → toLowerCase s = s.map Char.toLower
  toUpperCase : JsString → JsString
  toUpperCase_ascii : ∀ s, IsAscii s → toUpperCase s = s.map Char.toUpper
  /-- `new URL(s)`; `none` is the thrown `TypeError`. -/
  parseUrl : JsString → Option Url
  parseUrl_relative : ∀ s, ':' ∉ s → parseUrl s = none
  parseUrl_protocol : ∀ scheme rest url, scheme ++ [':'] ∈ networkProtocols →
    parseUrl (scheme ++ "://".toList ++ rest) = some url → url.protocol = scheme ++ [':']
  /-- `new RegExp(source)` with its `test`; `none` is the thrown `SyntaxError`. -/
  regExp : JsString → Option (JsString → Bool)
  /-- `String(x)` for a number. -/
  numberText : JsNumber → JsString
  /-- `Number.isFinite(Date.parse(s))`. -/
  parsesDate : JsString → Bool
  /-- `a.localeCompare(b) <= 0`. -/
  localeLe : JsString → JsString → Bool
  jsonStringify : JsValue → JsString
  jsonStringify_line : ∀ v, IsJson v → jsonStringify v ≠ [] ∧ Printable (jsonStringify v)
  /-- `JSON.parse(s)`; `none` is the thrown `SyntaxError`. -/
  jsonParse : JsString → Option JsValue
  jsonParse_stringify : ∀ v, IsJson v → jsonParse (jsonStringify v) = some v

theorem toLowerCase_of_isLowerAscii (rt : Runtime) {s : JsString} (hs : IsLowerAscii s) :
    rt.toLowerCase s = s := by
  rw [rt.toLowerCase_ascii s hs.isAscii, map_toLower_of_isLowerAscii hs]

theorem toLowerCase_hostname (rt : Runtime) {url : Url}
    (hnetwork : url.protocol ∈ networkProtocols) : rt.toLowerCase url.hostname = url.hostname := by
  obtain ⟨host, hhost⟩ := url.host_serialized hnetwork
  rw [hhost]
  exact toLowerCase_of_isLowerAscii rt (isLowerAscii_serialize host)

mutual

/-- `String(value)`: an array joins its items, and its empty ones are left blank. -/
def stringOf (rt : Runtime) : JsValue → JsString
  | .undefined => "undefined".toList
  | .null => "null".toList
  | .bool b => if b then "true".toList else "false".toList
  | .num n => rt.numberText n
  | .str s => s
  | .arr items => joinItems rt items
  | .obj _ => "[object Object]".toList

def joinItems (rt : Runtime) : List JsValue → JsString
  | [] => []
  | item :: rest =>
      (if item.isNullish then [] else stringOf rt item) ++
        if rest.isEmpty then [] else ',' :: joinItems rt rest

end

theorem stringOf_str (rt : Runtime) (s : JsString) : stringOf rt (.str s) = s := rfl

abbrev UrlTable := List (JsString × Url)

/-- Every entry is spelled with a colon, and with its own scheme if it starts with a
network one. -/
def UrlTable.Conforms (urls : UrlTable) : Prop :=
  ∀ entry ∈ urls, ':' ∈ entry.1 ∧ ∀ protocol ∈ networkProtocols,
    (protocol ++ "//".toList) <+: entry.1 → entry.2.protocol = protocol

instance (urls : UrlTable) : Decidable urls.Conforms :=
  inferInstanceAs (Decidable (∀ entry ∈ urls, _))

/-- The expression `^text$` for a text without operators. -/
def literalRegExp (source : JsString) : Option (JsString → Bool) :=
  match source with
  | '^' :: rest =>
      if rest.getLast? = some '$' && rest.dropLast.all fun c => c.isAlphanum || c == '/' then
        some (· = rest.dropLast)
      else none
  | _ => none

/-- The host on inputs that are seven-bit, on the listed addresses and on literal
expressions, with JSON texts of safe integers. -/
def tableRuntime (urls : UrlTable) (h : urls.Conforms) : Runtime where
  toLowerCase s := s.map Char.toLower
  toLowerCase_ascii _ _ := rfl
  toUpperCase s := s.map Char.toUpper
  toUpperCase_ascii _ _ := rfl
  parseUrl s := urls.lookup s
  parseUrl_relative s hs := by
    rw [List.lookup_eq_none_iff]
    intro entry hentry
    have hcolon := (h entry hentry).1
    have hne : s ≠ entry.1 := fun heq => hs (heq ▸ hcolon)
    simpa using hne
  parseUrl_protocol scheme rest url hscheme hparse := by
    obtain ⟨before, after, heq, -⟩ := List.lookup_eq_some_iff.mp hparse
    have hentry := h (scheme ++ "://".toList ++ rest, url) (by simp [heq])
    exact hentry.2 _ hscheme ⟨rest, by simp⟩
  regExp := literalRegExp
  numberText
    | .finite q => if q < 0 then '-' :: decimal q.num.natAbs else decimal q.num.natAbs
    | _ => "NaN".toList
  parsesDate s := s.length = 24
  localeLe a b := decide (a ≤ b)
  jsonStringify := text
  jsonStringify_line _ hv := ⟨text_ne_nil hv, printable_text hv⟩
  jsonParse := parse
  jsonParse_stringify _ hv := parse_text hv

theorem conforms_nil : UrlTable.Conforms [] := by decide

def plainRuntime : Runtime := tableRuntime [] conforms_nil

end NightWatch.Lib.JsRuntime
