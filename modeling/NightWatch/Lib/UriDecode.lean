import NightWatch.Lib.JsText

/-!
`decodeURIComponent`: percent escapes are read as the octets of UTF-8 sequences,
and an escape that is cut short or not well formed is a `URIError`.
-/

namespace NightWatch.Lib.UriDecode

open Lib.JsText

/-- One `%XX` escape at the head of a string, and what follows it. -/
def escape : JsString → Option (Nat × JsString)
  | '%' :: high :: low :: rest => do
      let high ← hexValue high
      let low ← hexValue low
      some (16 * high + low, rest)
  | _ => none

/-- The next `n` escapes, which must be UTF-8 continuation octets; the result is the
code point they extend. -/
def continuation (codePoint : Nat) : Nat → JsString → Option (Nat × JsString)
  | 0, s => some (codePoint, s)
  | n + 1, s => do
      let (octet, rest) ← escape s
      if 0x80 ≤ octet && octet < 0xc0 then continuation (64 * codePoint + (octet - 0x80)) n rest
      else none

/-- The escaped UTF-8 sequence at the head of a string. The least code point of each
length excludes overlong forms, and `Nat.isValidChar` excludes surrogates. -/
def escapedChar (s : JsString) : Option (Char × JsString) := do
  let (first, rest) ← escape s
  let (codePoint, least, rest) ←
    if first < 0x80 then some (first, 0, rest)
    else if 0xc0 ≤ first && first < 0xe0 then
      (continuation (first - 0xc0) 1 rest).map fun r => (r.1, 0x80, r.2)
    else if 0xe0 ≤ first && first < 0xf0 then
      (continuation (first - 0xe0) 2 rest).map fun r => (r.1, 0x800, r.2)
    else if 0xf0 ≤ first && first < 0xf8 then
      (continuation (first - 0xf0) 3 rest).map fun r => (r.1, 0x10000, r.2)
    else none
  if least ≤ codePoint ∧ codePoint.isValidChar then some (Char.ofNat codePoint, rest)
  else none

def decodeFuel : Nat → JsString → Option JsString
  | _, [] => some []
  | 0, _ :: _ => none
  | fuel + 1, '%' :: rest => do
      let (c, rest) ← escapedChar ('%' :: rest)
      let decoded ← decodeFuel fuel rest
      some (c :: decoded)
  | fuel + 1, c :: rest => (decodeFuel fuel rest).map (c :: ·)

/-- `decodeURIComponent(s)`; `none` is the thrown `URIError`. -/
def decodeURIComponent (s : JsString) : Option JsString := decodeFuel s.length s

/-- `decodeURIComponentSafe`: a malformed escape leaves the string as it is. -/
def decodeURIComponentSafe (s : JsString) : JsString := (decodeURIComponent s).getD s

example : decodeURIComponent "/a%20b%C3%A9".toList = some "/a bé".toList := by decide

end NightWatch.Lib.UriDecode
