import NightWatch.Lib.JsText

namespace NightWatch.Source.PhpTokens

open Lib.JsText

def maxPhpSourceChars : Nat := 2000000

def maxPhpTokens : Nat := 500000

def maxKeyLength : Nat := 128

inductive PhpToken where
  | word (v : JsString)
  | variable (v : JsString)
  | string (v : JsString) (oversized : Bool)
  | number (v : JsString)
  | punct (v : JsString)
  | op (v : JsString)
  deriving DecidableEq

/-- One entry for each code unit. The halves of a character outside the basic plane are both written
as that character: the tokenizer only tells them from seven-bit ones. -/
def codeUnits (s : JsString) : List Char :=
  s.flatMap fun c => if c.toNat < 0x10000 then [c] else [c, c]

/-- `/[A-Za-z_]/`. -/
def isNameStart (c : Char) : Bool := c.isAlpha || c == '_'

/-- `/[A-Za-z0-9_]/`. -/
def isNameChar (c : Char) : Bool := c.isAlphanum || c == '_'

def isBlank (c : Char) : Bool := c ∈ [' ', '\t', '\r', '\n', '\x0c', '\x0b']

/-- `append`: a literal over the key length is kept only as the fact that it is oversized. -/
def appendLiteral (out : Option JsString) (value : JsString) : Option JsString :=
  out.bind fun kept =>
    if kept.length + value.length > maxKeyLength then none else some (kept ++ value)

def singleQuoted (out : Option JsString) : List Char → Option JsString × Nat
  | [] => (out, 0)
  | [c] => if c = '\'' then (out, 1) else (appendLiteral out [c], 1)
  | c :: d :: rest =>
      if c = '\\' ∧ (d = '\'' ∨ d = '\\') then
        let tail := singleQuoted (appendLiteral out [d]) rest
        (tail.1, tail.2 + 2)
      else if c = '\'' then (out, 1)
      else
        let tail := singleQuoted (appendLiteral out [c]) (d :: rest)
        (tail.1, tail.2 + 1)

def doubleQuoted (out : Option JsString) : List Char → Option JsString × Nat
  | [] => (out, 0)
  | [c] => if c = '"' then (out, 1) else (appendLiteral out [c], 1)
  | c :: d :: rest =>
      if c = '\\' then
        let tail := doubleQuoted (appendLiteral (appendLiteral out [c]) [d]) rest
        (tail.1, tail.2 + 2)
      else if c = '"' then (out, 1)
      else
        let tail := doubleQuoted (appendLiteral out [c]) (d :: rest)
        (tail.1, tail.2 + 1)

def literalToken (out : Option JsString) : PhpToken :=
  match out with
  | some v => .string v false
  | none => .string [] true

/-- `indexOf('*/')`. -/
def commentEnd : List Char → Option Nat
  | '*' :: '/' :: _ => some 0
  | _ :: rest => (commentEnd rest).map (· + 1)
  | [] => none

/-- What the tokenizer makes of a position: how many characters it takes after the first, and their
token. -/
inductive Lexeme where
  | skip (more : Nat)
  | token (t : PhpToken) (more : Nat)
  | stop

def operators : List JsString :=
  ["=>".toList, "->".toList, "::".toList, "??".toList, "?->".toList]

/-- One turn of the tokenizer at the character `ch`, with `rest` after it. -/
def lexeme (ch : Char) (rest : List Char) : Lexeme :=
  if isBlank ch then .skip 0
  else if ch = '#' ∨ (ch = '/' ∧ rest.head? = some '/') then
    .skip (rest.takeWhile (· ≠ '\n')).length
  else if ch = '/' ∧ rest.head? = some '*' then
    match commentEnd rest.tail with
    | none => .stop
    | some found => .skip (found + 3)
  else if ch = '\'' then
    let literal := singleQuoted (some []) rest
    .token (literalToken literal.1) literal.2
  else if ch = '"' then
    let literal := doubleQuoted (some []) rest
    .token (literalToken literal.1) literal.2
  else if ch = '$' then
    let name := rest.takeWhile isNameChar
    if name = [] then .token (.punct [ch]) 0 else .token (.variable name) name.length
  else if isNameStart ch then
    let name := rest.takeWhile isNameChar
    .token (.word (ch :: name)) name.length
  else if ch.isDigit then
    let digits := rest.takeWhile fun c => c.isDigit || c == '.'
    .token (.number (ch :: digits)) digits.length
  else if ch :: rest.take 1 ∈ operators then .token (.op (ch :: rest.take 1)) 1
  else .token (.punct [ch]) 0

/-- The loop of `tokenizePhp`: `count` tokens are there, and `skip` characters are still part of the
last one read. -/
def tokensFrom : (count skip : Nat) → List Char → Option (List PhpToken)
  | _, _, [] => some []
  | count, skip + 1, _ :: rest => tokensFrom count skip rest
  | count, 0, ch :: rest =>
      if maxPhpTokens ≤ count then none
      else
        match lexeme ch rest with
        | .skip more => tokensFrom count more rest
        | .token t more => (tokensFrom (count + 1) more rest).map (t :: ·)
        | .stop => some []

/-- The tokens of a source text; `none` where the source throws. -/
def tokenizePhp (sourceText : JsString) : Option (List PhpToken) :=
  if maxPhpSourceChars < (codeUnits sourceText).length then none
  else tokensFrom 0 0 (codeUnits sourceText)

/-- An identifier, as `word` tokens carry. -/
def IsName (v : JsString) : Prop := ∀ c ∈ v, isNameChar c = true

theorem isNameChar_of_isNameStart {c : Char} (hc : isNameStart c = true) : isNameChar c = true := by
  simp only [isNameStart, isNameChar, Char.isAlphanum, Bool.or_eq_true] at hc ⊢
  rcases hc with hc | hc
  · exact .inl (.inl hc)
  · exact .inr hc

variable {symbol v : JsString} {tokens : List PhpToken} {k : Nat}

theorem isName_of_lexeme {ch : Char} {rest : List Char} {more : Nat}
    (h : lexeme ch rest = .token (.word v) more) : IsName v := by
  simp only [lexeme, literalToken] at h
  split_ifs at h with _ _ _ _ _ _ _ hstart
  all_goals try (simp at h; done)
  all_goals try (split at h <;> simp at h)
  obtain ⟨rfl, -⟩ : ch :: rest.takeWhile isNameChar = v ∧ _ := by simpa using h
  intro c hc
  rcases List.mem_cons.mp hc with rfl | hc
  · exact isNameChar_of_isNameStart hstart
  · exact List.mem_takeWhile_imp hc

theorem isName_of_tokensFrom {units : List Char} {count skip : Nat}
    (h : tokensFrom count skip units = some tokens) (hv : .word v ∈ tokens) : IsName v := by
  induction units generalizing count skip tokens with
  | nil =>
      obtain rfl : [] = tokens := by simpa [tokensFrom] using h
      simp at hv
  | cons ch rest ih =>
      cases skip with
      | succ skip => exact ih (by simpa [tokensFrom] using h) hv
      | zero =>
          simp only [tokensFrom] at h
          split at h
          · simp at h
          · split at h
            · exact ih h hv
            · next t more hlexeme =>
                obtain ⟨later, hlater, rfl⟩ := Option.map_eq_some_iff.mp h
                rcases List.mem_cons.mp hv with hword | hv
                · exact isName_of_lexeme (hword ▸ hlexeme)
                · exact ih hlater hv
            · obtain rfl : [] = tokens := by simpa using h
              simp at hv

theorem isName_of_tokenizePhp {sourceText : JsString}
    (h : tokenizePhp sourceText = some tokens) (hv : .word v ∈ tokens) : IsName v := by
  simp only [tokenizePhp] at h
  split at h
  · simp at h
  · exact isName_of_tokensFrom h hv

def functionWord : JsString := "function".toList

/-- The token at `k` begins a declaration of `symbol`. -/
def DeclaresAt (tokens : List PhpToken) (symbol : JsString) (k : Nat) : Prop :=
  tokens[k]? = some (.word functionWord) ∧ tokens[k + 1]? = some (.word symbol)

instance (tokens : List PhpToken) (symbol : JsString) (k : Nat) :
    Decidable (DeclaresAt tokens symbol k) :=
  inferInstanceAs (Decidable (_ ∧ _))

/-- The depth loop of `findMatchingBrace`, which has come to index `i`. -/
def matchingFrom (opens closes : JsString) : List PhpToken → (i : Nat) → (depth : Int) → Option Nat
  | [], _, _ => none
  | token :: rest, i, depth =>
      let depth := if token = .punct opens then depth + 1 else depth
      if token = .punct closes then
        if depth - 1 = 0 then some i else matchingFrom opens closes rest (i + 1) (depth - 1)
      else matchingFrom opens closes rest (i + 1) depth

def findMatchingBrace (tokens : List PhpToken) (openIndex : Nat) : Nat :=
  (matchingFrom "\x7b".toList "\x7d".toList (tokens.drop openIndex) openIndex 0).getD tokens.length

def openAfter : List PhpToken → (k : Nat) → Option Nat
  | [], _ => none
  | token :: rest, k =>
      if token = .punct "\x7b".toList then some k
      else if token = .punct ";".toList then none
      else openAfter rest (k + 1)

/-- The loop over a parameter list, which has come to index `j`. -/
def openFrom : List PhpToken → (j : Nat) → (depth : Int) → (sawParen : Bool) → Option Nat
  | [], _, _, _ => none
  | token :: rest, j, depth, sawParen =>
      if token = .punct "(".toList then openFrom rest (j + 1) (depth + 1) true
      else if token = .punct ")".toList then
        if depth - 1 = 0 ∧ sawParen = true then
          -- An abstract method has no body, and the loop goes on behind it.
          (openAfter rest (j + 1)).orElse fun _ => openFrom rest (j + 1) (depth - 1) sawParen
        else openFrom rest (j + 1) (depth - 1) sawParen
      else openFrom rest (j + 1) depth sawParen

structure Body where
  start : Nat
  stop : Nat
  deriving DecidableEq

def Body.indices (body : Body) : List Nat :=
  List.range' body.start (body.stop + 1 - body.start)

/-- The body of the function whose declaration begins at `k`. -/
def bodyAt (tokens : List PhpToken) (k : Nat) : Option Body :=
  (openFrom (tokens.drop (k + 2)) (k + 2) 0 false).map fun start =>
    { start, stop := findMatchingBrace tokens start }

/-- The first declaration of `symbol` decides. -/
def findFunctionBody (tokens : List PhpToken) (symbol : JsString) : Option Body :=
  ((List.range tokens.length).find? fun k => decide (DeclaresAt tokens symbol k)).bind
    (bodyAt tokens)

theorem findFunctionBody_eq_some {body : Body} (h : findFunctionBody tokens symbol = some body) :
    ∃ k, DeclaresAt tokens symbol k ∧ bodyAt tokens k = some body := by
  obtain ⟨k, hfound, hbody⟩ := Option.bind_eq_some_iff.mp h
  exact ⟨k, by simpa using List.find?_some hfound, hbody⟩

theorem lt_of_declaresAt (h : DeclaresAt tokens symbol k) : k < tokens.length :=
  (List.getElem?_eq_some_iff.mp h.1).1

theorem findFunctionBody_of_unique
    (hk : DeclaresAt tokens symbol k) (hunique : ∀ k', DeclaresAt tokens symbol k' → k' = k) :
    findFunctionBody tokens symbol = bodyAt tokens k := by
  have hfound : (List.range tokens.length).find?
      (fun k => decide (DeclaresAt tokens symbol k)) = some k := by
    cases hfind : (List.range tokens.length).find?
        (fun k => decide (DeclaresAt tokens symbol k)) with
    | none =>
        have hnone := List.find?_eq_none.mp hfind k (by simpa using lt_of_declaresAt hk)
        simp [hk] at hnone
    | some k' => rw [hunique k' (by simpa using List.find?_some hfind)]
  simp only [findFunctionBody, hfound, Option.bind_some]

theorem matchingFrom_closes {opens closes : JsString} {i : Nat}
    {depth : Int} {found : Nat} (h : matchingFrom opens closes tokens i depth = some found) :
    i ≤ found ∧ tokens[found - i]? = some (.punct closes) := by
  induction tokens generalizing i depth with
  | nil => simp [matchingFrom] at h
  | cons token rest ih =>
      have later : ∀ {depth : Int}, matchingFrom opens closes rest (i + 1) depth = some found →
          i ≤ found ∧ (token :: rest)[found - i]? = some (.punct closes) := by
        intro depth h
        obtain ⟨hle, hfound⟩ := ih h
        refine ⟨by omega, ?_⟩
        rw [show found - i = found - (i + 1) + 1 by omega, List.getElem?_cons_succ, hfound]
      simp only [matchingFrom] at h
      generalize (if token = .punct opens then depth + 1 else depth) = inner at h
      split at h
      · next hcloses =>
          split at h
          · obtain rfl : i = found := by simpa using h
            simp [hcloses]
          · exact later h
      · exact later h

theorem closes_of_bodyAt {body : Body}
    (h : bodyAt tokens k = some body) (hstop : body.stop < tokens.length) :
    tokens[body.stop]? = some (.punct "\x7d".toList) := by
  obtain ⟨start, -, rfl⟩ := Option.map_eq_some_iff.mp h
  simp only [findMatchingBrace] at hstop ⊢
  cases hmatch : matchingFrom "\x7b".toList "\x7d".toList (tokens.drop start) start 0 with
  | none =>
      rw [hmatch] at hstop
      simp at hstop
  | some found =>
      obtain ⟨hle, hfound⟩ := matchingFrom_closes hmatch
      rw [List.getElem?_drop, show start + (found - start) = found by omega] at hfound
      simpa using hfound

end NightWatch.Source.PhpTokens
