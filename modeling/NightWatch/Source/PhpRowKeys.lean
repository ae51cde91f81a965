import NightWatch.Lib.Guard
import NightWatch.Lib.TextOrder
import NightWatch.Source.FunctionBodies

namespace NightWatch.Source.PhpRowKeys

open Lib Lib.JsText Source.PhpTokens
open Source.FunctionBodies (punct)

def maxRowLiteralKeys : Nat := 64

def maxFunctionChars : Nat := 400000

inductive PhpLexFailure where
  | sourceTooLarge
  | functionNotFound
  | accumulatorNotFound
  | noRowLiteral
  | topLevelNotArray
  | itemKeysMismatch
  | typeFlowAmbiguous
  deriving DecidableEq

structure Refusal where
  failure : PhpLexFailure
  detail : Option JsString
  deriving DecidableEq

def refuse {α : Type} (failure : PhpLexFailure) : Except Refusal α := .error ⟨failure, none⟩

def refuseWith {α : Type} (failure : PhpLexFailure) (detail : JsString) : Except Refusal α :=
  .error ⟨failure, some detail⟩

/-- The tokens of a source and the body of a function, with the checks that the extractors
share. -/
def functionTokens (sourceText symbol : JsString) : Except Refusal (List PhpToken × Body) :=
  if maxPhpSourceChars < utf16Length sourceText then refuse .sourceTooLarge
  else
    match tokenizePhp sourceText with
    | none => refuseWith .sourceTooLarge "token-limit".toList
    | some tokens =>
        match findFunctionBody tokens symbol with
        | none => refuseWith .functionNotFound symbol
        | some body =>
            if maxFunctionChars < body.stop - body.start then
              refuseWith .sourceTooLarge "function-body".toList
            else .ok (tokens, body)

def findMatchingBracket (tokens : List PhpToken) (openIndex : Nat) : Nat :=
  (matchingFrom ['['] [']'] (tokens.drop openIndex) openIndex 0).getD tokens.length

def arrow : PhpToken := .op "=>".toList

def keyOf : PhpToken → Option JsString
  | .string v false => some v
  | _ => none

/-- The loop of `extractLiteralKeys`, with the tokens that remain before the closing bracket. -/
def keysFrom : (remaining : Nat) → List PhpToken → (depth : Int) → List JsString → List JsString
  | 0, _, _, keys => keys
  | _, [], _, keys => keys
  | n + 1, token :: rest, depth, keys =>
      if token = punct "[" then keysFrom n rest (depth + 1) keys
      else if token = punct "]" then keysFrom n rest (depth - 1) keys
      else if depth = 0 ∧ rest.head? = some arrow ∧ keys.length < maxRowLiteralKeys then
        keysFrom n rest depth (keys ++ (keyOf token).toList)
      else keysFrom n rest depth keys

def extractLiteralKeys (tokens : List PhpToken) (openIndex : Nat) : List JsString :=
  keysFrom (findMatchingBracket tokens openIndex - (openIndex + 1)) (tokens.drop (openIndex + 1))
    0 []

/-- The hops of `return $this->...->method($acc, ...)`. -/
def hopsTo (accumulator : JsString) : List PhpToken → Bool
  | .op hop :: .word _ :: rest =>
      if hop = "->".toList then
        match rest with
        | .punct p :: more =>
            if p = ['('] then decide (more.head? = some (.variable accumulator))
            else hopsTo accumulator (.punct p :: more)
        | rest => hopsTo accumulator rest
      else false
  | _ => false

/-- What follows a `return`. -/
def isReturnOfAccumulator (accumulator : JsString) : List PhpToken → Bool
  | .variable v :: rest =>
      if v = accumulator then true
      else if v = "this".toList then hopsTo accumulator rest
      else false
  | _ => false

inductive RowPattern where
  | push
  | assign
  deriving DecidableEq

def openerAt (tokens : List PhpToken) (accumulator : JsString) (i : Nat) : RowPattern → Option Nat
  | .push =>
      if tokens[i]? = some (.variable accumulator) ∧ tokens[i + 1]? = some (punct "[") ∧
          tokens[i + 2]? = some (punct "]") ∧ tokens[i + 3]? = some (punct "=") ∧
          tokens[i + 4]? = some (punct "[") then some (i + 4)
      else none
  | .assign =>
      if tokens[i]? = some (.variable accumulator) ∧ tokens[i + 1]? = some (punct "=") ∧
          tokens[i + 2]? = some (punct "[") then some (i + 2)
      else none

def indices (body : Body) : List Nat := List.range' (body.start + 1) (body.stop - (body.start + 1))

def literalOpeners (tokens : List PhpToken) (body : Body) (accumulator : JsString)
    (pattern : RowPattern) : List Nat :=
  (indices body).filterMap fun i => openerAt tokens accumulator i pattern

def returnWord : PhpToken := .word "return".toList

def returns (tokens : List PhpToken) (body : Body) : List Nat :=
  (indices body).filter fun i => tokens[i]? = some returnWord

structure RowKeysExtraction where
  symbol : JsString
  pattern : RowPattern
  itemKeys : List JsString
  rowLiteralCount : Nat
  deriving DecidableEq

def sorted (keys : List JsString) : List JsString := keys.insertionSort textLe

def extractFromBody (tokens : List PhpToken) (body : Body) (symbol accumulator : JsString)
    (pattern : RowPattern) : Except Refusal RowKeysExtraction :=
  let openers := literalOpeners tokens body accumulator pattern
  if openers = [] then refuseWith .accumulatorNotFound accumulator
  else if returns tokens body = [] then refuseWith .topLevelNotArray "no-return".toList
  else if !(returns tokens body).any fun i =>
      isReturnOfAccumulator accumulator (tokens.drop (i + 1)) then
    refuseWith .topLevelNotArray "return-not-accumulator".toList
  else
    match (openers.map (extractLiteralKeys tokens)).filter (· ≠ []) with
    | [] => refuse .noRowLiteral
    | keys :: others =>
        if others.any fun other => sorted other ≠ sorted keys then refuse .itemKeysMismatch
        else .ok ⟨symbol, pattern, sorted keys, openers.length⟩

def extractPhpFunctionListRowKeys (sourceText symbol accumulator : JsString)
    (pattern : RowPattern) : Except Refusal RowKeysExtraction := do
  let (tokens, body) ← functionTokens sourceText symbol
  extractFromBody tokens body symbol accumulator pattern

section Literals

open Lib.Nesting

def inner (tokens : List PhpToken) (openIndex : Nat) : List PhpToken :=
  (tokens.drop (openIndex + 1)).take (findMatchingBracket tokens openIndex - (openIndex + 1))

/-- A string before an arrow. -/
def KeyAt (l : List PhpToken) (n : Nat) (v : JsString) (oversized : Bool) : Prop :=
  l[n]? = some (.string v oversized) ∧ l[n + 1]? = some arrow

/-- Nothing that was opened in front of an index is still open there. -/
structure AtTop (l : List PhpToken) (n : Nat) : Prop where
  round : level (punct "(") (punct ")") (l.take n) = 0
  square : level (punct "[") (punct "]") (l.take n) = 0
  curly : level (punct "\x7b") (punct "\x7d") (l.take n) = 0

/-- A top-level string key of a literal; the text of an oversized one is not known. -/
def TopKey (tokens : List PhpToken) (openIndex : Nat) (key : Option JsString) : Prop :=
  ∃ n v oversized, KeyAt (inner tokens openIndex) n v oversized ∧
    AtTop (inner tokens openIndex) n ∧ key = if oversized then none else some v

def entries : List PhpToken → (depth : Int) → List JsString
  | [], _ => []
  | token :: rest, depth =>
      (if depth = 0 ∧ rest.head? = some arrow then (keyOf token).toList else []) ++
        entries rest (depth + turn (punct "[") (punct "]") token)

theorem squares_ne : punct "[" ≠ punct "]" := by decide

variable {v : JsString} {l : List PhpToken} {depth : Int}

theorem keyOf_eq_some {token : PhpToken} : keyOf token = some v ↔ token = .string v false := by
  constructor
  · intro h
    cases token with
    | string w oversized =>
        cases oversized with
        | false => rw [Option.some.inj h]
        | true => contradiction
    | _ => contradiction
  · rintro rfl
    rfl

theorem mem_entries : v ∈ entries l depth ↔
    ∃ n, KeyAt l n v false ∧ depth + level (punct "[") (punct "]") (l.take n) = 0 := by
  induction l generalizing depth with
  | nil => simp [entries, KeyAt]
  | cons token rest ih =>
      have hlater : (∃ n, KeyAt (token :: rest) (n + 1) v false ∧
          depth + level (punct "[") (punct "]") ((token :: rest).take (n + 1)) = 0) ↔
          v ∈ entries rest (depth + turn (punct "[") (punct "]") token) := by
        rw [ih]
        simp only [KeyAt, List.getElem?_cons_succ, List.take_succ_cons, level_cons, Int.add_assoc]
      have hfirst : KeyAt (token :: rest) 0 v false ↔
          keyOf token = some v ∧ rest.head? = some arrow := by
        simp [KeyAt, List.head?_eq_getElem?, keyOf_eq_some]
      rw [← Nat.or_exists_add_one, hlater, hfirst, entries, List.mem_append, List.take_zero,
        level_nil, Int.add_zero]
      refine or_congr_left ?_
      split
      · rename_i h
        rw [Option.mem_toList]
        exact ⟨fun hkey => ⟨⟨hkey, h.2⟩, h.1⟩, fun hkey => hkey.1.1⟩
      · rename_i h
        exact iff_of_false List.not_mem_nil fun hkey => h ⟨hkey.2, hkey.1.2⟩

theorem keysFrom_eq {n : Nat} {keys : List JsString}
    (hend : l[n]? ≠ some arrow) (hkeys : keys.length ≤ maxRowLiteralKeys) :
    keysFrom n l depth keys =
      keys ++ (entries (l.take n) depth).take (maxRowLiteralKeys - keys.length) := by
  induction n generalizing l depth keys with
  | zero => simp [keysFrom, entries]
  | succ n ih =>
      cases l with
      | nil => simp [keysFrom, entries]
      | cons token rest =>
          rw [List.getElem?_cons_succ] at hend
          have hhead : (rest.take n).head? = some arrow ↔ rest.head? = some arrow := by
            cases n with
            | zero =>
                rw [← List.head?_eq_getElem?] at hend
                exact iff_of_false (by simp) hend
            | succ n => rw [List.head?_take, if_neg (Nat.succ_ne_zero n)]
          rw [keysFrom, List.take_succ_cons, entries]
          simp only [hhead]
          by_cases hopen : token = punct "["
          · subst hopen
            have hkey : (keyOf (punct "[")).toList = [] := rfl
            rw [if_pos rfl, ih hend hkeys, turn_opens squares_ne, hkey, ite_self, List.nil_append]
          by_cases hclose : token = punct "]"
          · subst hclose
            have hkey : (keyOf (punct "]")).toList = [] := rfl
            rw [if_neg squares_ne.symm, if_pos rfl, ih hend hkeys, turn_closes squares_ne, hkey,
              ite_self, List.nil_append]
            rfl
          rw [if_neg hopen, if_neg hclose, turn_other hopen hclose, Int.add_zero]
          by_cases hat : depth = 0 ∧ rest.head? = some arrow
          · rw [if_pos hat]
            by_cases hroom : keys.length < maxRowLiteralKeys
            · rw [if_pos ⟨hat.1, hat.2, hroom⟩]
              cases keyOf token with
              | none => rw [Option.toList_none, List.append_nil, List.nil_append, ih hend hkeys]
              | some v =>
                  rw [Option.toList_some, ih hend (by simpa using hroom), List.append_assoc,
                    List.length_append, List.length_singleton, List.singleton_append,
                    List.singleton_append,
                    show maxRowLiteralKeys - keys.length =
                      maxRowLiteralKeys - (keys.length + 1) + 1 by omega, List.take_succ_cons]
            · rw [if_neg fun h => hroom h.2.2, ih hend hkeys,
                show maxRowLiteralKeys - keys.length = 0 by omega, List.take_zero, List.take_zero]
          · rw [if_neg fun h => hat ⟨h.1, h.2.1⟩, if_neg hat, List.nil_append, ih hend hkeys]

theorem closing_ne_arrow {tokens : List PhpToken} {openIndex : Nat}
    (hopen : tokens[openIndex]? = some (punct "[")) :
    openIndex + 1 ≤ findMatchingBracket tokens openIndex ∧
      tokens[findMatchingBracket tokens openIndex]? ≠ some arrow := by
  have hlength := (List.getElem?_eq_some_iff.mp hopen).1
  rw [findMatchingBracket]
  cases hfound : matchingFrom ['['] [']'] (tokens.drop openIndex) openIndex 0 with
  | none =>
      rw [Option.getD_none, List.getElem?_eq_none le_rfl]
      exact ⟨hlength, by simp⟩
  | some found =>
      obtain ⟨hle, hclose⟩ := matchingFrom_closes hfound
      rw [List.getElem?_drop, show openIndex + (found - openIndex) = found by omega] at hclose
      rw [Option.getD_some, hclose]
      refine ⟨?_, by decide⟩
      rcases Nat.lt_or_eq_of_le hle with hlt | rfl
      · exact hlt
      · rw [hopen] at hclose
        exact absurd hclose (by decide)

theorem extractLiteralKeys_eq {tokens : List PhpToken} {openIndex : Nat}
    (hopen : tokens[openIndex]? = some (punct "[")) : extractLiteralKeys tokens openIndex =
      (entries (inner tokens openIndex) 0).take maxRowLiteralKeys := by
  obtain ⟨hle, harrow⟩ := closing_ne_arrow hopen
  rw [extractLiteralKeys, keysFrom_eq ?_ (Nat.zero_le _), List.nil_append, inner]
  · rfl
  · rw [List.getElem?_drop, show openIndex + 1 +
      (findMatchingBracket tokens openIndex - (openIndex + 1)) =
        findMatchingBracket tokens openIndex by omega]
    exact harrow

end Literals

section Contracts

variable {tokens : List PhpToken} {body : Body} {accumulator symbol : JsString}
  {pattern : RowPattern}

/-- What follows a `return` hands back something other than nothing, `null` or an empty
literal. -/
def handsBackRows : List PhpToken → Bool
  | [] => false
  | .punct p :: rest =>
      if p = [';'] then false else p ≠ ['['] || decide (rest.head? ≠ some (punct "]"))
  | .word w :: _ => decide (w.map Char.toLower ≠ "null".toList)
  | _ => true

/-- What follows a `return` is the accumulator alone, or the row-level call that is given it. -/
def handsBackAccumulator (accumulator : JsString) : List PhpToken → Bool
  | .variable v :: rest =>
      decide (v = accumulator ∧ rest.head? = some (punct ";")) ||
        decide (v = "this".toList) && hopsTo accumulator rest
  | _ => false

/-- Every return of rows hands back the accumulator. -/
def ReturnsAccumulator (tokens : List PhpToken) (body : Body) (accumulator : JsString) : Prop :=
  ∀ i ∈ returns tokens body, handsBackRows (tokens.drop (i + 1)) = true →
    handsBackAccumulator accumulator (tokens.drop (i + 1)) = true

/-- The contract that an extraction states: these are the keys of every row, and every return of
rows hands back the accumulator. -/
def Exact (tokens : List PhpToken) (body : Body) (accumulator : JsString) (pattern : RowPattern)
    (itemKeys : List JsString) : Prop :=
  (∀ o ∈ literalOpeners tokens body accumulator pattern, ∀ key,
    TopKey tokens o key ↔ ∃ k ∈ itemKeys, key = some k) ∧
    ReturnsAccumulator tokens body accumulator

/-- A literal with a top-level string key, whose top-level string keys are the first that the scan
meets outside of square brackets. -/
structure Readable (tokens : List PhpToken) (openIndex : Nat) : Prop where
  keyed : ∃ key, TopKey tokens openIndex key
  complete : ∀ key, TopKey tokens openIndex key →
    ∃ k ∈ (entries (inner tokens openIndex) 0).take maxRowLiteralKeys, key = some k
  sound : ∀ k ∈ (entries (inner tokens openIndex) 0).take maxRowLiteralKeys,
    TopKey tokens openIndex (some k)

theorem mem_sorted {keys : List JsString} {k : JsString} : k ∈ sorted keys ↔ k ∈ keys :=
  List.mem_insertionSort _

theorem getElem_of_opener {o : Nat} (h : o ∈ literalOpeners tokens body accumulator pattern) :
    tokens[o]? = some (punct "[") := by
  obtain ⟨i, -, hopener⟩ := List.mem_filterMap.mp h
  cases pattern with
  | push =>
      rw [openerAt] at hopener
      split at hopener
      · rename_i htokens
        obtain rfl := Option.some.inj hopener
        exact htokens.2.2.2.2
      · contradiction
  | assign =>
      rw [openerAt] at hopener
      split at hopener
      · rename_i htokens
        obtain rfl := Option.some.inj hopener
        exact htokens.2.2
      · contradiction

variable {extraction : RowKeysExtraction}

theorem extractFromBody_eq_ok
    (h : extractFromBody tokens body symbol accumulator pattern = .ok extraction) :
    (∃ k, k ∈ extraction.itemKeys) ∧ ∀ o ∈ literalOpeners tokens body accumulator pattern,
        extractLiteralKeys tokens o ≠ [] →
          ∀ k, k ∈ extractLiteralKeys tokens o ↔ k ∈ extraction.itemKeys := by
  rw [extractFromBody] at h
  split at h
  · contradiction
  split at h
  · contradiction
  split at h
  · contradiction
  split at h
  · contradiction
  rename_i keys others hkeys
  split at h
  · contradiction
  rename_i hall
  obtain rfl := Except.ok.inj h
  have hmem : ∀ seen ∈ keys :: others, seen ≠ [] := by
    intro seen hseen
    rw [← hkeys] at hseen
    exact of_decide_eq_true (List.mem_filter.mp hseen).2
  have hsorted : ∀ seen ∈ keys :: others, sorted seen = sorted keys := by
    intro seen hseen
    rcases List.mem_cons.mp hseen with rfl | hseen
    · rfl
    · by_contra hne
      exact hall (List.any_eq_true.mpr ⟨seen, hseen, decide_eq_true hne⟩)
  constructor
  · obtain ⟨k, hk⟩ := List.exists_mem_of_ne_nil keys (hmem keys List.mem_cons_self)
    exact ⟨k, mem_sorted.mpr hk⟩
  · intro o ho hne k
    have hseen : extractLiteralKeys tokens o ∈ keys :: others := by
      rw [← hkeys]
      exact List.mem_filter.mpr ⟨List.mem_map_of_mem ho, decide_eq_true hne⟩
    change _ ↔ k ∈ sorted keys
    rw [← hsorted _ hseen, mem_sorted]

theorem exact_iff_readable
    (h : extractFromBody tokens body symbol accumulator pattern = .ok extraction) :
    Exact tokens body accumulator pattern extraction.itemKeys ↔
      (∀ o ∈ literalOpeners tokens body accumulator pattern, Readable tokens o) ∧
        ReturnsAccumulator tokens body accumulator := by
  obtain ⟨⟨k₀, hk₀⟩, hseen⟩ := extractFromBody_eq_ok h
  refine and_congr_left fun _ => forall₂_congr fun o ho => ?_
  have hkeys := extractLiteralKeys_eq (getElem_of_opener ho)
  have hseen := hseen o ho
  rw [hkeys] at hseen
  constructor
  · intro hexact
    have hkeyed := (hexact (some k₀)).mpr ⟨k₀, hk₀, rfl⟩
    have hne : (entries (inner tokens o) 0).take maxRowLiteralKeys ≠ [] := by
      -- A top-level key is outside of square brackets, so the scan comes across some key.
      obtain ⟨n, v, oversized, hat, htop, hkey⟩ := hkeyed
      cases oversized with
      | true => contradiction
      | false =>
          have hentry : v ∈ entries (inner tokens o) 0 :=
            mem_entries.mpr ⟨n, hat, by rw [htop.square, Int.add_zero]⟩
          intro hnil
          rw [List.take_eq_nil_iff] at hnil
          rcases hnil with hnil | hnil
          · contradiction
          · rw [hnil] at hentry
            contradiction
    refine ⟨⟨_, hkeyed⟩, fun key hkey => ?_, fun k hk => ?_⟩
    · obtain ⟨k, hk, rfl⟩ := (hexact key).mp hkey
      exact ⟨k, (hseen hne k).mpr hk, rfl⟩
    · exact (hexact _).mpr ⟨k, (hseen hne k).mp hk, rfl⟩
  · rintro ⟨⟨key, hkey⟩, hcomplete, hsound⟩ other
    have hne : (entries (inner tokens o) 0).take maxRowLiteralKeys ≠ [] := by
      obtain ⟨k, hk, -⟩ := hcomplete key hkey
      exact List.ne_nil_of_mem hk
    constructor
    · intro hother
      obtain ⟨k, hk, rfl⟩ := hcomplete other hother
      exact ⟨k, (hseen hne k).mp hk, rfl⟩
    · rintro ⟨k, hk, rfl⟩
      exact hsound k ((hseen hne k).mpr hk)

/-- Where an extraction succeeds, its contract holds exactly where every literal is readable and
every return of rows hands back the accumulator. -/
theorem rowKeys_exact_iff {sourceText : JsString} {extraction : RowKeysExtraction}
    (h : extractPhpFunctionListRowKeys sourceText symbol accumulator pattern = .ok extraction) :
    ∃ tokens body, functionTokens sourceText symbol = .ok (tokens, body) ∧
      (Exact tokens body accumulator pattern extraction.itemKeys ↔
        (∀ o ∈ literalOpeners tokens body accumulator pattern, Readable tokens o) ∧
          ReturnsAccumulator tokens body accumulator) := by
  rw [extractPhpFunctionListRowKeys, Guard.bind_eq_ok] at h
  obtain ⟨⟨tokens, body⟩, htokens, h⟩ := h
  exact ⟨tokens, body, htokens, exact_iff_readable h⟩

end Contracts

def pushing (row : String) : JsString :=
  ("function f() \x7b $a[] = ['k' => 1]; $a[] = " ++ row ++ "; return $a; \x7d").toList

theorem rowKeys_exact_iff_pushing :
    extractPhpFunctionListRowKeys (pushing "['k' => 2]") ['f'] ['a'] .push =
        .ok ⟨['f'], .push, [['k']], 2⟩ ∧
      ∃ tokens body, functionTokens (pushing "['k' => 2]") ['f'] = .ok (tokens, body) ∧
        (Exact tokens body ['a'] .push [['k']] ↔
          (∀ o ∈ literalOpeners tokens body ['a'] .push, Readable tokens o) ∧
            ReturnsAccumulator tokens body ['a']) :=
  have hread : extractPhpFunctionListRowKeys (pushing "['k' => 2]") ['f'] ['a'] .push =
      .ok ⟨['f'], .push, [['k']], 2⟩ := by
    decide +kernel
  ⟨hread, rowKeys_exact_iff hread⟩

def keylessTokens : List PhpToken :=
  [.word "function".toList, .word ['f'], punct "(", punct ")", punct "\x7b", .variable ['a'],
    punct "[", punct "]", punct "=", punct "[", .string ['k'] false, arrow, .number ['1'], punct "]",
    punct ";", .variable ['a'], punct "[", punct "]", punct "=", punct "[", .number ['2'],
    punct "]", punct ";", returnWord, .variable ['a'], punct ";", punct "\x7d"]

/-- A row without keys is left out of the comparison. -/
theorem keyless_row_passes :
    functionTokens (pushing "[2]") ['f'] = .ok (keylessTokens, ⟨4, 26⟩) ∧
      extractPhpFunctionListRowKeys (pushing "[2]") ['f'] ['a'] .push =
        .ok ⟨['f'], .push, [['k']], 2⟩ ∧
      ¬ Exact keylessTokens ⟨4, 26⟩ ['a'] .push [['k']] := by
  refine ⟨by decide +kernel, by decide +kernel, ?_⟩
  rintro ⟨hrows, -⟩
  have hopener : 19 ∈ literalOpeners keylessTokens ⟨4, 26⟩ ['a'] .push := by decide +kernel
  obtain ⟨n, v, oversized, hat, -, -⟩ :=
    (hrows 19 hopener (some ['k'])).mpr ⟨['k'], List.mem_singleton_self _, rfl⟩
  have harrow : arrow ∈ inner keylessTokens 19 := List.mem_of_getElem? hat.2
  exact absurd harrow (by decide +kernel)

end NightWatch.Source.PhpRowKeys
