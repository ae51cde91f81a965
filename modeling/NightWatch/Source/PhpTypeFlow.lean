import NightWatch.Source.PhpRowKeys

namespace NightWatch.Source.PhpTypeFlow

open Lib Lib.JsText Lib.Nesting Source.PhpTokens
open Source.FunctionBodies (punct)
open Source.PhpRowKeys

inductive TypeFlowPattern where
  | emptyCastObject
  | emptyArrayOrStringKeys
  deriving DecidableEq

def TypeFlowPattern.text : TypeFlowPattern → JsString
  | .emptyCastObject => "EMPTY_CAST_OBJECT".toList
  | .emptyArrayOrStringKeys => "EMPTY_ARRAY_OR_STRING_KEYS".toList

inductive ProjectionNodeType where
  | object
  | array
  deriving DecidableEq

def isString (token : Option PhpToken) (v : JsString) : Bool :=
  match token with
  | some (.string w _) => w = v
  | _ => false

def emptyWord : PhpToken := .word "empty".toList

def ifWord : PhpToken := .word "if".toList

/-- `empty($var` at an index. -/
def TestsEmpty (tokens : List PhpToken) (fieldVariable : JsString) (m : Nat) : Prop :=
  tokens[m]? = some emptyWord ∧ tokens[m + 1]? = some (punct "(") ∧
    tokens[m + 2]? = some (.variable fieldVariable)

instance (tokens : List PhpToken) (fieldVariable : JsString) (m : Nat) :
    Decidable (TestsEmpty tokens fieldVariable m) :=
  inferInstanceAs (Decidable (_ ∧ _))

def conditionTestsEmpty (tokens : List PhpToken) (fieldVariable : JsString) (word brace : Nat) :
    Bool :=
  (List.range' (word + 1) (brace - 1 - (word + 1))).any fun m =>
    decide (TestsEmpty tokens fieldVariable m)

/-- The block around the assignment and the condition in front of it are found by searches down to
the body's own brace, which is no `if`. -/
def isEmptyGuardedCast (tokens : List PhpToken) (bodyStart assignIndex : Nat)
    (fieldVariable : JsString) : Bool :=
  match openerBefore (punct "\x7b") (punct "\x7d") tokens bodyStart assignIndex 0 with
  | none => false
  | some brace =>
      if tokens[brace - 1]? = some (punct ")") then
        match openerBefore (punct "(") (punct ")") tokens bodyStart (brace - 1) 0 with
        | none => false
        | some parenthesis =>
            decide (tokens[parenthesis - 1]? = some ifWord) &&
              conditionTestsEmpty tokens fieldVariable (parenthesis - 1) brace
      else false

/-- `$var = (object)$var` at an index. -/
def CastAt (tokens : List PhpToken) (fieldVariable : JsString) (i : Nat) : Prop :=
  tokens[i + 2]? = some (punct "(") ∧ tokens[i + 3]? = some (.word "object".toList) ∧
    tokens[i + 4]? = some (punct ")") ∧ tokens[i + 5]? = some (.variable fieldVariable)

instance (tokens : List PhpToken) (fieldVariable : JsString) (i : Nat) :
    Decidable (CastAt tokens fieldVariable i) :=
  inferInstanceAs (Decidable (_ ∧ _))

inductive Site where
  | rowField
  | subscript
  | arrayInit
  | guardedCast
  | other
  deriving DecidableEq

def siteAt (tokens : List PhpToken) (body : Body) (fieldVariable : JsString) (i : Nat) :
    Option Site :=
  if isString tokens[i]? fieldVariable ∧ tokens[i + 1]? = some arrow ∧
      tokens[i + 2]? = some (.variable fieldVariable) then some .rowField
  else if tokens[i]? ≠ some (.variable fieldVariable) then none
  else if tokens[i + 1]? = some (punct "[") then
    if tokens[findMatchingBracket tokens (i + 1) + 1]? = some (punct "=") then some .subscript
    else none
  else if tokens[i + 1]? = some (punct "=") then
    if tokens[i + 2]? = some (punct "[") then some .arrayInit
    else if CastAt tokens fieldVariable i ∧
        isEmptyGuardedCast tokens body.start i fieldVariable = true then some .guardedCast
    else some .other
  else none

def sites (tokens : List PhpToken) (body : Body) (fieldVariable : JsString) (site : Site) : Nat :=
  (indices body).countP fun i => siteAt tokens body fieldVariable i = some site

structure TypeFlowExtraction where
  symbol : JsString
  fieldVariable : JsString
  pattern : TypeFlowPattern
  arrayInitSites : Nat
  emptyGuardedCastSites : Nat
  subscriptAssignments : Nat
  otherAssignments : Nat
  rowFieldBinding : Bool
  allowedJsonTypes : List ProjectionNodeType
  deriving DecidableEq

def flagText (flag : Bool) : JsString := if flag then "true".toList else "false".toList

def ambiguityDetail (pattern : TypeFlowPattern) (inits casts subscripts others : Nat)
    (bound : Bool) : JsString :=
  "pattern:".toList ++ pattern.text ++ " init:".toList ++ decimal inits ++ " cast:".toList ++
    decimal casts ++
    (match pattern with
      | .emptyCastObject => []
      | .emptyArrayOrStringKeys => " subscript:".toList ++ decimal subscripts) ++
    " other:".toList ++ decimal others ++ " binding:".toList ++ flagText bound

def allowedTypes (pattern : TypeFlowPattern) (inits casts subscripts others : Nat)
    (bound : Bool) : Option (List ProjectionNodeType) :=
  match pattern with
  | .emptyCastObject =>
      if 1 ≤ inits ∧ 1 ≤ casts ∧ others = 0 ∧ bound = true then some [.object] else none
  | .emptyArrayOrStringKeys =>
      if 1 ≤ inits ∧ casts = 0 ∧ 1 ≤ subscripts ∧ others = 0 ∧ bound = true then
        some [.object, .array]
      else none

def flowFromBody (tokens : List PhpToken) (body : Body) (symbol fieldVariable : JsString)
    (pattern : TypeFlowPattern) : Except Refusal TypeFlowExtraction :=
  let found := sites tokens body fieldVariable
  let bound := decide (found .rowField ≠ 0)
  match allowedTypes pattern (found .arrayInit) (found .guardedCast) (found .subscript)
    (found .other) bound with
  | none => refuseWith .typeFlowAmbiguous (ambiguityDetail pattern (found .arrayInit)
      (found .guardedCast) (found .subscript) (found .other) bound)
  | some types => .ok ⟨symbol, fieldVariable, pattern, found .arrayInit, found .guardedCast,
      found .subscript, found .other, bound, types⟩

def extractPhpItemFieldTypeFlow (sourceText symbol fieldVariable : JsString)
    (pattern : TypeFlowPattern) : Except Refusal TypeFlowExtraction := do
  let (tokens, body) ← functionTokens sourceText symbol
  flowFromBody tokens body symbol fieldVariable pattern

section Guards

variable {tokens : List PhpToken} {body : Body} {fieldVariable : JsString} {i : Nat}

/-- The assignment stands in a block whose own `if` condition contains `empty($var`. -/
structure Guarded (tokens : List PhpToken) (bodyStart i : Nat) (fieldVariable : JsString)
    (word brace : Nat) : Prop where
  inBody : bodyStart ≤ word
  isIf : tokens[word]? = some ifWord
  condition : Encloses (punct "(") (punct ")") tokens (word + 1) (brace - 1)
  closed : tokens[brace - 1]? = some (punct ")")
  block : Encloses (punct "\x7b") (punct "\x7d") tokens brace i
  tests : ∃ m, word < m ∧ m < brace - 1 ∧ TestsEmpty tokens fieldVariable m

theorem guarded_of_isEmptyGuardedCast {bodyStart : Nat} (hlength : i ≤ tokens.length)
    (h : isEmptyGuardedCast tokens bodyStart i fieldVariable = true) :
    ∃ word brace, Guarded tokens bodyStart i fieldVariable word brace := by
  rw [isEmptyGuardedCast] at h
  split at h
  · contradiction
  rename_i brace hbrace
  obtain ⟨-, hblock⟩ := encloses_of_openerBefore (by decide) hlength hbrace
  split at h
  · rename_i hclosed
    split at h
    · contradiction
    rename_i parenthesis hparenthesis
    have hbefore := hblock.before
    obtain ⟨hlow, hcondition⟩ := encloses_of_openerBefore (by decide)
      (show brace - 1 ≤ tokens.length by omega) hparenthesis
    rw [Bool.and_eq_true, decide_eq_true_eq, conditionTestsEmpty, List.any_eq_true] at h
    obtain ⟨hif, m, hm, htests⟩ := h
    rw [List.mem_range'_1] at hm
    have hword : parenthesis - 1 + 1 = parenthesis := by omega
    refine ⟨parenthesis - 1, brace, by omega, hif, ?_, hclosed, hblock, m, by omega, by omega,
      of_decide_eq_true htests⟩
    rw [hword]
    exact hcondition
  · contradiction

end Guards

section Contracts

variable {tokens : List PhpToken} {body : Body} {symbol fieldVariable : JsString}
  {pattern : TypeFlowPattern} {i : Nat}

/-- `$var =` at an index. -/
def Assigns (tokens : List PhpToken) (fieldVariable : JsString) (i : Nat) : Prop :=
  tokens[i]? = some (.variable fieldVariable) ∧ tokens[i + 1]? = some (punct "=")

/-- An array literal is assigned. -/
def ArrayAssigned (tokens : List PhpToken) (fieldVariable : JsString) (i : Nat) : Prop :=
  Assigns tokens fieldVariable i ∧ tokens[i + 2]? = some (punct "[")

/-- The variable's object cast is assigned, in a block whose own `if` tests it with `empty`. -/
def CastAssigned (tokens : List PhpToken) (body : Body) (fieldVariable : JsString) (i : Nat) :
    Prop :=
  Assigns tokens fieldVariable i ∧ CastAt tokens fieldVariable i ∧
    ∃ word brace, Guarded tokens body.start i fieldVariable word brace

/-- `$var[...] =` at an index. -/
def SubscriptAssigned (tokens : List PhpToken) (fieldVariable : JsString) (i : Nat) : Prop :=
  tokens[i]? = some (.variable fieldVariable) ∧ tokens[i + 1]? = some (punct "[") ∧
    tokens[findMatchingBracket tokens (i + 1) + 1]? = some (punct "=")

/-- A row literal has the variable under its own name. -/
def RowField (tokens : List PhpToken) (fieldVariable : JsString) (i : Nat) : Prop :=
  isString tokens[i]? fieldVariable = true ∧ tokens[i + 1]? = some arrow ∧
    tokens[i + 2]? = some (.variable fieldVariable)

variable {site : Site}

theorem siteAt_spec (h : siteAt tokens body fieldVariable i = some site) : match site with
    | .rowField => RowField tokens fieldVariable i
    | .subscript => SubscriptAssigned tokens fieldVariable i
    | .arrayInit => ArrayAssigned tokens fieldVariable i
    | .guardedCast => CastAssigned tokens body fieldVariable i
    | .other => Assigns tokens fieldVariable i := by
  rw [siteAt] at h
  split at h
  · rename_i hrow
    obtain rfl := Option.some.inj h
    exact hrow
  split at h
  · contradiction
  rename_i hvariable
  rw [not_not] at hvariable
  have hlength : i ≤ tokens.length := (List.getElem?_eq_some_iff.mp hvariable).1.le
  split at h
  · rename_i hsquare
    split at h
    · rename_i hequals
      obtain rfl := Option.some.inj h
      exact ⟨hvariable, hsquare, hequals⟩
    · contradiction
  split at h
  · rename_i hassigns
    split at h
    · rename_i hliteral
      obtain rfl := Option.some.inj h
      exact ⟨⟨hvariable, hassigns⟩, hliteral⟩
    split at h
    · rename_i hcast
      obtain rfl := Option.some.inj h
      exact ⟨⟨hvariable, hassigns⟩, hcast.1, guarded_of_isEmptyGuardedCast hlength hcast.2⟩
    · obtain rfl := Option.some.inj h
      exact ⟨hvariable, hassigns⟩
  · contradiction

theorem siteAt_of_assigns (h : Assigns tokens fieldVariable i) :
    siteAt tokens body fieldVariable i = some .arrayInit ∨
      siteAt tokens body fieldVariable i = some .guardedCast ∨
        siteAt tokens body fieldVariable i = some .other := by
  obtain ⟨hvariable, hassigns⟩ := h
  have hstring : ¬ (isString tokens[i]? fieldVariable = true ∧ tokens[i + 1]? = some arrow ∧
      tokens[i + 2]? = some (.variable fieldVariable)) := by
    rintro ⟨hstring, -⟩
    rw [hvariable] at hstring
    contradiction
  have hsquare : tokens[i + 1]? ≠ some (punct "[") := by
    rw [hassigns]
    decide
  rw [siteAt, if_neg hstring, if_neg (not_not.mpr hvariable), if_neg hsquare, if_pos hassigns]
  split
  · exact .inl rfl
  split
  · exact .inr (.inl rfl)
  · exact .inr (.inr rfl)

/-- What the table asks of a variable's assignments, and the types that it then allows. -/
structure Admitted (tokens : List PhpToken) (body : Body) (fieldVariable : JsString)
    (pattern : TypeFlowPattern) (types : List ProjectionNodeType) : Prop where
  assignments : ∀ i ∈ indices body, Assigns tokens fieldVariable i →
    ArrayAssigned tokens fieldVariable i ∨
      pattern = .emptyCastObject ∧ CastAssigned tokens body fieldVariable i
  initialised : ∃ i ∈ indices body, ArrayAssigned tokens fieldVariable i
  bound : ∃ i ∈ indices body, RowField tokens fieldVariable i
  table : pattern = .emptyCastObject ∧ types = [.object] ∧
      (∃ i ∈ indices body, CastAssigned tokens body fieldVariable i) ∨
    pattern = .emptyArrayOrStringKeys ∧ types = [.object, .array] ∧
      ∃ i ∈ indices body, SubscriptAssigned tokens fieldVariable i

structure Counted (tokens : List PhpToken) (body : Body) (extraction : TypeFlowExtraction) :
    Prop where
  inits : extraction.arrayInitSites = sites tokens body extraction.fieldVariable .arrayInit
  casts : extraction.emptyGuardedCastSites = sites tokens body extraction.fieldVariable .guardedCast
  subscripts : extraction.subscriptAssignments =
    sites tokens body extraction.fieldVariable .subscript
  others : extraction.otherAssignments = sites tokens body extraction.fieldVariable .other

theorem exists_site (h : 1 ≤ sites tokens body fieldVariable site) :
    ∃ i ∈ indices body, siteAt tokens body fieldVariable i = some site := by
  obtain ⟨i, hi, hsite⟩ := List.countP_pos_iff.mp h
  exact ⟨i, hi, of_decide_eq_true hsite⟩

theorem no_site (h : sites tokens body fieldVariable site = 0) (hi : i ∈ indices body) :
    siteAt tokens body fieldVariable i ≠ some site := by
  intro hsite
  exact List.countP_eq_zero.mp h i hi (decide_eq_true hsite)

theorem flowFromBody_eq_ok {extraction : TypeFlowExtraction}
    (h : flowFromBody tokens body symbol fieldVariable pattern = .ok extraction) :
    extraction.fieldVariable = fieldVariable ∧ Counted tokens body extraction ∧
      Admitted tokens body fieldVariable pattern extraction.allowedJsonTypes := by
  rw [flowFromBody] at h
  split at h
  · contradiction
  rename_i types htypes
  obtain rfl := Except.ok.inj h
  refine ⟨rfl, ⟨rfl, rfl, rfl, rfl⟩, ?_⟩
  have hrow (hbound : decide (sites tokens body fieldVariable .rowField ≠ 0) = true) :
      ∃ i ∈ indices body, RowField tokens fieldVariable i := by
    obtain ⟨i, hi, hsite⟩ := exists_site (Nat.one_le_iff_ne_zero.mpr (of_decide_eq_true hbound))
    exact ⟨i, hi, siteAt_spec hsite⟩
  have hinit (hinits : 1 ≤ sites tokens body fieldVariable .arrayInit) :
      ∃ i ∈ indices body, ArrayAssigned tokens fieldVariable i := by
    obtain ⟨i, hi, hsite⟩ := exists_site hinits
    exact ⟨i, hi, siteAt_spec hsite⟩
  cases pattern with
  | emptyCastObject =>
      rw [allowedTypes] at htypes
      split at htypes
      · rename_i hfound
        obtain ⟨hinits, hcasts, hothers, hbound⟩ := hfound
        obtain rfl := Option.some.inj htypes
        obtain ⟨i, hi, hcast⟩ := exists_site hcasts
        refine ⟨fun i hi hassigns => ?_, hinit hinits, hrow hbound,
          .inl ⟨rfl, rfl, i, hi, siteAt_spec hcast⟩⟩
        rcases siteAt_of_assigns hassigns with hsite | hsite | hsite
        · exact .inl (siteAt_spec hsite)
        · exact .inr ⟨rfl, siteAt_spec hsite⟩
        · exact absurd hsite (no_site hothers hi)
      · contradiction
  | emptyArrayOrStringKeys =>
      rw [allowedTypes] at htypes
      split at htypes
      · rename_i hfound
        obtain ⟨hinits, hcasts, hsubscripts, hothers, hbound⟩ := hfound
        obtain rfl := Option.some.inj htypes
        obtain ⟨i, hi, hsubscript⟩ := exists_site hsubscripts
        refine ⟨fun i hi hassigns => ?_, hinit hinits, hrow hbound,
          .inr ⟨rfl, rfl, i, hi, siteAt_spec hsubscript⟩⟩
        rcases siteAt_of_assigns hassigns with hsite | hsite | hsite
        · exact .inl (siteAt_spec hsite)
        · exact absurd hsite (no_site hcasts hi)
        · exact absurd hsite (no_site hothers hi)
      · contradiction

/-- Where the extraction succeeds, every assignment to the variable is one that the table names. -/
theorem typeFlow_admitted {sourceText : JsString} {extraction : TypeFlowExtraction}
    (h : extractPhpItemFieldTypeFlow sourceText symbol fieldVariable pattern = .ok extraction) :
    ∃ tokens body, functionTokens sourceText symbol = .ok (tokens, body) ∧
      extraction.fieldVariable = fieldVariable ∧ Counted tokens body extraction ∧
        Admitted tokens body fieldVariable pattern extraction.allowedJsonTypes := by
  rw [extractPhpItemFieldTypeFlow, Guard.bind_eq_ok] at h
  obtain ⟨⟨tokens, body⟩, htokens, h⟩ := h
  exact ⟨tokens, body, htokens, flowFromBody_eq_ok h⟩

end Contracts

def sampleSource : JsString :=
  ("function f() \x7b $v = [1]; if (empty($v) || $w) \x7b $v = (object)$v; \x7d $v[] = 2; " ++
    "$r = ['v' => $v]; \x7d").toList

theorem typeFlow_admitted_sample :
    extractPhpItemFieldTypeFlow sampleSource ['f'] ['v'] .emptyCastObject =
        .ok ⟨['f'], ['v'], .emptyCastObject, 1, 1, 1, 0, true, [.object]⟩ ∧
      ∃ tokens body, functionTokens sampleSource ['f'] = .ok (tokens, body) ∧ ['v'] = ['v'] ∧
        Counted tokens body ⟨['f'], ['v'], .emptyCastObject, 1, 1, 1, 0, true, [.object]⟩ ∧
        Admitted tokens body ['v'] .emptyCastObject [.object] :=
  have hread : extractPhpItemFieldTypeFlow sampleSource ['f'] ['v'] .emptyCastObject =
      .ok ⟨['f'], ['v'], .emptyCastObject, 1, 1, 1, 0, true, [.object]⟩ := by
    decide +kernel
  ⟨hread, typeFlow_admitted hread⟩

def sampleTokens : List PhpToken :=
  [.word "function".toList, .word ['f'], punct "(", punct ")", punct "\x7b", .variable ['v'],
    punct "=", punct "[", .number ['1'], punct "]", punct ";", ifWord, punct "(", emptyWord,
    punct "(", .variable ['v'], punct ")", punct "|", punct "|", .variable ['w'], punct ")",
    punct "\x7b", .variable ['v'], punct "=", punct "(", .word "object".toList, punct ")",
    .variable ['v'], punct ";", punct "\x7d", .variable ['v'], punct "[", punct "]", punct "=",
    .number ['2'], punct ";", .variable ['r'], punct "=", punct "[", .string ['v'] false, arrow,
    .variable ['v'], punct "]", punct ";", punct "\x7d"]

/-- `if (empty($var)) {` with its brace at an index. -/
def ExactGuard (tokens : List PhpToken) (fieldVariable : JsString) (brace : Nat) : Prop :=
  (tokens.drop (brace - 7)).take 8 = [ifWord, punct "(", emptyWord, punct "(",
    .variable fieldVariable, punct ")", punct ")", punct "\x7b"]

instance (tokens : List PhpToken) (fieldVariable : JsString) (brace : Nat) :
    Decidable (ExactGuard tokens fieldVariable brace) :=
  inferInstanceAs (Decidable (_ = _))

/-- The declared vocabulary: empty literals, casts behind `if (empty($var))` and nothing else, and
subscripts with a key. -/
structure Declared (tokens : List PhpToken) (body : Body) (fieldVariable : JsString) : Prop where
  literals : ∀ i ∈ indices body, ArrayAssigned tokens fieldVariable i →
    tokens[i + 3]? = some (punct "]")
  guards : ∀ i ∈ indices body, Assigns tokens fieldVariable i → CastAt tokens fieldVariable i →
    ∃ brace < i, Encloses (punct "\x7b") (punct "\x7d") tokens brace i ∧
      ExactGuard tokens fieldVariable brace
  keys : ∀ i ∈ indices body, SubscriptAssigned tokens fieldVariable i →
    tokens[i + 2]? ≠ some (punct "]")

/-- A list of one element, a cast behind a wider condition and an appended element all pass. -/
theorem wider_writes_pass :
    extractPhpItemFieldTypeFlow sampleSource ['f'] ['v'] .emptyCastObject =
        .ok ⟨['f'], ['v'], .emptyCastObject, 1, 1, 1, 0, true, [.object]⟩ ∧
      functionTokens sampleSource ['f'] = .ok (sampleTokens, ⟨4, 44⟩) ∧
      (¬ ∀ i ∈ indices ⟨4, 44⟩, ArrayAssigned sampleTokens ['v'] i →
        sampleTokens[i + 3]? = some (punct "]")) ∧
      (¬ ∀ i ∈ indices ⟨4, 44⟩, Assigns sampleTokens ['v'] i → CastAt sampleTokens ['v'] i →
        ∃ brace < i, ExactGuard sampleTokens ['v'] brace) ∧
      (¬ ∀ i ∈ indices ⟨4, 44⟩, SubscriptAssigned sampleTokens ['v'] i →
        sampleTokens[i + 2]? ≠ some (punct "]")) ∧
      ¬ Declared sampleTokens ⟨4, 44⟩ ['v'] := by
  have hliterals : ¬ ∀ i ∈ indices ⟨4, 44⟩, ArrayAssigned sampleTokens ['v'] i →
      sampleTokens[i + 3]? = some (punct "]") := by
    intro h
    exact absurd (h 5 (by decide) ⟨⟨by decide, by decide⟩, by decide⟩) (by decide)
  refine ⟨by decide +kernel, by decide +kernel, hliterals, ?_, ?_, fun h => hliterals h.literals⟩
  · intro h
    exact absurd (h 22 (by decide) ⟨by decide, by decide⟩ (by decide)) (by decide +kernel)
  · intro h
    exact h 30 (by decide) ⟨by decide, by decide, by decide +kernel⟩ (by decide)

end NightWatch.Source.PhpTypeFlow
