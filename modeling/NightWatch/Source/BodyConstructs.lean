import NightWatch.Source.ClosureRuns

namespace NightWatch.Source.BodyConstructs

open Lib.JsText PhpTokens EffectVocabulary EffectClosure ClosureRuns

def newKeyword : JsString := "new".toList

def includeKeywords : List JsString :=
  ["include".toList, "include_once".toList, "require".toList, "require_once".toList]

def closureKeywords : List JsString := ["function".toList, "fn".toList]

def headKeywords : List JsString :=
  ["if", "elseif", "while", "for", "foreach", "switch", "declare", "catch"].map String.toList

def castTypes : List JsString :=
  ["int", "integer", "float", "double", "string", "bool", "boolean", "array", "object",
    "binary", "unset"].map String.toList

def isWordOf (words : List JsString) : Option PhpToken → Bool
  | some (.word v) => v.map Char.toLower ∈ words
  | _ => false

/-- The token at `i` is a keyword, and not the name of a member or of a declaration. -/
def isKeywordAt (tokens : List PhpToken) (words : List JsString) (i : Nat) : Bool :=
  isWordOf words tokens[i]? && !isMember tokens i &&
    !isWordOf ["function".toList, "const".toList] (previousToken tokens i)

/-- The index of the token that the closing one at `close` is the match of. -/
def matchingOpen (opens closes : JsString) (tokens : List PhpToken) (close : Nat) : Option Nat :=
  (List.range close).find? fun m =>
    tokens[m]? = some (.punct opens) &&
      matchingFrom opens closes (tokens.drop m) m 0 = some close

/-- The parenthesis at `i` closes a cast, or the head of a control structure. -/
def closesHead (tokens : List PhpToken) (i : Nat) : Bool :=
  match matchingOpen "(".toList ")".toList tokens i with
  | none => true
  | some m =>
      (i == m + 2 && isWordOf castTypes tokens[m + 1]?) ||
        isWordOf headKeywords (previousToken tokens m)

/-- The brace at `i` closes a variable that is named by an expression. -/
def closesVariable (tokens : List PhpToken) (i : Nat) : Bool :=
  match matchingOpen "\x7b".toList "\x7d".toList tokens i with
  | none => false
  | some m => previousToken tokens m = some (.punct "$".toList)

/-- The token at `i` ends a callee that is a value: a variable, a string, an index expression
or a parenthesised one. -/
def isValueCallee (tokens : List PhpToken) (i : Nat) : Bool :=
  match tokens[i]? with
  | some (.variable _) => true
  | some (.string _ _) => true
  | some (.punct v) =>
      v = "]".toList || (v = ")".toList && !closesHead tokens i) ||
        (v = "\x7d".toList && closesVariable tokens i)
  | _ => false

/-- A construct whose executed code a name does not predict begins at `i`; a call of a value
is met at the end of its callee. -/
inductive Construct (tokens : List PhpToken) (i : Nat) : Prop where
  | construction (h : isKeywordAt tokens [newKeyword] i = true)
  | inclusion (h : isKeywordAt tokens includeKeywords i = true)
  | closure (h : isKeywordAt tokens closureKeywords i = true)
      (parameters : isCallOpen tokens[i + 1]? = true ∨
        (tokens[i + 1]? = some (.punct "&".toList) ∧ isCallOpen tokens[i + 2]? = true))
  | memberByValue {token : PhpToken} (h : isMember tokens (i + 1) = true)
      (next : tokens[i + 1]? = some token)
      (value : isVariable token = true ∨ token = .punct "\x7b".toList ∨ token = .punct "$".toList)
  | valueCall (h : isValueCallee tokens i = true) (call : isCallOpen tokens[i + 1]? = true)

/-- `new` directly before a name and its argument list. -/
def seesConstruction (tokens : List PhpToken) (i : Nat) : Bool :=
  tokens[i]? = some (.word newKeyword) && (callsiteAt tokens (i + 1)).isSome

def seesWord (tokens : List PhpToken) (words : List JsString) (i : Nat) : Bool :=
  words.any (fun word => tokens[i]? = some (.word word)) && isCallOpen tokens[i + 1]?

/-- The shapes that the scan does not look for. -/
inductive Missed (tokens : List PhpToken) (i : Nat) : Prop where
  | construction (h : isKeywordAt tokens [newKeyword] i = true)
      (unseen : seesConstruction tokens i = false)
  | inclusion (h : isKeywordAt tokens includeKeywords i = true)
      (unseen : seesWord tokens includeKeywords i = false)
  | closure (h : isKeywordAt tokens closureKeywords i = true)
      (parameters : isCallOpen tokens[i + 1]? = true ∨
        (tokens[i + 1]? = some (.punct "&".toList) ∧ isCallOpen tokens[i + 2]? = true))
      (unseen : seesWord tokens closureKeywords i = false)
  | memberByName (h : isMember tokens (i + 1) = true)
      (next : tokens[i + 1]? = some (.punct "$".toList))
  | valueCall (h : isValueCallee tokens i = true) (call : isCallOpen tokens[i + 1]? = true)
      (unseen : ∀ name, tokens[i]? ≠ some (.variable name))

theorem Missed.construct {tokens : List PhpToken} {i : Nat} (h : Missed tokens i) :
    Construct tokens i := by
  cases h with
  | construction h => exact .construction h
  | inclusion h => exact .inclusion h
  | closure h parameters => exact .closure h parameters
  | memberByName h next => exact .memberByValue h next (.inr (.inr rfl))
  | valueCall h call => exact .valueCall h call

/-- No body that a pure-read proof visited holds such a construct. -/
def NamesPredict (resolver : SourceResolver) (entrypoints : List PhpClosureEntrypoint) : Prop :=
  ∀ s, finalWalk resolver entrypoints = some s →
    (s.proof entrypoints).state = .pureReadProven →
      ∀ relativePath symbol tokens body, visitKey relativePath symbol ∈ s.visited →
        sourceTokens resolver relativePath = some tokens →
        findFunctionBody tokens symbol = some body →
        ∀ i ∈ body.indices, ¬ Construct tokens i

/-- No function that the walk follows holds a shape that the scan does not look for. -/
def NothingMissed (resolver : SourceResolver)
    (entrypoints : List PhpClosureEntrypoint) : Prop :=
  ∀ relativePath symbol tokens body, Walked resolver entrypoints relativePath symbol →
    sourceTokens resolver relativePath = some tokens →
    findFunctionBody tokens symbol = some body →
    ∀ i ∈ body.indices, ¬ Missed tokens i

section Seen

variable {tokens : List PhpToken} {i : Nat}

theorem not_passes_of_unknown {site : Callsite} (hsite : callsiteAt tokens i = some site)
    (hconstruction : site.construction = true) : ¬ Passes (fileFacts tokens) i := by
  intro h
  have hpasses := h.2 site hsite
  have hverdict : verdict (fileFacts tokens) site = .unknown := by
    simp [verdict, Callsite.isDynamic, Callsite.kind, hconstruction]
  simp [hverdict, Verdict.Passes] at hpasses

theorem construction_of_callsiteAt {site : Callsite} (hsite : callsiteAt tokens i = some site)
    (hnew : previousToken tokens i = some (.word newKeyword)) : site.construction = true := by
  simp only [callsiteAt] at hsite
  split at hsite
  · split_ifs at hsite
    all_goals
      obtain rfl := Option.some.inj hsite
      simp [isConstruction, hnew, newKeyword]
  · simp at hsite

theorem not_passes_of_dynamic_word {word : JsString}
    (hword : tokens[i]? = some (.word word)) (hcall : isCallOpen tokens[i + 1]? = true)
    (hmember : isMember tokens i = false)
    (hprevious : previousToken tokens i ≠ some (.word functionWord))
    (hdynamic : word ∈ phpDynamicDispatchFunctions)
    (hcontrol : isPhpControlConstruct word = false) : ¬ Passes (fileFacts tokens) i := by
  have hsite : callsiteAt tokens i = some {
      scope := if isMember tokens i || isConstruction tokens i then .method else .function
      construction := isConstruction tokens i
      name := word } := by
    simp [callsiteAt, hword, hcall, hprevious, hcontrol]
  by_cases hnew : isConstruction tokens i = true
  · exact not_passes_of_unknown hsite hnew
  · intro h
    have hpasses := h.2 _ hsite
    simp [verdict, Callsite.isDynamic, isPhpDynamicDispatchCallee, hmember, hnew, hdynamic,
      Verdict.Passes] at hpasses

theorem not_passes_of_seesWord {words : List JsString}
    (hkeyword : isKeywordAt tokens words i = true) (hseen : seesWord tokens words i = true)
    (hdynamic : ∀ word ∈ words, word ∈ phpDynamicDispatchFunctions ∧
      isPhpControlConstruct word = false) : ¬ Passes (fileFacts tokens) i := by
  simp only [seesWord, Bool.and_eq_true, List.any_eq_true, decide_eq_true_eq] at hseen
  obtain ⟨⟨word, hmem, hword⟩, hcall⟩ := hseen
  simp only [isKeywordAt, Bool.and_eq_true, Bool.not_eq_true'] at hkeyword
  obtain ⟨⟨-, hmember⟩, hprevious⟩ := hkeyword
  obtain ⟨hlisted, hcontrol⟩ := hdynamic word hmem
  refine not_passes_of_dynamic_word hword hcall hmember ?_ hlisted hcontrol
  intro hfunction
  rw [hfunction] at hprevious
  revert hprevious
  decide

theorem listed_includeKeywords : ∀ word ∈ includeKeywords,
    word ∈ phpDynamicDispatchFunctions ∧ isPhpControlConstruct word = false := by decide +kernel

theorem listed_closureKeywords : ∀ word ∈ closureKeywords,
    word ∈ phpDynamicDispatchFunctions ∧ isPhpControlConstruct word = false := by decide +kernel

theorem not_passes_of_dynamicAccess {token : PhpToken} (htoken : tokens[i]? = some token)
    (h : isDynamicAccess tokens i token = true) : ¬ Passes (fileFacts tokens) i := by
  rintro ⟨⟨other, hother, hquiet⟩, -⟩
  obtain rfl := Option.some.inj (htoken.symm.trans hother)
  exact absurd (h.symm.trans hquiet) (by decide)

theorem missed_or_refused (h : Construct tokens i) :
    Missed tokens i ∨ ¬ Passes (fileFacts tokens) i ∨
      (¬ Passes (fileFacts tokens) (i + 1) ∧ tokens[i]? ≠ some (.punct "\x7d".toList)) := by
  cases h with
  | construction h =>
      cases hseen : seesConstruction tokens i with
      | false => exact .inl (.construction h hseen)
      | true =>
          simp only [seesConstruction, Bool.and_eq_true, decide_eq_true_eq,
            Option.isSome_iff_exists] at hseen
          obtain ⟨hnew, site, hsite⟩ := hseen
          refine .inr (.inr ⟨?_, by simp [hnew]⟩)
          exact not_passes_of_unknown hsite (construction_of_callsiteAt hsite hnew)
  | inclusion h =>
      cases hseen : seesWord tokens includeKeywords i with
      | false => exact .inl (.inclusion h hseen)
      | true => exact .inr (.inl (not_passes_of_seesWord h hseen listed_includeKeywords))
  | closure h parameters =>
      cases hseen : seesWord tokens closureKeywords i with
      | false => exact .inl (.closure h parameters hseen)
      | true => exact .inr (.inl (not_passes_of_seesWord h hseen listed_closureKeywords))
  | @memberByValue token h next value =>
      rcases value with hvariable | rfl | rfl
      · refine .inr (.inr ⟨not_passes_of_dynamicAccess next ?_, ?_⟩)
        · simp [isDynamicAccess, h, hvariable]
        · intro hbrace
          simp [isMember, previousToken, hbrace] at h
      · refine .inr (.inr ⟨not_passes_of_dynamicAccess next ?_, ?_⟩)
        · simp [isDynamicAccess, h]
        · intro hbrace
          simp [isMember, previousToken, hbrace] at h
      · exact .inl (.memberByName h next)
  | valueCall h call =>
      by_cases hvariable : ∃ name, tokens[i]? = some (.variable name)
      · obtain ⟨name, hname⟩ := hvariable
        refine .inr (.inl (not_passes_of_dynamicAccess hname ?_))
        cases hmember : isMember tokens i <;>
          simp [isDynamicAccess, hmember, isVariable, call]
      · exact .inl (.valueCall h call fun name hname => hvariable ⟨name, hname⟩)

end Seen

variable {resolver : SourceResolver} {entrypoints : List PhpClosureEntrypoint}

theorem mem_indices {body : Body} {i : Nat} :
    i ∈ body.indices ↔ body.start ≤ i ∧ i ≤ body.stop := by
  simp only [Body.indices, List.mem_range']
  constructor
  · rintro ⟨n, hn, rfl⟩
    omega
  · intro h
    exact ⟨i - body.start, by omega, by omega⟩

theorem missed_of_construct {tokens : List PhpToken} {symbol : JsString} {body : Body} {i : Nat}
    (hbody : findFunctionBody tokens symbol = some body)
    (hpasses : ∀ i ∈ body.indices, Passes (fileFacts tokens) i) (hi : i ∈ body.indices)
    (h : Construct tokens i) : Missed tokens i := by
  rcases missed_or_refused h with hmissed | hrefused | ⟨hrefused, hbrace⟩
  · exact hmissed
  · exact absurd (hpasses i hi) hrefused
  · obtain ⟨k, -, hbodyAt⟩ := findFunctionBody_eq_some hbody
    have hbounds := mem_indices.mp hi
    have hlast : i ≠ body.stop := by
      rintro rfl
      obtain ⟨⟨token, htoken, -⟩, -⟩ := hpasses body.stop hi
      exact hbrace (closes_of_bodyAt hbodyAt (List.getElem?_eq_some_iff.mp htoken).1)
    exact absurd (hpasses (i + 1) (mem_indices.mpr (by omega))) hrefused

theorem names_predict_iff_nothing_missed (resolver : SourceResolver)
    (entrypoints : List PhpClosureEntrypoint) :
    (NothingMissed resolver entrypoints → NamesPredict resolver entrypoints) ∧
      ∀ proof, analyzePhpEffectClosure resolver entrypoints = some proof →
        proof.state = .pureReadProven →
          (NamesPredict resolver entrypoints ↔ NothingMissed resolver entrypoints) := by
  have predicts : NothingMissed resolver entrypoints → NamesPredict resolver entrypoints := by
    intro hmissed s hfinal hstate relativePath symbol tokens body hkey hsource hbody i hi hconstruct
    have hclean := Walk.state_eq_pureReadProven.mp hstate
    obtain ⟨hwalked, tokens', body', hsource', -, hbody', hcalls⟩ :=
      done_of_visited hfinal hclean (isName_of_findFunctionBody hsource hbody) hkey
    obtain rfl := Option.some.inj (hsource.symm.trans hsource')
    obtain rfl := Option.some.inj (hbody.symm.trans hbody')
    refine hmissed relativePath symbol tokens body hwalked hsource hbody i hi ?_
    exact missed_of_construct hbody (fun j hj => (hcalls j hj).1) hi hconstruct
  refine ⟨predicts, fun proof hproof hstate => ⟨fun hpredicts => ?_, predicts⟩⟩
  obtain ⟨s, hfinal, rfl⟩ := Option.map_eq_some_iff.mp hproof
  have hclean := Walk.state_eq_pureReadProven.mp hstate
  intro relativePath symbol tokens body hwalked hsource hbody i hi hmissed
  exact hpredicts s hfinal hstate relativePath symbol tokens body
    (visited_of_walked hfinal hclean hwalked) hsource hbody i hi hmissed.construct

def constructingFile : JsString :=
  ("<?php class H \x7b public function read($k) \x7b $trail = new Trail; " ++
    "return $this->getItem($k); \x7d \x7d").toList

def constructingResolver : SourceResolver := fun relativePath =>
  if relativePath = "H.php".toList then some constructingFile else none

def constructingEntrypoints : List PhpClosureEntrypoint :=
  [⟨"H.php".toList, "read".toList, .handler⟩]

def constructingTokens : List PhpToken := (tokenizePhp constructingFile).getD []

/-- The body of `read` is visited and proven pure, with a construction in it. -/
theorem construction_without_arguments_is_proven :
    (analyzePhpEffectClosure constructingResolver constructingEntrypoints).map
        PhpEffectClosureProof.state = some .pureReadProven ∧
      ¬ NamesPredict constructingResolver constructingEntrypoints := by
  have hstate : (analyzePhpEffectClosure constructingResolver constructingEntrypoints).map
      PhpEffectClosureProof.state = some .pureReadProven := by decide +kernel
  refine ⟨hstate, fun hpredicts => ?_⟩
  obtain ⟨proof, hproof, hpure⟩ := Option.map_eq_some_iff.mp hstate
  obtain ⟨s, hfinal, rfl⟩ := Option.map_eq_some_iff.mp hproof
  have hsource : sourceTokens constructingResolver "H.php".toList = some constructingTokens := by
    decide +kernel
  have hvisited : visitKey "H.php".toList "read".toList ∈ s.visited :=
    visited_of_walked hfinal (Walk.state_eq_pureReadProven.mp hpure)
      (.entry (List.mem_singleton_self ⟨"H.php".toList, "read".toList, .handler⟩))
  exact hpredicts s hfinal hpure _ _ constructingTokens ⟨12, 26⟩ hvisited hsource
    (by decide +kernel) 15 (by decide) (.construction (by decide +kernel))

end NightWatch.Source.BodyConstructs
