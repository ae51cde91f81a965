import NightWatch.Source.ProtoGrammar

namespace NightWatch.Source.ProtoReading

open Lib.JsText Lib.Loop Source.ProtoLexer Source.ProtoDeclarations Source.ProtoGrammar

variable {token : ProtoToken} {value : Char}

@[simp] theorem isPunctuation_cons {rest : TokenCursor} :
    isPunctuation value (token :: rest) = decide (token = .punctuation value) := by
  simp [isPunctuation]

@[simp] theorem isIdentifier_cons {value : String} {rest : TokenCursor} :
    isIdentifier value (token :: rest) = decide (token = .identifier value.toList) := by
  simp [isIdentifier]

@[simp] theorem takePunctuation_self {rest : TokenCursor} :
    takePunctuation value (.punctuation value :: rest) = some rest := by
  simp [takePunctuation]

@[simp] theorem skipPunctuation_self {rest : TokenCursor} :
    skipPunctuation value (.punctuation value :: rest) = rest := by
  simp [skipPunctuation]

theorem skipPunctuation_of_ne {value : Char} {token : ProtoToken} {rest : TokenCursor}
    (h : token ≠ .punctuation value) : skipPunctuation value (token :: rest) = token :: rest := by
  cases token with
  | punctuation c =>
      have hc : c ≠ value := fun heq => h (by rw [heq])
      simp [skipPunctuation, takePunctuation, hc]
  | identifier _ => rfl
  | string _ => rfl
  | number _ => rfl

@[simp] theorem takeIdentifier_self {value : JsString} {rest : TokenCursor} :
    takeIdentifier (.identifier value :: rest) = (some value, rest) := rfl

@[simp] theorem atEnd_cons {rest : TokenCursor} :
    atEnd (token :: rest) = decide (token = .punctuation '\x7d') := by
  simp [atEnd]

theorem skipOpen_level {body rest : List ProtoToken} {depth last : Nat}
    (h : level depth body = some last) :
    skipOpen (depth + 1) (body ++ rest) = skipOpen (last + 1) rest := by
  induction body generalizing depth with
  | nil =>
      obtain rfl := Option.some.inj h
      rfl
  | cons token body ih =>
      rw [List.cons_append, skipOpen]
      simp only [level] at h
      split
      · next hopen =>
          rw [if_pos hopen] at h
          exact ih h
      · next hopen =>
          rw [if_neg hopen] at h
          split
          · next hclose =>
              rw [if_pos hclose] at h
              cases depth with
              | zero => simp at h
              | succ depth => exact ih h
          · next hclose =>
              rw [if_neg hclose] at h
              exact ih h

theorem skipBlock_blockTokens {body rest : List ProtoToken} (h : isBalanced body = true) :
    skipBlock (blockTokens body ++ rest) = (true, rest) := by
  have hlevel : level 0 body = some 0 := by simpa [isBalanced] using h
  rw [blockTokens, List.cons_append, List.append_assoc, skipBlock, takePunctuation_self]
  have hopen := @skipOpen_level body ([.punctuation '\x7d'] ++ rest) 0 0 hlevel
  rw [Nat.zero_add] at hopen
  simp only
  rw [hopen]
  simp [skipOpen]

section Bindings

variable {nested : TokenCursor → Option (List ProtoHttpBinding) × TokenCursor}
  {block : BindingBlock} {rest : TokenCursor} {value routeTemplate : JsString}

theorem eq_of_safeRouteTemplate
    (h : safeRouteTemplate value = some routeTemplate) : routeTemplate = value := by
  simp only [safeRouteTemplate] at h
  split at h
  · contradiction
  · split at h
    · contradiction
    · split at h
      · exact (Option.some.inj h).symm
      · contradiction

theorem httpVerb_methodKey (method : ProtoHttpMethod) :
    httpVerb (HttpEntries.methodKey method).toList = some (.own method) := by
  cases method <;> rfl

theorem methodKey_ne (method : ProtoHttpMethod) :
    (HttpEntries.methodKey method).toList ≠ "additional_bindings".toList := by
  cases method <;> decide

theorem readEntry_value {key : JsString} (hkey : key ≠ "additional_bindings".toList)
    (hknown : (httpVerb key).isNone = true → key ∈ knownNonVerbKeys) :
    readEntry nested block (.identifier key :: .punctuation ':' :: .string value :: rest) =
      readEntryValue key block (.string value :: rest) := by
  have hread : ((httpVerb key).isNone && decide (key ∉ knownNonVerbKeys)) = false := by
    cases hverb : (httpVerb key).isNone with
    | false => rfl
    | true => exact decide_eq_false (not_not.mpr (hknown hverb))
  simp only [readEntry, isPunctuation_cons, reduceCtorEq, decide_false, Bool.or_self,
    Bool.false_eq_true, if_false, takeIdentifier_self, if_neg hkey, hread, takePunctuation_self]

theorem readEntry_verb {method : ProtoHttpMethod}
    (h : (safeRouteTemplate routeTemplate).isSome = true) :
    readEntry nested block (word (HttpEntries.methodKey method) :: .punctuation ':' ::
        .string routeTemplate :: rest) =
      (some { block with verbs := block.verbs ++ [(.own method, routeTemplate)] }, rest) := by
  obtain ⟨route, hroute⟩ := Option.isSome_iff_exists.mp h
  obtain rfl := eq_of_safeRouteTemplate hroute
  have hverb := httpVerb_methodKey method
  rw [word, readEntry_value (methodKey_ne method) (by rw [hverb]; nofun)]
  simp only [readEntryValue, hverb, hroute]

theorem bodyField_some (value : JsString) :
    HttpEntries.bodyField (some value) = if value = "*".toList then none else some value := by
  rw [HttpEntries.bodyField, Option.filter_some]
  by_cases hstar : value = "*".toList
  · rw [if_pos hstar, if_neg (by simpa using hstar)]
  · rw [if_neg hstar, if_pos (by simpa using hstar)]

theorem readEntry_body (h : (decide (value = "*".toList) || isSafeBodyField value) = true) :
    readEntry nested block (word "body" :: .punctuation ':' :: .string value :: rest) =
      (some { block with
        body := HttpEntries.bodyPresence (some value)
        bodyField := HttpEntries.bodyField (some value) }, rest) := by
  have hverb : httpVerb "body".toList = none := by decide
  have hkey : "body".toList ≠ "additional_bindings".toList := by decide
  have hknown : "body".toList ∈ knownNonVerbKeys := by decide
  rw [word, readEntry_value hkey fun _ => hknown, bodyField_some]
  simp only [readEntryValue, hverb, ne_eq, not_true_eq_false, if_false,
    HttpEntries.bodyPresence]
  split
  · rfl
  · next hstar =>
      have hfield : isSafeBodyField value = true := by
        rcases (Bool.or_eq_true _ _).mp h with hvalue | hfield
        · exact absurd (of_decide_eq_true hvalue) hstar
        · exact hfield
      rw [if_pos hfield]

theorem readEntry_separator {semicolon : Bool} :
    readEntry nested block (.punctuation (if semicolon then ';' else ',') :: rest) =
      (some block, rest) := by
  cases semicolon <;> simp [readEntry]

theorem readEntry_additional {colon : Bool} {inner : List ProtoToken}
    {bindings : List ProtoHttpBinding}
    (h : nested (.punctuation '\x7b' :: inner) = (some bindings, rest)) :
    readEntry nested block (word "additional_bindings" ::
        ((if colon then [.punctuation ':'] else []) ++ .punctuation '\x7b' :: inner)) =
      (some { block with additional := block.additional ++ bindings }, rest) := by
  have hskip : skipPunctuation ':' ((if colon then [.punctuation ':'] else []) ++
      .punctuation '\x7b' :: inner) = .punctuation '\x7b' :: inner := by
    cases colon with
    | false => exact skipPunctuation_of_ne (by decide)
    | true => exact skipPunctuation_self
  simp only [readEntry, word, isPunctuation_cons, reduceCtorEq, decide_false, Bool.or_self,
    Bool.false_eq_true, if_false, takeIdentifier_self, if_true, hskip, decide_true, Bool.not_true,
    h]

def blockAfter (entries : HttpEntries) (block : BindingBlock) : BindingBlock where
  verbs := block.verbs ++ entries.verbs.map fun entry => (.own entry.1, entry.2)
  additional := block.additional ++ entries.additionalBindings
  body :=
    match entries.bodies.getLast? with
    | none => block.body
    | some value => HttpEntries.bodyPresence (some value)
  bodyField :=
    match entries.bodies.getLast? with
    | none => block.bodyField
    | some value => HttpEntries.bodyField (some value)

def cursorSize {α : Type} (state : α × TokenCursor) : Nat := state.2.length

theorem entryTurn_of_readEntry {cursor : TokenCursor} {token : ProtoToken} {next : BindingBlock}
    (hend : token ≠ .punctuation '\x7d')
    (h : readEntry nested block (token :: cursor) = (some next, rest)) :
    entryTurn nested (block, token :: cursor) = .again (next, rest) := by
  simp [entryTurn, hend, h]

variable {entries : HttpEntries}

theorem blockAfter_bindings (h : entries.isRule = true) (kind : ProtoBindingKind) :
    (blockAfter entries .empty).bindings kind = some (entries.bindings kind) := by
  simp only [HttpEntries.isRule, Bool.and_eq_true, decide_eq_true_eq] at h
  obtain ⟨⟨hverbs, -⟩, hcount⟩ := h
  simp only [HttpEntries.bindings, HttpEntries.ownBindings, List.length_append, List.length_map]
    at hcount
  have hbindings : (entries.verbs.map fun entry =>
      ({ kind, method := .own entry.1, routeTemplate := entry.2,
         body := (blockAfter entries .empty).body,
         bodyField := (blockAfter entries .empty).bodyField } : ProtoHttpBinding)) =
      entries.ownBindings kind := by
    simp only [HttpEntries.ownBindings, blockAfter, BindingBlock.empty]
    cases entries.bodies.getLast? <;> rfl
  have hall : ((blockAfter entries .empty).verbs.map fun entry =>
      ({ kind, method := entry.1, routeTemplate := entry.2,
         body := (blockAfter entries .empty).body,
         bodyField := (blockAfter entries .empty).bodyField } : ProtoHttpBinding)) ++
      (blockAfter entries .empty).additional = entries.bindings kind := by
    rw [HttpEntries.bindings, ← hbindings]
    simp [blockAfter, BindingBlock.empty, Function.comp_def]
  rw [BindingBlock.bindings, if_neg (by simp [blockAfter, hverbs])]
  simp only [hall]
  rw [if_neg]
  simp only [HttpEntries.bindings, HttpEntries.ownBindings, List.length_append, List.length_map]
  omega

theorem readBindingBlock_of_settles {levels : Nat} {kind : ProtoBindingKind}
    (hrule : entries.isRule = true)
    (h : Settles (entryTurn (readBindingBlock levels .additional)) cursorSize
      (BindingBlock.empty, entries.tokens ++ .punctuation '\x7d' :: rest)
      (some (blockAfter entries .empty), .punctuation '\x7d' :: rest)) :
    readBindingBlock (levels + 1) kind
        (.punctuation '\x7b' :: (entries.tokens ++ .punctuation '\x7d' :: rest)) =
      (some (entries.bindings kind), rest) := by
  have hloop := h.loop_eq
  simp only [cursorSize] at hloop
  rw [readBindingBlock, takePunctuation_self]
  simp only [hloop, Option.getD_some, takePunctuation_self, blockAfter_bindings hrule]

theorem entries_settles {levels : Nat} {block : BindingBlock}
    {rest : TokenCursor} (h : entries.isWellFormed levels = true) :
    Settles (entryTurn (readBindingBlock levels .additional)) cursorSize
      (block, entries.tokens ++ .punctuation '\x7d' :: rest)
      (some (blockAfter entries block), .punctuation '\x7d' :: rest) := by
  induction entries generalizing levels block rest with
  | nil =>
      refine Settles.of_done ?_
      simp [entryTurn, HttpEntries.tokens, blockAfter, HttpEntries.verbs, HttpEntries.bodies,
        HttpEntries.additionalBindings]
  | verb method routeTemplate others ih =>
      simp only [HttpEntries.isWellFormed, Bool.and_eq_true] at h
      refine Settles.of_again (entryTurn_of_readEntry (by simp [word]) (readEntry_verb h.1)) ?_ ?_
      · simp [cursorSize, HttpEntries.tokens]
        omega
      · have hrest := @ih levels { block with
          verbs := block.verbs ++ [(.own method, routeTemplate)] } rest h.2
        simpa [blockAfter, HttpEntries.verbs, HttpEntries.bodies, HttpEntries.additionalBindings]
          using hrest
  | body value others ih =>
      simp only [HttpEntries.isWellFormed, Bool.and_eq_true] at h
      refine Settles.of_again (entryTurn_of_readEntry (by simp [word]) (readEntry_body h.1)) ?_ ?_
      · simp [cursorSize, HttpEntries.tokens]
        omega
      · have hrest := @ih levels { block with
          body := HttpEntries.bodyPresence (some value)
          bodyField := HttpEntries.bodyField (some value) } rest h.2
        cases hlast : others.bodies.getLast? with
        | none =>
            simpa [blockAfter, HttpEntries.verbs, HttpEntries.bodies,
              HttpEntries.additionalBindings, List.getLast?_cons, hlast] using hrest
        | some last =>
            simpa [blockAfter, HttpEntries.verbs, HttpEntries.bodies,
              HttpEntries.additionalBindings, List.getLast?_cons, hlast] using hrest
  | additional colon inner others ihinner ih =>
      cases levels with
      | zero => simp [HttpEntries.isWellFormed] at h
      | succ levels =>
          simp only [HttpEntries.isWellFormed, Bool.and_eq_true] at h
          obtain ⟨⟨hrule, hinner⟩, hothers⟩ := h
          have hnested : readBindingBlock (levels + 1) .additional (.punctuation '\x7b' ::
              (inner.tokens ++ .punctuation '\x7d' ::
                (others.tokens ++ .punctuation '\x7d' :: rest))) =
              (some (inner.bindings .additional), others.tokens ++ .punctuation '\x7d' :: rest) :=
            readBindingBlock_of_settles hrule (ihinner hinner)
          have hread := @readEntry_additional _ block _ colon _ _ hnested
          have htokens : (HttpEntries.additional colon inner others).tokens ++
              .punctuation '\x7d' :: rest = word "additional_bindings" ::
                ((if colon then [.punctuation ':'] else []) ++ .punctuation '\x7b' ::
                  (inner.tokens ++ .punctuation '\x7d' ::
                    (others.tokens ++ .punctuation '\x7d' :: rest))) := by
            simp [HttpEntries.tokens]
          rw [htokens]
          refine Settles.of_again (entryTurn_of_readEntry (by simp [word]) hread) ?_ ?_
          · simp [cursorSize]
            omega
          · have hrest := @ih (levels + 1) { block with
              additional := block.additional ++ inner.bindings .additional } rest hothers
            simpa [blockAfter, HttpEntries.verbs, HttpEntries.bodies,
              HttpEntries.additionalBindings, HttpEntries.bindings] using hrest
  | separator semicolon others ih =>
      simp only [HttpEntries.isWellFormed] at h
      refine Settles.of_again
        (entryTurn_of_readEntry (by cases semicolon <;> simp) readEntry_separator) ?_ ?_
      · simp [cursorSize, HttpEntries.tokens]
      · have hrest := @ih levels block rest h
        simpa [blockAfter, HttpEntries.verbs, HttpEntries.bodies, HttpEntries.additionalBindings]
          using hrest

theorem readBindingBlock_tokens {entries : HttpEntries} {kind : ProtoBindingKind}
    (hrule : entries.isRule = true) (h : entries.isWellFormed 4 = true) : readBindingBlock 5 kind
        (.punctuation '\x7b' :: (entries.tokens ++ .punctuation '\x7d' :: rest)) =
      (some (entries.bindings kind), rest) :=
  readBindingBlock_of_settles hrule (entries_settles h)

end Bindings

section Options

variable {body : RpcBody} {rest : TokenCursor} {r : Option RpcBody × TokenCursor}

theorem skipSuffixes_tokens {suffixes : List JsString} {token : ProtoToken}
    (h : token ≠ .punctuation '.') :
    skipSuffixes ((suffixes.flatMap fun suffix => [.punctuation '.', .identifier suffix]) ++
      token :: rest) = token :: rest := by
  induction suffixes with
  | nil =>
      rw [List.flatMap_nil, List.nil_append, skipSuffixes]
      · rintro _ _ heq
        exact h (List.cons.inj heq).1
      · rintro _ heq
        exact h (List.cons.inj heq).1
  | cons suffix suffixes ih => simpa [skipSuffixes] using ih

theorem readOptionName_tokens {name : OptionName} {token : ProtoToken}
    (h : token ≠ .punctuation '.') :
    readOptionName (name.tokens ++ token :: rest) = (some name.head, token :: rest) := by
  cases name with
  | plain name => simp [readOptionName, OptionName.tokens, OptionName.head, takePunctuation]
  | extension name suffixes =>
      have hskip := @skipSuffixes_tokens rest suffixes token h
      simp only [OptionName.tokens, OptionName.head, List.cons_append, readOptionName,
        takePunctuation_self, takeIdentifier_self, hskip]

def isPlainToken (token : ProtoToken) : Bool :=
  decide (token ≠ word "option") && decide (token ≠ .punctuation '\x7b') &&
    decide (token ≠ .punctuation '\x7d')

variable {token : ProtoToken}

theorem settles_plain (h : isPlainToken token = true)
    (hrest : Settles rpcBodyTurn cursorSize (body, rest) r) :
    Settles rpcBodyTurn cursorSize (body, token :: rest) r := by
  simp only [isPlainToken, Bool.and_eq_true, decide_eq_true_eq] at h
  obtain ⟨⟨hoption, hopen⟩, hclose⟩ := h
  refine Settles.of_again ?_ (by simp [cursorSize]) hrest
  have hoption : decide (token = .identifier "option".toList) = false := decide_eq_false hoption
  simp only [rpcBodyTurn, readRpcEntry, atEnd_cons, decide_eq_false hclose, isIdentifier_cons,
    hoption, Bool.not_false, isPunctuation_cons, decide_eq_false hopen, Bool.false_eq_true,
    if_true, if_false, List.tail_cons]

theorem settles_plains {tokens : List ProtoToken} (h : ∀ token ∈ tokens, isPlainToken token = true)
    (hrest : Settles rpcBodyTurn cursorSize (body, rest) r) :
    Settles rpcBodyTurn cursorSize (body, tokens ++ rest) r := by
  induction tokens with
  | nil => exact hrest
  | cons token tokens ih =>
      exact settles_plain (h token (by simp)) (ih fun other hother => h other (by simp [hother]))

variable {name : OptionName}

theorem rpcBodyTurn_option {value : TokenCursor} {next : RpcBody}
    (h : readOptionValue name.head body value = (some next, rest)) :
    rpcBodyTurn (body, word "option" :: (name.tokens ++ .punctuation '=' :: value)) =
      .again (next, rest) := by
  have hname := @readOptionName_tokens value name (.punctuation '=') (by decide)
  simp only [rpcBodyTurn, readRpcEntry, word, atEnd_cons, reduceCtorEq, decide_false,
    Bool.false_eq_true, if_false, isIdentifier_cons, decide_true, Bool.not_true, List.tail_cons,
    hname, takePunctuation_self, h]

theorem readOptionValue_other {name : JsString} {token : ProtoToken}
    (hname : name ≠ httpOptionName) (hopen : token ≠ .punctuation '\x7b') :
    readOptionValue name body (token :: rest) =
      (some { body with sawUnsupportedOption := true }, skipPunctuation ';' rest) := by
  simp [readOptionValue, hname, hopen]

theorem readOptionValue_block {name : JsString} {inner : List ProtoToken}
    (hname : name ≠ httpOptionName) (hbalanced : isBalanced inner = true) :
    readOptionValue name body (blockTokens inner ++ rest) =
      (some { body with sawUnsupportedOption := true }, skipPunctuation ';' rest) := by
  have hopen : isPunctuation '\x7b' (blockTokens inner ++ rest) = true := by simp [blockTokens]
  simp only [readOptionValue, ne_eq, hname, not_false_eq_true, if_true, hopen,
    skipBlock_blockTokens hbalanced]

def isConstantToken (token : ProtoToken) : Bool :=
  isPlainToken token && decide (token ≠ .punctuation ';')

theorem settles_constant {others : List ProtoToken}
    (hname : name.head ≠ httpOptionName) (hopen : token ≠ .punctuation '\x7b')
    (hothers : ∀ other ∈ others, isConstantToken other = true)
    (hrest : Settles rpcBodyTurn cursorSize ({ body with sawUnsupportedOption := true }, rest) r) :
    Settles rpcBodyTurn cursorSize (body, word "option" ::
      (name.tokens ++ .punctuation '=' :: (token :: (others ++ .punctuation ';' :: rest)))) r := by
  cases others with
  | nil =>
      refine Settles.of_again (rpcBodyTurn_option (readOptionValue_other hname hopen)) ?_ ?_
      · simp [cursorSize]
        omega
      · simpa using hrest
  | cons other others =>
      have hplain : ∀ other' ∈ other :: others, isPlainToken other' = true := fun other' hmem =>
        (Bool.and_eq_true_iff.mp (hothers other' hmem)).1
      have hsemicolon : other ≠ .punctuation ';' :=
        of_decide_eq_true (Bool.and_eq_true_iff.mp (hothers other (by simp))).2
      have hturn := rpcBodyTurn_option
        (@readOptionValue_other body (other :: others ++ .punctuation ';' :: rest) _ _ hname hopen)
      rw [List.cons_append, skipPunctuation_of_ne hsemicolon] at hturn
      refine Settles.of_again hturn ?_ ?_
      · simp [cursorSize]
        omega
      · exact settles_plains hplain (settles_plain (by decide) hrest)

theorem settles_option {option : ProtoOption} (hname : option.name.head ≠ httpOptionName)
    (hvalue : option.value.isWellFormed = true)
    (hrest : Settles rpcBodyTurn cursorSize ({ body with sawUnsupportedOption := true }, rest) r) :
    Settles rpcBodyTurn cursorSize (body, option.tokens ++ rest) r := by
  obtain ⟨name, value⟩ := option
  simp only [ProtoOption.tokens, List.cons_append, List.append_assoc, List.nil_append]
  have hnone : ∀ other ∈ ([] : List ProtoToken), isConstantToken other = true := by simp
  cases value with
  | name value => exact settles_constant hname (by simp) hnone hrest
  | number value => exact settles_constant hname (by simp) hnone hrest
  | text value others =>
      refine settles_constant hname (by simp) ?_ hrest
      intro other hother
      obtain ⟨text, -, rfl⟩ := List.mem_map.mp hother
      simp [isConstantToken, isPlainToken, word]
  | signedNumber sign value =>
      have hothers : ∀ other ∈ [ProtoToken.number value], isConstantToken other = true := by
        simp [isConstantToken, isPlainToken, word]
      exact settles_constant hname (by cases sign <;> decide) hothers hrest
  | signedWord sign isNan =>
      have hothers : ∀ other ∈ [word (if isNan then "nan" else "inf")],
          isConstantToken other = true := by cases isNan <;> decide
      exact settles_constant hname (by cases sign <;> decide) hothers hrest
  | block inner =>
      have hturn := rpcBodyTurn_option
        (@readOptionValue_block body (.punctuation ';' :: rest) _ inner hname hvalue)
      rw [skipPunctuation_self] at hturn
      refine Settles.of_again hturn ?_ hrest
      simp [cursorSize]
      omega

end Options

section RpcBodies

variable {rest : TokenCursor}

def bodyAfter (body : RpcBody) : RpcEntry → RpcBody
  | .option _ => { body with sawUnsupportedOption := true }
  | .http entries =>
      { body with
        state :=
          if 1 < (body.bindings ++ entries.bindings .primary).length then .ambiguous else .proven
        bindings := body.bindings ++ entries.bindings .primary }

theorem settles_entry {body : RpcBody} {entry : RpcEntry} {r : Option RpcBody × TokenCursor}
    (h : entry.isWellFormed = true)
    (hrest : Settles rpcBodyTurn cursorSize (bodyAfter body entry, rest) r) :
    Settles rpcBodyTurn cursorSize (body, entry.tokens ++ rest) r := by
  cases entry with
  | option opt =>
      simp only [RpcEntry.isWellFormed, Bool.and_eq_true, decide_eq_true_eq] at h
      exact settles_option h.1 h.2 hrest
  | http entries =>
      simp only [RpcEntry.isWellFormed, Bool.and_eq_true] at h
      have hblock := @readBindingBlock_tokens (.punctuation ';' :: rest) entries .primary h.1 h.2
      have hvalue : readOptionValue httpOptionName body (.punctuation '\x7b' ::
          (entries.tokens ++ .punctuation '\x7d' :: .punctuation ';' :: rest)) =
          (some (bodyAfter body (.http entries)), rest) := by
        simp only [readOptionValue, ne_eq, not_true_eq_false, if_false, isPunctuation_cons,
          decide_true, Bool.not_true, Bool.false_eq_true, hblock, skipPunctuation_self, bodyAfter]
      have htokens : (RpcEntry.http entries).tokens ++ rest = word "option" ::
          ((OptionName.extension httpOptionName []).tokens ++ .punctuation '=' ::
            (.punctuation '\x7b' :: (entries.tokens ++ .punctuation '\x7d' ::
              .punctuation ';' :: rest))) := by
        simp [RpcEntry.tokens, OptionName.tokens, blockTokens]
      rw [htokens]
      refine Settles.of_again (rpcBodyTurn_option hvalue) ?_ hrest
      simp [cursorSize]
      omega

theorem settles_entries {body : RpcBody} {entries : List RpcEntry}
    (h : entries.all RpcEntry.isWellFormed = true) : Settles rpcBodyTurn cursorSize
      (body, entries.flatMap RpcEntry.tokens ++ .punctuation '\x7d' :: rest)
      (some (entries.foldl bodyAfter body), .punctuation '\x7d' :: rest) := by
  induction entries generalizing body with
  | nil => exact Settles.of_done (by simp [rpcBodyTurn])
  | cons entry entries ih =>
      simp only [List.all_cons, Bool.and_eq_true] at h
      rw [List.flatMap_cons, List.append_assoc]
      exact settles_entry h.1 (ih h.2)

theorem foldl_bodyAfter (entries : List RpcEntry) (body : RpcBody) :
    (entries.foldl bodyAfter body).bindings = body.bindings ++
        entries.flatMap RpcEntry.bindings ∧
      (entries.foldl bodyAfter body).state =
        (if entries.any RpcEntry.isHttp then
          if 1 < (body.bindings ++ entries.flatMap RpcEntry.bindings).length then .ambiguous
          else .proven
        else body.state) ∧
      (entries.foldl bodyAfter body).sawUnsupportedOption =
        (body.sawUnsupportedOption || entries.any fun entry => !entry.isHttp) := by
  induction entries generalizing body with
  | nil => simp
  | cons entry entries ih =>
      obtain ⟨hbindings, hstate, hsaw⟩ := ih (bodyAfter body entry)
      rw [List.foldl_cons, hbindings, hstate, hsaw]
      cases entry with
      | option opt => simp [bodyAfter, RpcEntry.bindings, RpcEntry.isHttp]
      | http inner =>
          refine ⟨by simp [bodyAfter, RpcEntry.bindings], ?_, by simp [bodyAfter, RpcEntry.isHttp]⟩
          by_cases hany : entries.any RpcEntry.isHttp = true
          · simp [bodyAfter, RpcEntry.bindings, RpcEntry.isHttp, hany]
          · have hnone : entries.flatMap RpcEntry.bindings = [] := by
              refine List.flatMap_eq_nil_iff.mpr fun other hother => ?_
              cases other with
              | option opt => rfl
              | http inner => exact absurd (List.any_eq_true.mpr ⟨_, hother, rfl⟩) hany
            simp [bodyAfter, RpcEntry.bindings, RpcEntry.isHttp, hany, hnone]

theorem bindings_eq_nil {rpc : Rpc} (h : ¬ rpc.entries.any RpcEntry.isHttp = true) :
    rpc.bindings = [] := by
  refine List.flatMap_eq_nil_iff.mpr fun entry hentry => ?_
  cases entry with
  | option opt => rfl
  | http inner => exact absurd (List.any_eq_true.mpr ⟨_, hentry, rfl⟩) h

theorem parse_entries (rpc : Rpc) :
    (rpc.entries.foldl bodyAfter .empty).parse = ⟨rpc.bindingState, rpc.bindings, true⟩ := by
  have hfold : (rpc.entries.foldl bodyAfter .empty).bindings = rpc.bindings ∧
      (rpc.entries.foldl bodyAfter .empty).state =
        (if rpc.entries.any RpcEntry.isHttp then
          if 1 < rpc.bindings.length then .ambiguous else .proven
        else .absent) ∧
      (rpc.entries.foldl bodyAfter .empty).sawUnsupportedOption =
        rpc.entries.any fun entry => !entry.isHttp := foldl_bodyAfter rpc.entries .empty
  obtain ⟨hbindings, hstate, hsaw⟩ := hfold
  rw [RpcBody.parse, hbindings, hsaw]
  by_cases hany : rpc.entries.any RpcEntry.isHttp = true
  · rw [if_pos hany] at hstate
    have hknown : (rpc.entries.foldl bodyAfter .empty).state ≠ .absent := by
      rw [hstate]
      split
      · simp
      · simp
    rw [decide_eq_false hknown, Bool.false_and, hstate, Rpc.bindingState, if_pos hany]
    rfl
  · rw [if_neg hany] at hstate
    rw [hstate, decide_eq_true rfl, Bool.true_and, bindings_eq_nil hany, Rpc.bindingState,
      if_neg hany]
    cases hentries : rpc.entries with
    | nil => simp
    | cons entry entries =>
        have hother : entry.isHttp = false := by
          simpa [hentries] using fun h => hany (List.any_eq_true.mpr ⟨entry, by simp [hentries], h⟩)
        simp [hother]

theorem readRpcBody_tokens {rpc : Rpc} {entries : List RpcEntry} (hbody : rpc.body = some entries)
    (h : entries.all RpcEntry.isWellFormed = true) :
    readRpcBody (blockTokens (entries.flatMap RpcEntry.tokens) ++ rest) =
      (⟨rpc.bindingState, rpc.bindings, true⟩, rest) := by
  have hentries : rpc.entries = entries := by rw [Rpc.entries, hbody, Option.getD_some]
  have hloop := (@settles_entries rest .empty entries h).loop_eq
  simp only [cursorSize] at hloop
  rw [← parse_entries rpc, hentries, blockTokens, List.cons_append, List.append_assoc,
    List.singleton_append, readRpcBody, takePunctuation_self]
  simp only [hloop, Option.getD_some, takePunctuation_self]

end RpcBodies

section Services

variable {rest : TokenCursor}

theorem readClosedReference_tokens {reference : MessageReference}
    (h : isSafeQualified reference.message = true) :
    readClosedReference (referenceTokens reference ++ .punctuation ')' :: rest) =
      (some reference, rest) := by
  obtain ⟨streaming, message⟩ := reference
  cases streaming with
  | true =>
      simp only [readClosedReference, referenceTokens, readMessageReference, word, if_true,
        List.nil_append, List.cons_append, isIdentifier_cons, decide_true, List.tail_cons,
        takeIdentifier_self, Option.isSome_some, Bool.and_self, h, takePunctuation_self]
  | false =>
      have hstreaming : (isIdentifier "stream" (ProtoToken.identifier message ::
          .punctuation ')' :: rest) &&
          (takeIdentifier (.punctuation ')' :: rest)).1.isSome) = false := by
        simp [takeIdentifier]
      simp only [readClosedReference, referenceTokens, readMessageReference, Bool.false_eq_true,
        if_false, List.nil_append, List.singleton_append, List.tail_cons, hstreaming,
        takeIdentifier_self, h, if_true, takePunctuation_self]

theorem readRpcHeader_tokens {rpc : Rpc} (hname : isSafeIdentifier rpc.name = true)
    (hrequest : isSafeQualified rpc.request.message = true)
    (hresponse : isSafeQualified rpc.response.message = true) :
    readRpcHeader (.identifier rpc.name :: .punctuation '(' :: (referenceTokens rpc.request ++
        .punctuation ')' :: word "returns" :: .punctuation '(' ::
          (referenceTokens rpc.response ++ .punctuation ')' :: rest))) =
      (some ⟨rpc.name, rpc.request, rpc.response⟩, rest) := by
  simp only [readRpcHeader, readRpcName, takeIdentifier_self, hname, Bool.not_true,
    Bool.false_eq_true, if_false, takePunctuation_self, readClosedReference_tokens hrequest, word,
    isIdentifier_cons, decide_true, List.tail_cons, readClosedReference_tokens hresponse]

def restTokens (rpc : Rpc) : List ProtoToken :=
  match rpc.body with
  | none => [.punctuation ';']
  | some entries => blockTokens (entries.flatMap RpcEntry.tokens)

theorem readRpcRest_tokens {rpc : Rpc} (h : rpc.entries.all RpcEntry.isWellFormed = true) :
    readRpcRest (restTokens rpc ++ rest) = (some ⟨rpc.bindingState, rpc.bindings, true⟩, rest) := by
  cases hbody : rpc.body with
  | none =>
      have hentries : rpc.entries = [] := by rw [Rpc.entries, hbody, Option.getD_none]
      simp [restTokens, hbody, readRpcRest, Rpc.bindingState, Rpc.bindings, hentries]
  | some entries =>
      rw [Rpc.entries, hbody, Option.getD_some] at h
      have hopen : isPunctuation '\x7b'
          (blockTokens (entries.flatMap RpcEntry.tokens) ++ rest) = true := by simp [blockTokens]
      simp only [restTokens, hbody, readRpcRest, hopen, if_true, readRpcBody_tokens hbody h]

theorem streamingClass_eq (rpc : Rpc) :
    streamingClass rpc.request.streaming rpc.response.streaming = rpc.streamingClass := by
  simp only [Rpc.streamingClass]
  cases rpc.request.streaming <;> cases rpc.response.streaming <;> rfl

theorem readRpc_tokens {package : Option JsString} {serviceName : JsString} {read : ServiceRead}
    {rpc : Rpc} (h : rpc.isWellFormed = true) : ∃ tokens, rpc.tokens = word "rpc" :: tokens ∧
      readRpc package serviceName read (tokens ++ rest) =
        (read.add (rpc.declared package serviceName), rest) := by
  simp only [Rpc.isWellFormed, Bool.and_eq_true] at h
  obtain ⟨⟨⟨⟨hname, hrequest⟩, hresponse⟩, hentries⟩, -⟩ := h
  refine ⟨_, rfl, ?_⟩
  have hheader := @readRpcHeader_tokens (restTokens rpc ++ rest) rpc hname hrequest hresponse
  have hrest := @readRpcRest_tokens rest rpc hentries
  have hfact : rpcFact package serviceName ⟨rpc.name, rpc.request, rpc.response⟩
      ⟨rpc.bindingState, rpc.bindings, true⟩ = rpc.declared package serviceName := by
    simp only [rpcFact, Rpc.declared, streamingClass_eq]
  have hshape : (.identifier rpc.name :: .punctuation '(' :: (referenceTokens rpc.request ++
      .punctuation ')' :: word "returns" :: .punctuation '(' :: (referenceTokens rpc.response ++
        .punctuation ')' :: restTokens rpc))) ++ rest =
      .identifier rpc.name :: .punctuation '(' :: (referenceTokens rpc.request ++
        .punctuation ')' :: word "returns" :: .punctuation '(' ::
          (referenceTokens rpc.response ++ .punctuation ')' :: (restTokens rpc ++ rest))) := by
    simp only [List.cons_append, List.append_assoc]
  refine Eq.trans (congrArg (readRpc package serviceName read) hshape) ?_
  simp only [readRpc, hheader, hrest, Bool.not_true, Bool.false_and, Bool.false_eq_true, if_false,
    hfact]

variable {tokens : List ProtoToken}

theorem skipToValueEnd_append
    (h : ∀ token ∈ tokens, token ≠ .punctuation ';' ∧ token ≠ .punctuation '\x7b') :
    skipToValueEnd (tokens ++ rest) = skipToValueEnd rest := by
  induction tokens with
  | nil => rfl
  | cons token tokens ih =>
      have hstop : ¬ (token = .punctuation ';' ∨ token = .punctuation '\x7b') := by
        rintro (heq | heq)
        · exact (h token (by simp)).1 heq
        · exact (h token (by simp)).2 heq
      rw [List.cons_append, skipToValueEnd, if_neg hstop]
      exact ih fun other hother => h other (by simp [hother])

variable {read : ServiceRead}

theorem skipServiceOption_constant
    (h : ∀ token ∈ tokens, token ≠ .punctuation ';' ∧ token ≠ .punctuation '\x7b') :
    skipServiceOption read (tokens ++ .punctuation ';' :: rest) = (read, rest) := by
  simp [skipServiceOption, skipToValueEnd_append h, skipToValueEnd]

theorem skipServiceOption_block {body : List ProtoToken}
    (h : ∀ token ∈ tokens, token ≠ .punctuation ';' ∧ token ≠ .punctuation '\x7b')
    (hbody : isBalanced body = true) :
    skipServiceOption read (tokens ++ (blockTokens body ++ .punctuation ';' :: rest)) =
      (read, rest) := by
  have hstop : skipToValueEnd (blockTokens body ++ .punctuation ';' :: rest) =
      blockTokens body ++ .punctuation ';' :: rest := by
    simp [blockTokens, skipToValueEnd]
  have hopen : isPunctuation '\x7b' (blockTokens body ++ .punctuation ';' :: rest) = true := by
    simp [blockTokens]
  simp only [skipServiceOption, skipToValueEnd_append h, hstop, hopen, if_true,
    skipBlock_blockTokens hbody, skipPunctuation_self]

def headTokens (option : ProtoOption) : List ProtoToken :=
  option.name.tokens ++ .punctuation '=' ::
    match option.value with
    | .block _ => []
    | value => value.tokens

def tailTokens (option : ProtoOption) : List ProtoToken :=
  match option.value with
  | .block body => blockTokens body ++ [.punctuation ';']
  | _ => [.punctuation ';']

theorem tokens_eq (option : ProtoOption) :
    option.tokens = word "option" :: (headTokens option ++ tailTokens option) := by
  obtain ⟨name, value⟩ := option
  cases value <;> simp [ProtoOption.tokens, headTokens, tailTokens, OptionValue.tokens]

def isInner (token : ProtoToken) : Bool :=
  decide (token ≠ .punctuation ';') && decide (token ≠ .punctuation '\x7b') &&
    decide (token ≠ .punctuation '\x7d')

theorem isInner_name (name : OptionName) : ∀ token ∈ name.tokens, isInner token = true := by
  cases name with
  | plain name => simp [OptionName.tokens, isInner]
  | extension name suffixes =>
      intro token htoken
      simp only [OptionName.tokens, List.mem_cons, List.mem_flatMap, List.not_mem_nil,
        or_false] at htoken
      rcases htoken with rfl | rfl | rfl | ⟨suffix, -, rfl | rfl⟩
      all_goals rfl

theorem isInner_head (option : ProtoOption) :
    ∀ token ∈ headTokens option, isInner token = true := by
  obtain ⟨name, value⟩ := option
  intro token htoken
  simp only [headTokens, List.mem_append, List.mem_cons] at htoken
  rcases htoken with hname | rfl | hvalue
  · exact isInner_name name token hname
  · rfl
  · cases value with
    | name value =>
        obtain rfl := List.mem_singleton.mp hvalue
        rfl
    | number value =>
        obtain rfl := List.mem_singleton.mp hvalue
        rfl
    | text value others =>
        rcases List.mem_cons.mp hvalue with rfl | hothers
        · rfl
        · obtain ⟨other, -, rfl⟩ := List.mem_map.mp hothers
          rfl
    | signedNumber sign value =>
        rcases List.mem_pair.mp hvalue with rfl | rfl
        · cases sign <;> rfl
        · rfl
    | signedWord sign isNan =>
        rcases List.mem_pair.mp hvalue with rfl | rfl
        · cases sign <;> rfl
        · rfl
    | block body => simp at hvalue

theorem stops_of_isInner (h : ∀ token ∈ tokens, isInner token = true) :
    ∀ token ∈ tokens, token ≠ .punctuation ';' ∧ token ≠ .punctuation '\x7b' := by
  intro token htoken
  have hinner := h token htoken
  simp only [isInner, Bool.and_eq_true, decide_eq_true_eq] at hinner
  exact hinner.1

theorem skipServiceOption_tokens {option : ProtoOption} {read : ServiceRead}
    (h : option.value.isWellFormed = true) :
    skipServiceOption read (headTokens option ++ tailTokens option ++ rest) = (read, rest) := by
  have hstops := stops_of_isInner (isInner_head option)
  cases hvalue : option.value with
  | block body =>
      rw [hvalue] at h
      simp only [tailTokens, hvalue, List.append_assoc]
      exact skipServiceOption_block hstops h
  | _ =>
      simp only [tailTokens, hvalue, List.append_assoc, List.singleton_append]
      exact skipServiceOption_constant hstops

section Members

variable {package : Option JsString} {serviceName : JsString}

def memberAfter (package : Option JsString) (serviceName : JsString) (read : ServiceRead) :
    ServiceMember → ServiceRead
  | .option _ => read
  | .rpc method => read.add (method.declared package serviceName)

theorem memberTurn_tokens {read : ServiceRead} {member : ServiceMember}
    (h : member.isWellFormed = true) :
    memberTurn package serviceName (read, member.tokens ++ rest) =
      .again (memberAfter package serviceName read member, rest) := by
  cases member with
  | option opt =>
      have hskip := @skipServiceOption_tokens rest opt read h
      simp only [ServiceMember.tokens, tokens_eq, List.cons_append, memberTurn, atEnd_cons, word,
        reduceCtorEq, decide_false, Bool.false_eq_true, if_false, isIdentifier_cons, decide_true,
        if_true, List.tail_cons, hskip, memberAfter]
  | rpc method =>
      obtain ⟨tokens, htokens, hread⟩ :=
        @readRpc_tokens rest package serviceName read method h
      have hoption : decide (word "rpc" = ProtoToken.identifier "option".toList) = false := by
        decide
      have hrpc : decide (word "rpc" = ProtoToken.identifier "rpc".toList) = true := by decide
      have hend : decide (word "rpc" = ProtoToken.punctuation '\x7d') = false := by decide
      simp only [ServiceMember.tokens, htokens, List.cons_append, memberTurn, atEnd_cons, hend,
        Bool.false_eq_true, if_false, isIdentifier_cons, hoption, hrpc, Bool.not_true,
        List.tail_cons, hread, memberAfter]

theorem tokens_pos (member : ServiceMember) : 0 < member.tokens.length := by
  cases member with
  | option opt => simp [ServiceMember.tokens, ProtoOption.tokens]
  | rpc method => simp [ServiceMember.tokens, Rpc.tokens]

theorem members_settles {members : List ServiceMember} {read : ServiceRead}
    (h : members.all ServiceMember.isWellFormed = true)
    (hceiling : read.rpcs.length + (rpcsOf members).length ≤ protoMaxRpcsPerService) :
    Settles (memberTurn package serviceName) cursorSize
      (read, members.flatMap ServiceMember.tokens ++ .punctuation '\x7d' :: rest)
      (⟨read.rpcs ++ (rpcsOf members).map (Rpc.declared package serviceName), read.state⟩,
        .punctuation '\x7d' :: rest) := by
  induction members generalizing read with
  | nil => exact Settles.of_done (by simp [memberTurn, rpcsOf])
  | cons member members ih =>
      simp only [List.all_cons, Bool.and_eq_true] at h
      rw [List.flatMap_cons, List.append_assoc]
      refine Settles.of_again (memberTurn_tokens h.1) ?_ ?_
      · have hpos := tokens_pos member
        simp [cursorSize]
        omega
      · cases member with
        | option opt => exact ih h.2 hceiling
        | rpc method =>
            have hrpcs : rpcsOf (.rpc method :: members) = method :: rpcsOf members := rfl
            rw [hrpcs, List.length_cons] at hceiling
            have hadd : memberAfter package serviceName read (.rpc method) =
                ⟨read.rpcs ++ [method.declared package serviceName], read.state⟩ := by
              rw [memberAfter, ServiceRead.add, if_neg (by omega)]
            have hrest := @ih ⟨read.rpcs ++ [method.declared package serviceName], read.state⟩ h.2
              (by simp; omega)
            rw [hadd, hrpcs]
            simpa using hrest

theorem readService_tokens {name : JsString} {members : List ServiceMember} {state : ReaderState}
    (hname : isSafeIdentifier name = true) (h : members.all ServiceMember.isWellFormed = true)
    (hceiling : (rpcsOf members).length ≤ protoMaxRpcsPerService) : readService package state
        (.identifier name :: (blockTokens (members.flatMap ServiceMember.tokens) ++ rest)) =
      (FileItem.service? package (.service name members), state, rest) := by
  have hsettles := @members_settles rest package name members ⟨[], state⟩ h (by simpa using hceiling)
  have hloop := hsettles.loop_eq
  simp only [cursorSize] at hloop
  simp only [readService, readServiceName, takeIdentifier_self, hname, Bool.not_true,
    Bool.false_eq_true, if_false, blockTokens, List.cons_append, List.append_assoc,
    List.nil_append, takePunctuation_self, hloop, Option.getD_some, FileItem.service?]

end Members

end Services

end NightWatch.Source.ProtoReading
