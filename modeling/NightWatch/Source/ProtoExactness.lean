import NightWatch.Source.ProtoReading

namespace NightWatch.Source.ProtoExactness

open Lib.JsText Lib.Loop Source.ProtoLexer Source.ProtoDeclarations Source.ProtoGrammar
  Source.ProtoReading

section Leading

/-- Whatever the loop comes to from the second state, it comes to from the first. -/
def Leads (s t : FileRead × TokenCursor) : Prop :=
  ∀ r, Settles declarationTurn cursorSize t r → Settles declarationTurn cursorSize s r

theorem Leads.refl (s : FileRead × TokenCursor) : Leads s s := fun _ h => h

variable {s t : FileRead × TokenCursor}

theorem Leads.trans {u : FileRead × TokenCursor} (h : Leads s t) (h' : Leads t u) :
    Leads s u := fun r hr => h r (h' r hr)

theorem Leads.of_turn (h : declarationTurn s = .again t)
    (hless : cursorSize t < cursorSize s) : Leads s t :=
  fun _ hr => Settles.of_again h hless hr

variable {read : FileRead} {rest : TokenCursor}

def isSkipped (token : ProtoToken) : Bool :=
  decide (token ∉ [word "package", word "service", word "message", word "enum",
    .punctuation '\x7b'])

theorem leads_skipped {token : ProtoToken} (h : isSkipped token = true) :
    Leads (read, token :: rest) (read, rest) := by
  have hnone : token ∉ [word "package", word "service", word "message", word "enum",
      .punctuation '\x7b'] := of_decide_eq_true h
  simp only [List.mem_cons, List.not_mem_nil, or_false, not_or, word] at hnone
  obtain ⟨hpackage, hservice, hmessage, henum, hopen⟩ := hnone
  refine Leads.of_turn ?_ (by simp [cursorSize])
  simp only [declarationTurn, List.isEmpty_cons, Bool.false_eq_true, if_false, isIdentifier_cons,
    decide_eq_false hpackage, decide_eq_false hservice, decide_eq_false hmessage,
    decide_eq_false henum, Bool.or_self, isPunctuation_cons, decide_eq_false hopen, List.tail_cons]

theorem leads_block {body : List ProtoToken} (h : isBalanced body = true) :
    Leads (read, blockTokens body ++ rest) (read, rest) := by
  refine Leads.of_turn ?_ (by simp [cursorSize, blockTokens]; omega)
  have hskip : skipFileBlock read (blockTokens body ++ rest) = (read, rest) := by
    rw [skipFileBlock, skipBlock_blockTokens h]
  rw [← hskip]
  simp [declarationTurn, blockTokens]

theorem leads_package {name : JsString} (hname : isSafeQualified name = true) :
    Leads (read, word "package" :: .identifier name :: .punctuation ';' :: rest)
      ({ read with packageName := some name }, rest) := by
  refine Leads.of_turn ?_ (by simp [cursorSize]; omega)
  simp [declarationTurn, word, readPackage, hname]

end Leading

section Blocks

variable {rest : TokenCursor}

theorem resynchronizeAt_level {body : List ProtoToken} {depth last : Nat}
    (h : level depth body = some last) :
    resynchronizeAt (depth + 1) (body ++ rest) = resynchronizeAt (last + 1) rest := by
  induction body generalizing depth with
  | nil =>
      obtain rfl := Option.some.inj h
      rfl
  | cons token body ih =>
      simp only [level] at h
      rw [List.cons_append, resynchronizeAt]
      by_cases hopen : token = .punctuation '\x7b'
      · rw [if_pos hopen] at h ⊢
        exact ih h
      · rw [if_neg hopen] at h ⊢
        by_cases hclose : token = .punctuation '\x7d'
        · rw [if_pos hclose] at h ⊢
          cases depth with
          | zero => simp at h
          | succ depth =>
              rw [if_neg (by omega)]
              exact ih h
        · rw [if_neg hclose] at h ⊢
          rw [if_neg (by omega), if_neg (by omega)]
          exact ih h

theorem resynchronizeAt_tail {option : ProtoOption} (h : option.value.isWellFormed = true) :
    resynchronizeAt 0 (tailTokens option ++ rest) = rest := by
  have hsemicolon : resynchronizeAt 0 (.punctuation ';' :: rest) = rest := by
    simp [resynchronizeAt]
  cases hvalue : option.value with
  | block body =>
      rw [hvalue] at h
      have hlevel : level 0 body = some 0 := of_decide_eq_true h
      have hbody := @resynchronizeAt_level
        (.punctuation '\x7d' :: .punctuation ';' :: rest) body 0 0 hlevel
      rw [tailTokens, hvalue]
      simp only [blockTokens, List.cons_append, List.append_assoc, List.nil_append]
      rw [resynchronizeAt, if_pos rfl, hbody, resynchronizeAt]
      simp [resynchronizeAt]
  | _ => simpa [tailTokens, hvalue] using hsemicolon

theorem leads_tail {read : FileRead} {option : ProtoOption} (h : option.value.isWellFormed = true) :
    Leads (read, tailTokens option ++ rest) (read, rest) := by
  have hsemicolon : Leads (read, .punctuation ';' :: rest) (read, rest) := leads_skipped (by decide)
  cases hvalue : option.value with
  | block body =>
      rw [hvalue] at h
      simp only [tailTokens, hvalue, List.append_assoc]
      exact (leads_block h).trans hsemicolon
  | _ => simpa [tailTokens, hvalue] using hsemicolon

theorem resynchronizeAt_inner {tokens tail : List ProtoToken}
    (hinner : ∀ token ∈ tokens, isInner token = true) (htail : resynchronizeAt 0 tail = rest) :
    resynchronizeAt 0 (tokens ++ tail) = rest ∨ ∃ front back, tokens = front ++ back ∧
        resynchronizeAt 0 (tokens ++ tail) = back ++ tail := by
  induction tokens with
  | nil => exact .inl htail
  | cons token tokens ih =>
      have hstop := hinner token (by simp)
      simp only [isInner, Bool.and_eq_true, decide_eq_true_eq] at hstop
      obtain ⟨⟨hsemicolon, hopen⟩, hclose⟩ := hstop
      rw [List.cons_append, resynchronizeAt, if_neg hopen, if_neg hclose,
        if_neg fun h => hsemicolon h.2]
      split
      · exact .inr ⟨[], token :: tokens, rfl, rfl⟩
      · rcases ih fun other hother => hinner other (by simp [hother]) with hrest | hword
        · exact .inl hrest
        · obtain ⟨front, back, rfl, hback⟩ := hword
          exact .inr ⟨token :: front, back, rfl, hback⟩

end Blocks

section Words

def FileRead.unread (read : FileRead) : Nat :=
  read.state.malformedDeclarations + read.state.droppedByCeiling

/-- What the words among some tokens do to what is read. -/
structure Effect (read : FileRead) (tokens : List ProtoToken) (after : FileRead) : Prop where
  services : after.services = read.services
  messageNames : after.messageNames = read.messageNames
  unread : FileRead.unread read ≤ FileRead.unread after
  package : after.packageName = read.packageName ∨ after.packageName = none
  same : word "service" ∉ tokens → (read.packageName ≠ none → word "package" ∉ tokens) →
    after = read
  service : word "service" ∈ tokens → FileRead.unread read < FileRead.unread after
  lost : word "package" ∈ tokens → word "service" ∉ tokens → after.packageName = none

variable {read after : FileRead} {tokens : List ProtoToken}

theorem Effect.nil : Effect read [] read where
  services := rfl
  messageNames := rfl
  unread := le_refl _
  package := .inl rfl
  same _ _ := rfl
  service h := by simp at h
  lost h := by simp at h

variable {token : ProtoToken} {back front : List ProtoToken} {value : JsString}
  {tail : TokenCursor} {mark : Char} {keyword : String} {option : ProtoOption}

theorem Effect.skip (hpackage : token ≠ word "package")
    (hservice : token ≠ word "service") (h : Effect read tokens after) :
    Effect read (token :: tokens) after where
  services := h.services
  messageNames := h.messageNames
  unread := h.unread
  package := h.package
  same hnone hlost := h.same (fun hmem => hnone (by simp [hmem]))
    fun hsome hmem => hlost hsome (by simp [hmem])
  service hmem := by
    rcases List.mem_cons.mp hmem with heq | hmem
    · exact absurd heq.symm hservice
    · exact h.service hmem
  lost hmem hnone := by
    rcases List.mem_cons.mp hmem with heq | hmem
    · exact absurd heq.symm hpackage
    · exact h.lost hmem fun hin => hnone (by simp [hin])

theorem Effect.takePackage (h : Effect { read with packageName := none } tokens after) :
    Effect read (word "package" :: tokens) after where
  services := h.services
  messageNames := h.messageNames
  unread := h.unread
  package := .inr (h.package.elim id id)
  same hnone hlost := by
    have hpackage : read.packageName = none := by
      by_contra hsome
      exact hlost hsome (by simp)
    have hread : { read with packageName := none } = read := by rw [← hpackage]
    exact (h.same (fun hmem => hnone (by simp [hmem])) fun hsome => absurd rfl hsome).trans hread
  service hmem := by
    rcases List.mem_cons.mp hmem with heq | hmem
    · exact absurd heq (by decide)
    · exact h.service hmem
  lost _ _ := h.package.elim id id

theorem Effect.takeService {state : ReaderState} {others : List ProtoToken}
    (hstate : FileRead.unread read < FileRead.unread { read with state })
    (h : Effect { read with state } others after) :
    Effect read (word "service" :: tokens) after where
  services := h.services
  messageNames := h.messageNames
  unread := le_of_lt (lt_of_lt_of_le hstate h.unread)
  package := h.package
  same hnone _ := absurd (List.mem_cons_self) hnone
  service _ := lt_of_lt_of_le hstate h.unread
  lost _ hnone := absurd (List.mem_cons_self) hnone

def isWord : ProtoToken → Bool
  | .identifier _ => true
  | _ => false

def isMark : ProtoToken → Bool
  | .punctuation _ => true
  | _ => false

def isFollowed (endsOpen : Bool) : List ProtoToken → Bool
  | [] => true
  | [token] => !isWord token || endsOpen
  | token :: next :: rest => (!isWord token || isMark next) && isFollowed endsOpen (next :: rest)

theorem isFollowed_tail {endsOpen : Bool}
    (h : isFollowed endsOpen (token :: tokens) = true) : isFollowed endsOpen tokens = true := by
  cases tokens with
  | nil => rfl
  | cons next rest =>
      simp only [isFollowed, Bool.and_eq_true] at h
      exact h.2

theorem isFollowed_back {endsOpen : Bool}
    (h : isFollowed endsOpen (front ++ back) = true) : isFollowed endsOpen back = true := by
  induction front with
  | nil => exact h
  | cons token front ih => exact ih (isFollowed_tail h)

theorem exists_mark {endsOpen : Bool} (hinner : ∀ token ∈ tokens, isInner token = true)
    (h : isFollowed endsOpen (.identifier value :: tokens) = true)
    (htail : endsOpen = true → ∃ rest, tail = .punctuation ';' :: rest) :
    ∃ mark rest, tokens ++ tail = .punctuation mark :: rest ∧ mark ≠ '\x7b' ∧
      (mark = ';' → tokens = []) := by
  cases tokens with
  | nil =>
      obtain ⟨rest, rfl⟩ := htail (by simpa [isFollowed, isWord] using h)
      exact ⟨';', rest, rfl, by decide, fun _ => rfl⟩
  | cons next tokens =>
      have hnext := hinner next (by simp)
      simp only [isFollowed, isWord, Bool.not_true, Bool.false_or, Bool.and_eq_true] at h
      cases next with
      | punctuation mark =>
          simp only [isInner, Bool.and_eq_true, decide_eq_true_eq, ne_eq,
            ProtoToken.punctuation.injEq] at hnext
          exact ⟨mark, tokens ++ tail, rfl, hnext.1.2, fun heq => absurd heq hnext.1.1⟩
      | identifier _ => simp [isMark] at h
      | string _ => simp [isMark] at h
      | number _ => simp [isMark] at h

theorem declarationTurn_package {rest : TokenCursor} :
    declarationTurn (read, word "package" :: .punctuation mark :: rest) =
      .again ({ read with packageName := none },
        skipPunctuation ';' (.punctuation mark :: rest)) := by
  simp only [declarationTurn, word, List.isEmpty_cons, Bool.false_eq_true, if_false,
    isIdentifier_cons, decide_true, if_true, List.tail_cons, readPackage, takeIdentifier,
    Option.filter_none]

theorem declarationTurn_message {rest : TokenCursor}
    (hkeyword : keyword = "message" ∨ keyword = "enum") (hmark : mark ≠ '\x7b') :
    declarationTurn (read, word keyword :: .punctuation mark :: rest) =
      .again (read, .punctuation mark :: rest) := by
  have hpackage : decide (word keyword = ProtoToken.identifier "package".toList) = false := by
    rcases hkeyword with rfl | rfl
    · decide
    · decide
  have hservice : decide (word keyword = ProtoToken.identifier "service".toList) = false := by
    rcases hkeyword with rfl | rfl
    · decide
    · decide
  have hkept : (isIdentifier "message" (word keyword :: .punctuation mark :: rest) ||
      isIdentifier "enum" (word keyword :: .punctuation mark :: rest)) = true := by
    rcases hkeyword with rfl | rfl
    · simp [word]
    · simp [word]
  have hopen : decide (ProtoToken.punctuation mark = .punctuation '\x7b') = false :=
    decide_eq_false fun heq => hmark (ProtoToken.punctuation.inj heq)
  simp only [declarationTurn, List.isEmpty_cons, Bool.false_eq_true, if_false, isIdentifier_cons,
    hpackage, hservice] at hkept ⊢
  rw [if_pos hkept]
  simp only [List.tail_cons, readMessage, takeIdentifier, Option.filter_none, isPunctuation_cons,
    hopen, Bool.false_eq_true, if_false]

theorem declarationTurn_service {rest : TokenCursor} (hmark : mark ≠ '\x7b') :
    ∃ state, FileRead.unread read < FileRead.unread { read with state } ∧
      (declarationTurn (read, word "service" :: .punctuation mark :: rest) =
          .again ({ read with state }, .punctuation mark :: rest) ∨
        declarationTurn (read, word "service" :: .punctuation mark :: rest) =
          .again ({ read with state }, resynchronize (.punctuation mark :: rest))) := by
  have hpackage : decide (word "service" = ProtoToken.identifier "package".toList) = false := by
    decide
  have hservice : decide (word "service" = ProtoToken.identifier "service".toList) = true := by
    decide
  have hopen : takePunctuation '\x7b' (.punctuation mark :: rest) = none := by
    simp [takePunctuation, hmark]
  by_cases hceiling : protoMaxServices ≤ read.services.length
  · refine ⟨read.state.dropped .serviceCeilingReached, ?_, .inl ?_⟩
    · simp [FileRead.unread, ReaderState.dropped]
    · simp only [declarationTurn, List.isEmpty_cons, Bool.false_eq_true, if_false,
        isIdentifier_cons, hpackage, hservice, if_true, List.tail_cons, readFileService,
        if_pos hceiling, takeIdentifier, skipBlock, hopen]
  · refine ⟨read.state.malformed, ?_, .inr ?_⟩
    · simp [FileRead.unread, ReaderState.malformed]
    · simp only [declarationTurn, List.isEmpty_cons, Bool.false_eq_true, if_false,
        isIdentifier_cons, hpackage, hservice, if_true, List.tail_cons, readFileService,
        if_neg hceiling, readService, readServiceName, takeIdentifier]

theorem length_resynchronizeAt_le (depth : Nat) (cursor : TokenCursor) :
    (resynchronizeAt depth cursor).length ≤ cursor.length := by
  induction cursor generalizing depth with
  | nil => rfl
  | cons token rest ih =>
      rw [resynchronizeAt]
      have hstep : ∀ d, (resynchronizeAt d rest).length ≤ (token :: rest).length := fun d =>
        (ih d).trans (Nat.le_succ _)
      split
      · exact hstep _
      · split
        · split
          · exact le_refl _
          · exact hstep _
        · split
          · exact Nat.le_succ _
          · split
            · exact le_refl _
            · exact hstep _

theorem leads_message {rest : TokenCursor}
    (hkeyword : keyword = "message" ∨ keyword = "enum") (hmark : mark ≠ '\x7b') :
    Leads (read, word keyword :: .punctuation mark :: rest) (read, .punctuation mark :: rest) :=
  Leads.of_turn (declarationTurn_message hkeyword hmark) (by simp [cursorSize])

theorem leads_package_mark {rest : TokenCursor} :
    Leads (read, word "package" :: .punctuation mark :: rest)
      ({ read with packageName := none }, skipPunctuation ';' (.punctuation mark :: rest)) := by
  refine Leads.of_turn declarationTurn_package ?_
  by_cases hsemicolon : mark = ';'
  · subst hsemicolon
    simp [cursorSize]
  · rw [skipPunctuation_of_ne fun heq => hsemicolon (ProtoToken.punctuation.inj heq)]
    simp [cursorSize]

theorem head_leads {endsOpen : Bool} {rest : TokenCursor}
    (hresync : resynchronizeAt 0 tail = rest) (htail : ∀ read, Leads (read, tail) (read, rest))
    (hopen : endsOpen = true → ∃ rest', tail = .punctuation ';' :: rest')
    (hinner : ∀ token ∈ tokens, isInner token = true)
    (hfollowed : isFollowed endsOpen tokens = true) :
    ∃ after, Leads (read, tokens ++ tail) (after, rest) ∧ Effect read tokens after := by
  induction hlength : tokens.length using Nat.strong_induction_on generalizing tokens read with
  | _ length ih =>
      subst hlength
      cases tokens with
      | nil => exact ⟨read, htail read, Effect.nil⟩
      | cons token tokens =>
          have hrest : ∀ other ∈ tokens, isInner other = true := fun other hother =>
            hinner other (by simp [hother])
          have hnext := isFollowed_tail hfollowed
          have hless : tokens.length < (token :: tokens).length := Nat.lt_succ_self _
          by_cases hskipped : isSkipped token = true
          · obtain ⟨after, hleads, heffect⟩ := @ih tokens.length hless read tokens hrest hnext rfl
            have hnone : token ∉ [word "package", word "service", word "message", word "enum",
                .punctuation '\x7b'] := of_decide_eq_true hskipped
            exact ⟨after, (leads_skipped hskipped).trans hleads,
              heffect.skip (fun heq => hnone (by simp [heq])) fun heq => hnone (by simp [heq])⟩
          have hword : token ∈ [word "package", word "service", word "message", word "enum",
              .punctuation '\x7b'] := by
            by_contra hnone
            exact hskipped (decide_eq_true hnone)
          simp only [List.mem_cons, List.not_mem_nil, or_false] at hword
          rw [List.cons_append]
          rcases hword with rfl | rfl | rfl | rfl | rfl
          · obtain ⟨mark, more, hcursor, -, hsemicolon⟩ := exists_mark hrest hfollowed hopen
            rw [hcursor]
            by_cases hmark : mark = ';'
            · obtain rfl := hsemicolon hmark
              subst hmark
              have hmore : rest = more := by
                rw [← hresync, ← List.nil_append tail, hcursor]
                rfl
              have hleads := @leads_package_mark read ';' more
              rw [skipPunctuation_self] at hleads
              subst hmore
              exact ⟨_, hleads, Effect.nil.takePackage⟩
            · have hskip := @skipPunctuation_of_ne ';' (.punctuation mark) more
                fun heq => hmark (ProtoToken.punctuation.inj heq)
              obtain ⟨after, hleads, heffect⟩ :=
                @ih tokens.length hless { read with packageName := none } tokens hrest hnext rfl
              rw [hcursor, ← hskip] at hleads
              exact ⟨after, leads_package_mark.trans hleads, heffect.takePackage⟩
          · obtain ⟨mark, more, hcursor, hmark, -⟩ := exists_mark hrest hfollowed hopen
            rw [hcursor]
            obtain ⟨state, hstate, hturn | hturn⟩ := @declarationTurn_service read mark more hmark
            · obtain ⟨after, hleads, heffect⟩ :=
                @ih tokens.length hless { read with state } tokens hrest hnext rfl
              rw [hcursor] at hleads
              exact ⟨after, (Leads.of_turn hturn (by simp [cursorSize])).trans hleads,
                heffect.takeService hstate⟩
            · have hjump : Leads (read, word "service" :: .punctuation mark :: more)
                  ({ read with state }, resynchronize (.punctuation mark :: more)) := by
                refine Leads.of_turn hturn ?_
                have hle := length_resynchronizeAt_le 0 (.punctuation mark :: more)
                simp only [cursorSize, List.length_cons, resynchronize] at hle ⊢
                omega
              rw [resynchronize, ← hcursor] at hjump
              rw [← hcursor]
              rcases resynchronizeAt_inner hrest hresync with hend | ⟨front, back, hback, hword⟩
              · rw [hend] at hjump
                exact ⟨_, hjump, Effect.takeService hstate Effect.nil⟩
              · have hlength : back.length < (word "service" :: tokens).length := by
                  rw [hback]
                  simp
                have hinnerBack : ∀ other ∈ back, isInner other = true := fun other hother =>
                  hrest other (by simp [hback, hother])
                obtain ⟨after, hleads, heffect⟩ := @ih back.length hlength { read with state } back
                  hinnerBack (isFollowed_back (hback ▸ hnext)) rfl
                rw [hword] at hjump
                exact ⟨after, hjump.trans hleads, heffect.takeService hstate⟩
          · obtain ⟨mark, more, hcursor, hmark, -⟩ := exists_mark hrest hfollowed hopen
            obtain ⟨after, hleads, heffect⟩ := @ih tokens.length hless read tokens hrest hnext rfl
            rw [hcursor] at hleads ⊢
            exact ⟨after, (leads_message (.inl rfl) hmark).trans hleads,
              heffect.skip (by decide) (by decide)⟩
          · obtain ⟨mark, more, hcursor, hmark, -⟩ := exists_mark hrest hfollowed hopen
            obtain ⟨after, hleads, heffect⟩ := @ih tokens.length hless read tokens hrest hnext rfl
            rw [hcursor] at hleads ⊢
            exact ⟨after, (leads_message (.inr rfl) hmark).trans hleads,
              heffect.skip (by decide) (by decide)⟩
          · have hbrace := hinner (.punctuation '\x7b') (by simp)
            exact absurd hbrace (by decide)

def endsOpen (option : ProtoOption) : Bool :=
  match option.value with
  | .block _ => false
  | _ => true

theorem isFollowed_append {last : Bool} (hfront : isFollowed true front = true)
    (hback : isFollowed last (.punctuation mark :: back) = true) :
    isFollowed last (front ++ .punctuation mark :: back) = true := by
  induction front with
  | nil => exact hback
  | cons token front ih =>
      have hih := ih (isFollowed_tail hfront)
      cases front with
      | nil =>
          simp only [List.cons_append, List.nil_append, isFollowed, isMark, Bool.or_true,
            Bool.true_and]
          exact hback
      | cons next front =>
          simp only [isFollowed, Bool.and_eq_true] at hfront
          simp only [List.cons_append, isFollowed, hfront.1, Bool.true_and]
          exact hih

theorem isFollowed_suffixes (suffixes : List JsString) :
    isFollowed true (suffixes.flatMap fun suffix => [.punctuation '.', .identifier suffix]) =
      true := by
  induction suffixes with
  | nil => rfl
  | cons suffix suffixes ih =>
      cases suffixes with
      | nil => rfl
      | cons next suffixes =>
          simpa [isFollowed, isWord, isMark] using ih

theorem isFollowed_name (name : OptionName) : isFollowed true name.tokens = true := by
  cases name with
  | plain name => rfl
  | extension name suffixes =>
      have hsuffixes := isFollowed_suffixes suffixes
      cases suffixes with
      | nil => rfl
      | cons suffix suffixes => simpa [OptionName.tokens, isFollowed, isWord, isMark] using hsuffixes

theorem isFollowed_strings (endsOpen : Bool) (values : List JsString) :
    isFollowed endsOpen (values.map ProtoToken.string) = true := by
  induction values with
  | nil => rfl
  | cons value values ih =>
      cases values with
      | nil => rfl
      | cons next values => simpa [isFollowed, isWord] using ih

theorem isFollowed_head (option : ProtoOption) :
    isFollowed (endsOpen option) (headTokens option) = true := by
  obtain ⟨name, value⟩ := option
  refine isFollowed_append (isFollowed_name name) ?_
  cases value with
  | name value => rfl
  | number value => rfl
  | text value others =>
      have hstrings := isFollowed_strings true (value :: others)
      simpa [OptionValue.tokens, isFollowed, isWord, endsOpen] using hstrings
  | signedNumber sign value => rfl
  | signedWord sign isNan => rfl
  | block body => rfl

theorem mem_nameTokens {name : OptionName} :
    .identifier value ∈ name.tokens ↔ value ∈ name.words := by
  cases name with
  | plain name => simp [OptionName.tokens, OptionName.words]
  | extension name suffixes => simp [OptionName.tokens, OptionName.words]

theorem mem_headTokens
    (hinf : keyword.toList ≠ "inf".toList) (hnan : keyword.toList ≠ "nan".toList) :
    word keyword ∈ headTokens option ↔ keyword.toList ∈ option.words := by
  obtain ⟨name, value⟩ := option
  have hvalue : word keyword ∈ (match value with
      | .block _ => []
      | value => value.tokens) ↔ keyword.toList ∈ value.words := by
    cases value with
    | signedWord sign isNan =>
        have hword : word keyword ≠ word (if isNan then "nan" else "inf") := by
          intro heq
          cases isNan with
          | false => exact hinf (ProtoToken.identifier.inj heq)
          | true => exact hnan (ProtoToken.identifier.inj heq)
        have hsign : word keyword ≠ signToken sign := by simp [word, signToken]
        simp [OptionValue.tokens, OptionValue.words, hword, hsign]
    | signedNumber sign value => simp [OptionValue.tokens, OptionValue.words, word, signToken]
    | name value => simp [OptionValue.tokens, OptionValue.words, word]
    | number value => simp [OptionValue.tokens, OptionValue.words, word]
    | text value others => simp [OptionValue.tokens, OptionValue.words, word]
    | block body => simp [OptionValue.words]
  simp only [headTokens, ProtoOption.words, List.mem_append, List.mem_cons]
  have hmark : word keyword ≠ .punctuation '=' := by simp [word]
  exact or_congr mem_nameTokens ((or_iff_right hmark).trans hvalue)

theorem option_leads {rest : TokenCursor} (h : option.value.isWellFormed = true) :
    ∃ after, Leads (read, option.tokens ++ rest) (after, rest) ∧
      Effect read (headTokens option) after := by
  have hopen : endsOpen option = true →
      ∃ rest', tailTokens option ++ rest = .punctuation ';' :: rest' := by
    intro hends
    cases hvalue : option.value with
    | block body => simp [endsOpen, hvalue] at hends
    | _ => exact ⟨rest, by simp [tailTokens, hvalue]⟩
  have hkeyword : isSkipped (word "option") = true := by decide
  obtain ⟨after, hleads, heffect⟩ := @head_leads read (headTokens option) _ _ rest
    (resynchronizeAt_tail h) (fun read => leads_tail h) hopen (isInner_head option)
    (isFollowed_head option)
  refine ⟨after, ?_, heffect⟩
  rw [tokens_eq, List.cons_append, List.append_assoc]
  exact (leads_skipped hkeyword).trans hleads

end Words

section Items

variable {read : FileRead} {rest : TokenCursor}

def itemAfter (read : FileRead) : FileItem → FileRead
  | .service name members =>
      { read with
        services := read.services ++
          (FileItem.service? read.packageName (.service name members)).toList }
  | .message name _ => { read with messageNames := read.messageNames ++ [name] }
  | _ => read

variable {name : JsString} {body : List ProtoToken} {item : FileItem} {items : List FileItem}
  {r : FileRead}

theorem service_leads {members : List ServiceMember}
    (h : (FileItem.service name members).isWellFormed = true)
    (hceiling : read.services.length < protoMaxServices) :
    Leads (read, (FileItem.service name members).tokens ++ rest)
      (itemAfter read (.service name members), rest) := by
  simp only [FileItem.isWellFormed, Bool.and_eq_true, decide_eq_true_eq] at h
  obtain ⟨⟨hname, hmembers⟩, hrpcs⟩ := h
  have hread := @readService_tokens rest read.packageName name members read.state hname hmembers
    hrpcs
  have hpackage : decide (word "service" = ProtoToken.identifier "package".toList) = false := by
    decide
  have hservice : decide (word "service" = ProtoToken.identifier "service".toList) = true := by
    decide
  refine Leads.of_turn ?_ ?_
  · simp only [FileItem.tokens, List.cons_append, declarationTurn, List.isEmpty_cons,
      Bool.false_eq_true, if_false, isIdentifier_cons, hpackage, hservice, if_true,
      List.tail_cons, readFileService, if_neg (Nat.not_le.mpr hceiling), hread, itemAfter,
      FileItem.service?, Option.toList_some]
  · simp [FileItem.tokens, cursorSize]
    omega

theorem message_leads {isMessage : Bool} {after : FileRead}
    (hafter : readMessage isMessage read (.identifier name :: (blockTokens body ++ rest)) =
      (after, rest)) :
    Leads (read, word (if isMessage then "message" else "enum") :: .identifier name ::
      (blockTokens body ++ rest)) (after, rest) := by
  refine Leads.of_turn ?_ (by simp [cursorSize]; omega)
  cases isMessage with
  | true =>
      have hpackage : decide (word "message" = ProtoToken.identifier "package".toList) = false := by
        decide
      have hservice : decide (word "message" = ProtoToken.identifier "service".toList) = false := by
        decide
      have hmessage : decide (word "message" = ProtoToken.identifier "message".toList) = true := by
        decide
      simp only [declarationTurn, if_true, List.isEmpty_cons, Bool.false_eq_true, if_false,
        isIdentifier_cons, hpackage, hservice, hmessage, Bool.true_or, List.tail_cons, hafter]
  | false =>
      have hpackage : decide (word "enum" = ProtoToken.identifier "package".toList) = false := by
        decide
      have hservice : decide (word "enum" = ProtoToken.identifier "service".toList) = false := by
        decide
      have hmessage : decide (word "enum" = ProtoToken.identifier "message".toList) = false := by
        decide
      have henum : decide (word "enum" = ProtoToken.identifier "enum".toList) = true := by
        decide
      simp only [declarationTurn, List.isEmpty_cons, Bool.false_eq_true, if_false,
        isIdentifier_cons, hpackage, hservice, hmessage, henum, Bool.false_or, if_true,
        List.tail_cons, hafter]

theorem skipFileBlock_tokens (h : isBalanced body = true) :
    skipFileBlock read (blockTokens body ++ rest) = (read, rest) := by
  rw [skipFileBlock, skipBlock_blockTokens h]

theorem readMessage_tokens
    (hname : isSafeIdentifier name = true) (hbody : isBalanced body = true)
    (hceiling : read.messageNames.length < protoMaxMessages) :
    readMessage true read (.identifier name :: (blockTokens body ++ rest)) =
      ({ read with messageNames := read.messageNames ++ [name] }, rest) := by
  have hopen : isPunctuation '\x7b' (blockTokens body ++ rest) = true := by simp [blockTokens]
  have hfilter : (some name).filter isSafeIdentifier = some name := by simp [hname]
  simp only [readMessage, takeIdentifier_self, hfilter, if_true, hopen, FileRead.addMessage,
    if_neg (Nat.not_le.mpr hceiling), skipFileBlock_tokens hbody]

theorem readMessage_enum (hbody : isBalanced body = true) :
    readMessage false read (.identifier name :: (blockTokens body ++ rest)) = (read, rest) := by
  have hopen : isPunctuation '\x7b' (blockTokens body ++ rest) = true := by simp [blockTokens]
  simp only [readMessage, takeIdentifier_self, Bool.false_eq_true, if_false, hopen, if_true]
  cases (some name).filter isSafeIdentifier <;> exact skipFileBlock_tokens hbody

theorem import_leads {kind : ImportKind} {path : JsString} :
    Leads (read, (FileItem.importFile kind path).tokens ++ rest) (read, rest) := by
  have hpath : Leads (read, .string path :: .punctuation ';' :: rest) (read, rest) :=
    (leads_skipped (by simp [isSkipped, word])).trans (leads_skipped (by decide))
  have hkeyword : isSkipped (word "import") = true := by decide
  cases kind with
  | plain => exact (leads_skipped hkeyword).trans hpath
  | publicImport =>
      exact (leads_skipped hkeyword).trans ((leads_skipped (by decide)).trans hpath)
  | weak => exact (leads_skipped hkeyword).trans ((leads_skipped (by decide)).trans hpath)

/-- The words of the options among some items, against what is read so far. -/
def ReadOver (package : Option JsString) (items : List FileItem) : Prop :=
  ∀ option, FileItem.option option ∈ items →
    "service".toList ∉ option.words ∧ (package ≠ none → "package".toList ∉ option.words)

/-- What reading some items comes to. -/
structure Outcome (read : FileRead) (items : List FileItem) (r : FileRead) : Prop where
  unread : FileRead.unread read ≤ FileRead.unread r
  package : r.packageName = read.packageName ∨ r.packageName = none
  same : ReadOver read.packageName items → r = items.foldl itemAfter read
  differs : ¬ ReadOver read.packageName items →
    FileRead.unread read < FileRead.unread r ∨ r.packageName ≠ read.packageName

theorem readOver_cons_of_not_option {package : Option JsString}
    (h : ∀ option, item ≠ .option option) :
    ReadOver package (item :: items) ↔ ReadOver package items := by
  constructor
  · intro hall option hmem
    exact hall option (List.mem_cons_of_mem _ hmem)
  · intro hall option hmem
    rcases List.mem_cons.mp hmem with heq | hmem
    · exact absurd heq.symm (h option)
    · exact hall option hmem

theorem Outcome.cons {read : FileRead}
    (hoption : ∀ option, item ≠ .option option) (hpackage : (itemAfter read item).packageName =
      read.packageName) (hunread : FileRead.unread (itemAfter read item) = FileRead.unread read)
    (h : Outcome (itemAfter read item) items r) : Outcome read (item :: items) r where
  unread := hunread ▸ h.unread
  package := hpackage ▸ h.package
  same hall := by
    rw [readOver_cons_of_not_option hoption] at hall
    exact h.same (hpackage.symm ▸ hall)
  differs hall := by
    rw [readOver_cons_of_not_option hoption] at hall
    have hdiffers := h.differs (by rwa [hpackage])
    rwa [hunread, hpackage] at hdiffers

theorem Outcome.cons_option {read after : FileRead} {option : ProtoOption}
    (heffect : Effect read (headTokens option) after)
    (h : Outcome after items r) : Outcome read (.option option :: items) r := by
  have hservice : word "service" ∈ headTokens option ↔ "service".toList ∈ option.words :=
    mem_headTokens (by decide) (by decide)
  have hpackage : word "package" ∈ headTokens option ↔ "package".toList ∈ option.words :=
    mem_headTokens (by decide) (by decide)
  have hkeeps : r.packageName = read.packageName ∨ r.packageName = none := by
    rcases h.package with hsame | hnone
    · exact hsame ▸ heffect.package
    · exact .inr hnone
  by_cases hclear : "service".toList ∉ option.words ∧
      (read.packageName ≠ none → "package".toList ∉ option.words)
  · obtain rfl := heffect.same (fun hmem => hclear.1 (hservice.mp hmem))
      fun hsome hmem => hclear.2 hsome (hpackage.mp hmem)
    have hcons : ReadOver after.packageName (.option option :: items) ↔
        ReadOver after.packageName items := by
      constructor
      · intro hall other hmem
        exact hall other (List.mem_cons_of_mem _ hmem)
      · intro hall other hmem
        rcases List.mem_cons.mp hmem with heq | hmem
        · rwa [FileItem.option.inj heq]
        · exact hall other hmem
    exact ⟨h.unread, hkeeps, fun hall => h.same (hcons.mp hall),
      fun hall => h.differs fun hrest => hall (hcons.mpr hrest)⟩
  · refine ⟨heffect.unread.trans h.unread, hkeeps, ?_, ?_⟩
    · intro hall
      exact absurd (hall option (List.mem_cons_self)) hclear
    · intro _
      by_cases hword : "service".toList ∈ option.words
      · exact .inl (lt_of_lt_of_le (heffect.service (hservice.mpr hword)) h.unread)
      · have hlost : read.packageName ≠ none ∧ "package".toList ∈ option.words := by
          by_contra hnone
          exact hclear ⟨hword, fun hsome hmem => hnone ⟨hsome, hmem⟩⟩
        have hafter : after.packageName = none :=
          heffect.lost (hpackage.mpr hlost.2) fun hmem => hword (hservice.mp hmem)
        have hr : r.packageName = none := by
          rcases h.package with hsame | hnone
          · exact hsame.trans hafter
          · exact hnone
        exact .inr fun heq => hlost.1 (heq.symm.trans hr)

def serviceCount (items : List FileItem) : Nat := (items.filterMap (FileItem.service? none)).length

def messageCount (items : List FileItem) : Nat := (items.filterMap FileItem.messageName?).length

theorem items_settle (h : items.all FileItem.isWellFormed = true)
    (hservices : read.services.length + serviceCount items ≤ protoMaxServices)
    (hmessages : read.messageNames.length + messageCount items ≤ protoMaxMessages) :
    ∃ r, Settles declarationTurn cursorSize (read, items.flatMap FileItem.tokens) r ∧
      Outcome read items r := by
  induction items generalizing read with
  | nil =>
      refine ⟨read, Settles.of_done rfl, le_refl _, .inl rfl, fun _ => rfl, ?_⟩
      intro hall
      exact absurd (fun option hmem => by simp at hmem) hall
  | cons item items ih =>
      simp only [List.all_cons, Bool.and_eq_true] at h
      rw [List.flatMap_cons]
      cases item with
      | service name members =>
          have hcount : serviceCount (.service name members :: items) = serviceCount items + 1 := rfl
          rw [hcount] at hservices
          obtain ⟨r, hr, houtcome⟩ := @ih (itemAfter read (.service name members)) h.2
            (by simp [itemAfter, FileItem.service?]; omega) hmessages
          exact ⟨r, service_leads h.1 (by omega) r hr, houtcome.cons (by simp) rfl rfl⟩
      | message name body =>
          have hwell := h.1
          simp only [FileItem.isWellFormed, Bool.and_eq_true] at hwell
          have hcount : messageCount (.message name body :: items) = messageCount items + 1 := rfl
          rw [hcount] at hmessages
          obtain ⟨r, hr, houtcome⟩ := @ih (itemAfter read (.message name body)) h.2 hservices
            (by simp [itemAfter]; omega)
          have hleads : Leads (read, (FileItem.message name body).tokens ++
              items.flatMap FileItem.tokens) (itemAfter read (.message name body), _) :=
            message_leads (readMessage_tokens hwell.1 hwell.2 (by omega))
          exact ⟨r, hleads r hr, houtcome.cons (by simp) rfl rfl⟩
      | enumeration name body =>
          obtain ⟨r, hr, houtcome⟩ := @ih (itemAfter read (.enumeration name body)) h.2 hservices
            hmessages
          have hleads : Leads (read, (FileItem.enumeration name body).tokens ++
              items.flatMap FileItem.tokens) (read, _) :=
            message_leads (readMessage_enum h.1)
          exact ⟨r, hleads r hr, houtcome.cons (by simp) rfl rfl⟩
      | importFile kind path =>
          obtain ⟨r, hr, houtcome⟩ := @ih (itemAfter read (.importFile kind path)) h.2 hservices
            hmessages
          exact ⟨r, import_leads r hr, houtcome.cons (by simp) rfl rfl⟩
      | option opt =>
          obtain ⟨after, hleads, heffect⟩ := @option_leads read opt
            (items.flatMap FileItem.tokens) h.1
          obtain ⟨r, hr, houtcome⟩ := @ih after h.2 (by rw [heffect.services]; exact hservices)
            (by rw [heffect.messageNames]; exact hmessages)
          exact ⟨r, hleads r hr, houtcome.cons_option heffect⟩

end Items

section Files

variable {file : ProtoFile}

theorem foldl_itemAfter (items : List FileItem) (read : FileRead) : items.foldl itemAfter read =
      { read with
        services := read.services ++ items.filterMap (FileItem.service? read.packageName)
        messageNames := read.messageNames ++ items.filterMap FileItem.messageName? } := by
  induction items generalizing read with
  | nil => simp
  | cons item items ih =>
      rw [List.foldl_cons, ih]
      cases item <;>
        simp [itemAfter, FileItem.service?, FileItem.messageName?, List.filterMap_cons]

theorem serviceCount_eq (package : Option JsString) (items : List FileItem) :
    serviceCount items = (items.filterMap (FileItem.service? package)).length := by
  induction items with
  | nil => rfl
  | cons item items ih =>
      cases item <;> simpa [serviceCount, FileItem.service?, List.filterMap_cons] using ih

def startWith (package : Option JsString) : FileRead :=
  { FileRead.start with packageName := package }

theorem file_settles (hpackage : file.package.all isSafeQualified = true)
    (hitems : file.items.all FileItem.isWellFormed = true)
    (hservices : file.services.length ≤ protoMaxServices)
    (hmessages : file.messageNames.length ≤ protoMaxMessages) :
    ∃ r, readFile file.tokens = r ∧ Outcome (startWith file.package) file.items r := by
  have hcount : (startWith file.package).services.length + serviceCount file.items ≤
      protoMaxServices := by
    rw [serviceCount_eq file.package]
    simpa [startWith, FileRead.start, ProtoFile.services] using hservices
  have hnames : (startWith file.package).messageNames.length + messageCount file.items ≤
      protoMaxMessages := by
    simpa [startWith, FileRead.start, messageCount, ProtoFile.messageNames] using hmessages
  obtain ⟨r, hr, houtcome⟩ := items_settle hitems hcount hnames
  have hstart : Leads (FileRead.start, file.tokens)
      (startWith file.package, file.items.flatMap FileItem.tokens) := by
    cases hfile : file.package with
    | none =>
        simp only [ProtoFile.tokens, hfile, List.nil_append]
        exact Leads.refl _
    | some package =>
        rw [hfile] at hpackage
        simp only [ProtoFile.tokens, hfile, List.cons_append, List.nil_append]
        exact leads_package (by simpa using hpackage)
  have hloop := (hstart r hr).loop_eq
  simp only [cursorSize] at hloop
  exact ⟨r, by rw [readFile, hloop, Option.getD_some], houtcome⟩

theorem map_rpcs {β : Type} {f : ProtoRpcFact → β} {g : Rpc → β}
    (h : ∀ package name rpc, f (Rpc.declared package name rpc) = g rpc) (file : ProtoFile) :
    (file.services.flatMap ProtoServiceFact.rpcs).map f = file.rpcs.map g := by
  simp only [ProtoFile.services, ProtoFile.rpcs]
  induction file.items with
  | nil => rfl
  | cons item items ih =>
      cases item with
      | service name members =>
          simp [FileItem.service?, ih, h]
      | _ => simpa [FileItem.service?, List.filterMap_cons] using ih

theorem countClass_declared {streaming : ProtoStreamingClass} {client server : Bool}
    (h : ∀ rpc : Rpc, rpc.streamingClass = streaming ↔
      (rpc.request.streaming == client && rpc.response.streaming == server) = true) :
    countClass (file.services.flatMap ProtoServiceFact.rpcs) streaming =
      countStreaming client server file.rpcs := by
  have hclasses := map_rpcs (f := ProtoRpcFact.streamingClass) (g := Rpc.streamingClass)
    (fun _ _ _ => rfl) file
  have hcount : ∀ facts : List ProtoRpcFact, countClass facts streaming =
      (facts.map ProtoRpcFact.streamingClass).countP fun c => c = streaming := by
    intro facts
    rw [countClass, ← List.countP_eq_length_filter, List.countP_map]
    rfl
  rw [hcount, hclasses, List.countP_map, countStreaming, ← List.countP_eq_length_filter]
  refine List.countP_congr fun rpc _ => ?_
  simpa using h rpc

theorem facts_declared {lexed : ProtoLexResult} {comments depth : Nat}
    (hlexed : lexed = ⟨.complete, file.tokens, comments, depth⟩) :
    (file.items.foldl itemAfter (startWith file.package)).facts lexed = file.declared comments := by
  subst hlexed
  have hlengths := map_rpcs (f := fun rpc => rpc.bindings.length)
    (g := fun rpc => rpc.bindings.length) (fun _ _ _ => rfl) file
  have hcount := congrArg List.length hlengths
  simp only [List.length_map] at hcount
  have hunary := @countClass_declared file .unary false false fun rpc => by
    cases hc : rpc.request.streaming <;> cases hs : rpc.response.streaming <;>
      simp [Rpc.streamingClass, hc, hs]
  have hclient := @countClass_declared file .clientStreaming true false fun rpc => by
    cases hc : rpc.request.streaming <;> cases hs : rpc.response.streaming <;>
      simp [Rpc.streamingClass, hc, hs]
  have hserver := @countClass_declared file .serverStreaming false true fun rpc => by
    cases hc : rpc.request.streaming <;> cases hs : rpc.response.streaming <;>
      simp [Rpc.streamingClass, hc, hs]
  have hboth := @countClass_declared file .bidirectional true true fun rpc => by
    cases hc : rpc.request.streaming <;> cases hs : rpc.response.streaming <;>
      simp [Rpc.streamingClass, hc, hs]
  have hread : file.items.foldl itemAfter (startWith file.package) =
      ⟨file.package, file.services, file.messageNames, ⟨0, 0, none⟩⟩ := by
    rw [foldl_itemAfter]
    rfl
  rw [hread]
  simp only [FileRead.facts, hlengths, hcount, hunary, hclient, hserver, hboth]
  rfl

theorem readProtoDeclarations_eq_declared_iff {options : ProtoLexOptions} {text : List Char}
    {comments : Nat} (hprinted : Printed file.tokens text comments)
    (hceilings : file.WithinCeilings options text) :
    readProtoDeclarations text options = file.declared comments ↔ file.OptionsReadOver := by
  obtain ⟨depth, hlexed⟩ :=
    lexProto_printed hprinted hceilings.bytes hceilings.tokens hceilings.depth
  obtain ⟨r, hread, houtcome⟩ := file_settles hceilings.package hceilings.items
    hceilings.services hceilings.messages
  have hfacts : readProtoDeclarations text options =
      r.facts ⟨.complete, file.tokens, comments, depth⟩ := by
    rw [readProtoDeclarations, hlexed]
    simp only [hread]
  rw [hfacts]
  constructor
  · intro heq
    by_contra hwords
    rcases houtcome.differs hwords with hunread | hpackage
    · have hmalformed := congrArg (fun facts => facts.completeness.malformedDeclarations) heq
      have hdropped := congrArg (fun facts => facts.completeness.droppedByCeiling) heq
      simp only [FileRead.facts, ProtoFile.declared] at hmalformed hdropped
      simp only [FileRead.unread] at hunread
      omega
    · exact hpackage (congrArg ProtoFileFacts.package heq)
  · intro hwords
    rw [houtcome.same hwords]
    exact facts_declared rfl

private def taggedFile : ProtoFile where
  package := some "acme".toList
  items := [.message "Invoice".toList [],
    .option ⟨.extension "acme.meta".toList ["service".toList],
      .text "billing".toList []⟩]

private def plainFile : ProtoFile where
  package := some "acme".toList
  items := [.message "Invoice".toList [],
    .option ⟨.extension "acme.meta".toList ["owner".toList], .text "billing".toList []⟩]

private def defaults : ProtoLexOptions := ⟨none, none, none⟩

private theorem within_plainFile : plainFile.WithinCeilings defaults (spaced plainFile.tokens) :=
  ⟨by decide, by decide, by decide, by decide, by decide, by decide, by decide⟩

theorem eq_declared_plainFile :
    readProtoDeclarations (spaced plainFile.tokens) defaults = plainFile.declared 0 ↔
      plainFile.OptionsReadOver :=
  readProtoDeclarations_eq_declared_iff (printed_spaced (by decide)) within_plainFile

/-- The word is read as a service that cannot be read. -/
theorem ne_declared_taggedFile : Printed taggedFile.tokens (spaced taggedFile.tokens) 0 ∧
      taggedFile.WithinCeilings defaults (spaced taggedFile.tokens) ∧
      readProtoDeclarations (spaced taggedFile.tokens) defaults ≠ taggedFile.declared 0 := by
  refine ⟨printed_spaced (by decide), ?_, by decide +kernel⟩
  exact ⟨by decide, by decide, by decide, by decide, by decide, by decide, by decide⟩

end Files

end NightWatch.Source.ProtoExactness
