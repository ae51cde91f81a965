import NightWatch.Lib.JsText
import NightWatch.Lib.Loop

namespace NightWatch.Source.ProtoLexer

open Lib.JsText Lib.Loop

def protoMaxTokens : Nat := 200000

def protoMaxDepth : Nat := 64

def protoMaxSourceBytes : Nat := 8000000

inductive ProtoToken where
  | identifier (value : JsString)
  | string (value : JsString)
  | number (value : JsString)
  | punctuation (value : Char)
  deriving DecidableEq

inductive ProtoLexState where
  | complete
  | tokenBudgetExhausted
  | depthExceeded
  | unterminatedComment
  | unterminatedString
  | byteBudgetExhausted
  deriving DecidableEq

structure ProtoLexResult where
  state : ProtoLexState
  tokens : List ProtoToken
  commentsDiscarded : Nat
  maxDepthObserved : Nat

def ProtoLexResult.tokenCount (lexed : ProtoLexResult) : Nat := lexed.tokens.length

structure ProtoLexOptions where
  maxTokens : Option Nat
  maxDepth : Option Nat
  maxSourceBytes : Option Nat

/-- `/[A-Za-z_]/`. -/
def isIdentifierStart (c : Char) : Bool := c.isAlpha || c == '_'

/-- `/[A-Za-z0-9_.]/`. -/
def isIdentifierPart (c : Char) : Bool := c.isAlphanum || c == '_' || c == '.'

/-- `/[0-9.eExXa-fA-F+-]/`. -/
def isNumberPart (c : Char) : Bool :=
  c.isDigit || ('a' ≤ c && c ≤ 'f') || ('A' ≤ c && c ≤ 'F') || c ∈ ['.', 'x', 'X', '+', '-']

def isBlank (c : Char) : Bool := c ∈ ['\n', ' ', '\t', '\r', '\x0c', '\x0b']

def isQuote (c : Char) : Bool := c == '"' || c == '\''

def decodeEscape (character : Char) : Char :=
  if character = 'n' then '\n'
  else if character = 'r' then '\r'
  else if character = 't' then '\t'
  else if character = '0' then '\x00'
  else character

structure Scan where
  tokens : List ProtoToken
  commentsDiscarded : Nat
  depth : Nat
  maxDepthObserved : Nat

def Scan.start : Scan := ⟨[], 0, 0, 0⟩

def Scan.result (scan : Scan) (state : ProtoLexState) : ProtoLexResult :=
  ⟨state, scan.tokens, scan.commentsDiscarded, scan.maxDepthObserved⟩

def Scan.comment (scan : Scan) : Scan :=
  { scan with commentsDiscarded := scan.commentsDiscarded + 1 }

def Scan.append (scan : Scan) (token : ProtoToken) : Scan :=
  { scan with tokens := scan.tokens ++ [token] }

/-- The braces are counted; `none` where they nest too deep. -/
def Scan.punctuation (maxDepth : Nat) (scan : Scan) (character : Char) : Option Scan :=
  if character = '\x7b' then
    if maxDepth < scan.depth + 1 then none
    else
      some ({ scan with
        depth := scan.depth + 1
        maxDepthObserved := max scan.maxDepthObserved (scan.depth + 1) }.append
          (.punctuation character))
  else if character = '\x7d' then
    some ({ scan with depth := scan.depth - 1 }.append (.punctuation character))
  else some (scan.append (.punctuation character))

def afterClose : List Char → Option (List Char)
  | [] => none
  | [_] => none
  | c :: d :: rest => if c = '*' ∧ d = '/' then some rest else afterClose (d :: rest)

def readString (quote : Char) : List Char → Option (JsString × List Char)
  | [] => none
  | [c] => if c = quote then some ([], []) else none
  | c :: d :: rest =>
      if c = '\\' then
        (readString quote rest).map fun tail => (decodeEscape d :: tail.1, tail.2)
      else if c = quote then some ([], d :: rest)
      else (readString quote (d :: rest)).map fun tail => (c :: tail.1, tail.2)

def lexTurn (maxTokens maxDepth : Nat) : Scan × List Char → Turn (Scan × List Char) ProtoLexResult
  | (scan, []) => .done (scan.result .complete)
  | (scan, character :: rest) =>
      if isBlank character then .again (scan, rest)
      else if character = '/' ∧ rest.head? = some '/' then
        .again (scan.comment, rest.tail.dropWhile (· != '\n'))
      else if character = '/' ∧ rest.head? = some '*' then
        match afterClose rest.tail with
        | none => .done (scan.result .unterminatedComment)
        | some rest => .again (scan.comment, rest)
      else if maxTokens ≤ scan.tokens.length then .done (scan.result .tokenBudgetExhausted)
      else if isQuote character then
        match readString character rest with
        | none => .done (scan.result .unterminatedString)
        | some (value, rest) => .again (scan.append (.string value), rest)
      else if isIdentifierStart character then
        .again (scan.append (.identifier (character :: rest.takeWhile isIdentifierPart)),
          rest.dropWhile isIdentifierPart)
      else if character.isDigit ∨ character = '-' ∧ rest.head?.any Char.isDigit = true then
        .again (scan.append (.number (character :: rest.takeWhile isNumberPart)),
          rest.dropWhile isNumberPart)
      else
        match scan.punctuation maxDepth character with
        | none => .done (scan.result .depthExceeded)
        | some scan => .again (scan, rest)

def size (state : Scan × List Char) : Nat := state.2.length

/-- The text is the list of its UTF-16 units, a half of a character outside the basic plane written
as that character. Every turn takes a unit, so fuel never runs out. -/
def lexProto (sourceText : List Char) (options : ProtoLexOptions) : ProtoLexResult :=
  let maxTokens := options.maxTokens.getD protoMaxTokens
  let maxDepth := options.maxDepth.getD protoMaxDepth
  let maxSourceBytes := options.maxSourceBytes.getD protoMaxSourceBytes
  if maxSourceBytes < sourceText.length then ⟨.byteBudgetExhausted, [], 0, 0⟩
  else
    (loop (lexTurn maxTokens maxDepth) (sourceText.length + 1) (Scan.start, sourceText)).getD
      (Scan.start.result .complete)

/-- The spelling of a literal up to its closing quote, with the value. -/
inductive Literal (quote : Char) : List Char → JsString → Prop
  | close : Literal quote [quote] []
  | raw {c : Char} {text : List Char} {value : JsString} (hquote : c ≠ quote) (hslash : c ≠ '\\')
      (rest : Literal quote text value) : Literal quote (c :: text) (c :: value)
  | escape {c : Char} {text : List Char} {value : JsString} (rest : Literal quote text value) :
      Literal quote ('\\' :: c :: text) (decodeEscape c :: value)

def isPlain (c : Char) : Bool :=
  !isBlank c && !isQuote c && !isIdentifierStart c && !c.isDigit

/-- The spellings of a token. -/
inductive Spells : ProtoToken → List Char → Prop
  | identifier {c : Char} {text : List Char} (hstart : isIdentifierStart c = true)
      (hpart : ∀ d ∈ text, isIdentifierPart d = true) : Spells (.identifier (c :: text)) (c :: text)
  | string {quote : Char} {text : List Char} {value : JsString} (hquote : isQuote quote = true)
      (hliteral : Literal quote text value) : Spells (.string value) (quote :: text)
  | digits {c : Char} {text : List Char} (hdigit : c.isDigit = true)
      (hpart : ∀ d ∈ text, isNumberPart d = true) : Spells (.number (c :: text)) (c :: text)
  | negative {c : Char} {text : List Char} (hdigit : c.isDigit = true)
      (hpart : ∀ d ∈ text, isNumberPart d = true) :
      Spells (.number ('-' :: c :: text)) ('-' :: c :: text)
  | punctuation {c : Char} (hplain : isPlain c = true) : Spells (.punctuation c) [c]

def endsBefore : ProtoToken → Option Char → Bool
  | .identifier _, next => !next.any isIdentifierPart
  | .string _, _ => true
  | .number _, next => !next.any isNumberPart
  | .punctuation '/', next => !next.any fun c => c == '/' || c == '*'
  | .punctuation '-', next => !next.any Char.isDigit
  | .punctuation _, _ => true

/-- Whitespace and comments, with the number of comments. -/
inductive Trivia : List Char → Nat → Prop
  | nil : Trivia [] 0
  | blank {c : Char} {text : List Char} {comments : Nat} (hblank : isBlank c = true)
      (rest : Trivia text comments) : Trivia (c :: text) comments
  | line {body text : List Char} {comments : Nat} (hbody : '\n' ∉ body)
      (rest : Trivia text comments) :
      Trivia ('/' :: '/' :: (body ++ '\n' :: text)) (comments + 1)
  | block {body text : List Char} {comments : Nat} (hbody : ¬ ['*', '/'] <:+: body)
      (rest : Trivia text comments) :
      Trivia ('/' :: '*' :: (body ++ '*' :: '/' :: text)) (comments + 1)

/-- The texts that a sequence of tokens is printed as, with the number of their comments. -/
inductive Printed : List ProtoToken → List Char → Nat → Prop
  | done {gap : List Char} {comments : Nat} (hgap : Trivia gap comments) : Printed [] gap comments
  | lastLine {gap body : List Char} {comments : Nat} (hgap : Trivia gap comments)
      (hbody : '\n' ∉ body) : Printed [] (gap ++ '/' :: '/' :: body) (comments + 1)
  | token {token : ProtoToken} {tokens : List ProtoToken} {gap text rest : List Char}
      {before after : Nat} (hgap : Trivia gap before) (hspells : Spells token text)
      (hends : endsBefore token rest.head? = true) (hrest : Printed tokens rest after) :
      Printed (token :: tokens) (gap ++ (text ++ rest)) (before + after)

def spelling : ProtoToken → List Char
  | .identifier value => value
  | .string value => '"' :: (value ++ ['"'])
  | .number value => value
  | .punctuation c => [c]

def isSpelled : ProtoToken → Bool
  | .identifier [] => false
  | .identifier (c :: value) => isIdentifierStart c && value.all isIdentifierPart
  | .string value => value.all fun c => c != '"' && c != '\\'
  | .number [] => false
  | .number (c :: value) => c.isDigit && value.all isNumberPart
  | .punctuation c => isPlain c

def spaced : List ProtoToken → List Char
  | [] => []
  | token :: tokens => ' ' :: (spelling token ++ spaced tokens)

theorem literal_of_plain {value : JsString} (h : ∀ c ∈ value, c ≠ '"' ∧ c ≠ '\\') :
    Literal '"' (value ++ ['"']) value := by
  induction value with
  | nil => exact .close
  | cons c value ih =>
      obtain ⟨hquote, hslash⟩ := h c (by simp)
      exact .raw hquote hslash (ih fun d hd => h d (by simp [hd]))

theorem spells_spelling {token : ProtoToken} (h : isSpelled token = true) :
    Spells token (spelling token) := by
  cases token with
  | identifier value =>
      cases value with
      | nil => simp [isSpelled] at h
      | cons c value =>
          simp only [isSpelled, Bool.and_eq_true, List.all_eq_true] at h
          exact .identifier h.1 h.2
  | string value =>
      simp only [isSpelled, List.all_eq_true, Bool.and_eq_true, bne_iff_ne] at h
      exact .string (by decide) (literal_of_plain h)
  | number value =>
      cases value with
      | nil => simp [isSpelled] at h
      | cons c value =>
          simp only [isSpelled, Bool.and_eq_true, List.all_eq_true] at h
          exact .digits h.1 h.2
  | punctuation c => exact .punctuation h

theorem endsBefore_spaced (token : ProtoToken) (tokens : List ProtoToken) :
    endsBefore token (spaced tokens).head? = true := by
  have hblank : endsBefore token (some ' ') = true := by
    cases token with
    | punctuation c => unfold endsBefore; split <;> rfl
    | identifier value => rfl
    | string value => rfl
    | number value => rfl
  have hend : endsBefore token none = true := by
    cases token with
    | punctuation c => unfold endsBefore; split <;> rfl
    | identifier value => rfl
    | string value => rfl
    | number value => rfl
  cases tokens with
  | nil => exact hend
  | cons next tokens => exact hblank

theorem printed_spaced {tokens : List ProtoToken} (h : tokens.all isSpelled = true) :
    Printed tokens (spaced tokens) 0 := by
  induction tokens with
  | nil => exact .done .nil
  | cons token tokens ih =>
      simp only [List.all_cons, Bool.and_eq_true] at h
      exact .token (.blank (by decide) .nil) (spells_spelling h.1)
        (endsBefore_spaced token tokens) (ih h.2)

def nestsWithin (maxDepth : Nat) : Nat → List ProtoToken → Bool
  | _, [] => true
  | depth, token :: rest =>
      if token = .punctuation '\x7b' then
        decide (depth + 1 ≤ maxDepth) && nestsWithin maxDepth (depth + 1) rest
      else if token = .punctuation '\x7d' then nestsWithin maxDepth (depth - 1) rest
      else nestsWithin maxDepth depth rest

section Correctness

variable {maxTokens maxDepth : Nat} {scan : Scan} {out : ProtoLexResult} {rest : List Char}

abbrev Lexes (maxTokens maxDepth : Nat) (scan : Scan) (text : List Char) (out : ProtoLexResult) :
    Prop :=
  Settles (lexTurn maxTokens maxDepth) size (scan, text) out

variable {c : Char} {body text : List Char} {token : ProtoToken}
  {tokens : List ProtoToken}

theorem lexes_blank (hblank : isBlank c = true)
    (h : Lexes maxTokens maxDepth scan rest out) : Lexes maxTokens maxDepth scan (c :: rest) out :=
  Settles.of_again (by simp [lexTurn, hblank]) (by simp [size]) h

theorem dropWhile_line (hbody : '\n' ∉ body) :
    (body ++ '\n' :: rest).dropWhile (· != '\n') = '\n' :: rest := by
  have hnot : ∀ c ∈ body, (c != '\n') = true :=
    fun c hc => bne_iff_ne.mpr fun heq => hbody (heq ▸ hc)
  rw [List.dropWhile_append_of_pos hnot]
  rfl

theorem afterClose_block (hbody : ¬ ['*', '/'] <:+: body) :
    afterClose (body ++ '*' :: '/' :: rest) = some rest := by
  induction body with
  | nil => simp [afterClose]
  | cons c body ih =>
      have hrest : ¬ ['*', '/'] <:+: body := fun h => hbody (h.trans (List.suffix_cons c body).isInfix)
      have hclose := ih hrest
      cases body with
      | nil =>
          by_cases hc : c = '*'
          · simp [afterClose, hc]
          · simp [afterClose, hc]
      | cons d body =>
          have hpair : ¬ (c = '*' ∧ d = '/') := by
            rintro ⟨rfl, rfl⟩
            exact hbody (List.IsPrefix.isInfix ⟨body, rfl⟩)
          rw [List.cons_append, List.cons_append, afterClose, if_neg hpair]
          exact hclose

theorem lexes_line (hbody : '\n' ∉ body) (h : Lexes maxTokens maxDepth scan.comment rest out) :
    Lexes maxTokens maxDepth scan ('/' :: '/' :: (body ++ '\n' :: rest)) out := by
  have hnext : Lexes maxTokens maxDepth scan.comment ('\n' :: rest) out := lexes_blank (by decide) h
  refine Settles.of_again ?_ ?_ hnext
  · simp [lexTurn, isBlank, dropWhile_line hbody]
  · simp [size]
    omega

theorem lexes_block (hbody : ¬ ['*', '/'] <:+: body)
    (h : Lexes maxTokens maxDepth scan.comment rest out) :
    Lexes maxTokens maxDepth scan ('/' :: '*' :: (body ++ '*' :: '/' :: rest)) out := by
  refine Settles.of_again ?_ ?_ h
  · simp [lexTurn, isBlank, afterClose_block hbody]
  · simp [size]
    omega

def Scan.comments (scan : Scan) (count : Nat) : Scan :=
  { scan with commentsDiscarded := scan.commentsDiscarded + count }

theorem Scan.comment_comments {count : Nat} :
    scan.comment.comments count = scan.comments (count + 1) := by
  simp only [Scan.comment, Scan.comments]
  congr 1
  omega

variable {comments : Nat}

theorem lexes_trivia {gap : List Char} (hgap : Trivia gap comments)
    (h : Lexes maxTokens maxDepth (scan.comments comments) rest out) :
    Lexes maxTokens maxDepth scan (gap ++ rest) out := by
  induction hgap generalizing scan with
  | nil => exact h
  | blank hblank _ ih => exact lexes_blank hblank (ih h)
  | line hbody _ ih =>
      rw [List.cons_append, List.cons_append, List.append_assoc, List.cons_append]
      exact lexes_line hbody (ih (by rwa [Scan.comment_comments]))
  | block hbody _ ih =>
      rw [List.cons_append, List.cons_append, List.append_assoc, List.cons_append, List.cons_append]
      exact lexes_block hbody (ih (by rwa [Scan.comment_comments]))

theorem readString_literal {quote : Char} (hquote : isQuote quote = true) {text : List Char}
    {value : JsString} (h : Literal quote text value) :
    readString quote (text ++ rest) = some (value, rest) := by
  have hslash : quote ≠ '\\' := by
    rintro rfl
    revert hquote
    decide
  induction h with
  | close =>
      cases rest with
      | nil => simp [readString]
      | cons d rest => simp [readString, hslash]
  | @raw c text value hne hslash hliteral ih =>
      cases text with
      | nil => cases hliteral
      | cons d text =>
          rw [List.cons_append, List.cons_append, readString, if_neg hslash, if_neg hne]
          rw [List.cons_append] at ih
          rw [ih]
          rfl
  | escape _ ih =>
      rw [List.cons_append, List.cons_append, readString, if_pos rfl, ih]
      rfl

theorem takeWhile_word {p : Char → Bool} (htext : ∀ d ∈ text, p d = true)
    (hrest : rest.head?.any p = false) :
    (text ++ rest).takeWhile p = text ∧ (text ++ rest).dropWhile p = rest := by
  rw [List.takeWhile_append_of_pos htext, List.dropWhile_append_of_pos htext]
  cases rest with
  | nil => simp
  | cons d rest => simpa using hrest

def Scan.push (maxDepth : Nat) (scan : Scan) : ProtoToken → Option Scan
  | .punctuation c => scan.punctuation maxDepth c
  | token => some (scan.append token)

theorem not_mem_of {p : Char → Bool} {l : List Char} (hl : l.all (fun d => !p d) = true)
    (h : p c = true) : c ∉ l := by
  intro hmem
  have hno := List.all_eq_true.mp hl c hmem
  simp [h] at hno

theorem start_of_isIdentifierStart (h : isIdentifierStart c = true) :
    isBlank c = false ∧ isQuote c = false ∧ c ≠ '/' := by
  refine ⟨?_, ?_, ?_⟩
  · exact decide_eq_false (not_mem_of (by decide) h)
  · have hquote : c ∉ ['"', '\''] := not_mem_of (by decide) h
    simpa [isQuote] using hquote
  · have hslash : c ∉ ['/'] := not_mem_of (by decide) h
    simpa using hslash

theorem start_of_isDigit (h : c.isDigit = true) :
    isBlank c = false ∧ isQuote c = false ∧ c ≠ '/' ∧ isIdentifierStart c = false := by
  refine ⟨?_, ?_, ?_, ?_⟩
  · exact decide_eq_false (not_mem_of (by decide) h)
  · have hquote : c ∉ ['"', '\''] := not_mem_of (by decide) h
    simpa [isQuote] using hquote
  · have hslash : c ∉ ['/'] := not_mem_of (by decide) h
    simpa using hslash
  · have hunder : c ∉ ['_'] := not_mem_of (by decide) h
    simp only [Char.isDigit, Bool.and_eq_true, decide_eq_true_eq] at h
    simp only [isIdentifierStart, Char.isAlpha, Char.isUpper, Char.isLower, Bool.or_eq_false_iff,
      Bool.and_eq_false_iff, decide_eq_false_iff_not, beq_eq_false_iff_ne]
    simp only [UInt32.le_iff_toNat_le, ge_iff_le] at h ⊢
    simp at h hunder ⊢
    exact ⟨by omega, hunder⟩

theorem start_of_isQuote (h : isQuote c = true) : isBlank c = false ∧ c ≠ '/' := by
  refine ⟨decide_eq_false (not_mem_of (by decide) h), ?_⟩
  have hslash : c ∉ ['/'] := not_mem_of (by decide) h
  simpa using hslash

theorem endsBefore_punctuation {next : Option Char} (h : endsBefore (.punctuation c) next = true) :
    ¬ (c = '/' ∧ next = some '/') ∧ ¬ (c = '/' ∧ next = some '*') ∧
      ¬ (c = '-' ∧ next.any Char.isDigit = true) := by
  refine ⟨?_, ?_, ?_⟩
  · rintro ⟨rfl, rfl⟩
    simp [endsBefore] at h
  · rintro ⟨rfl, rfl⟩
    simp [endsBefore] at h
  · rintro ⟨rfl, hnext⟩
    simp [endsBefore, hnext] at h

theorem lexTurn_token {next : Scan}
    (hspells : Spells token text) (hends : endsBefore token rest.head? = true)
    (hbudget : scan.tokens.length < maxTokens) (hpush : scan.push maxDepth token = some next) :
    lexTurn maxTokens maxDepth (scan, text ++ rest) = .again (next, rest) := by
  cases hspells with
  | @identifier c text hstart hpart =>
      obtain ⟨hblank, hquote, hslash⟩ := start_of_isIdentifierStart hstart
      obtain rfl := Option.some.inj hpush
      have hrest : rest.head?.any isIdentifierPart = false := by simpa [endsBefore] using hends
      obtain ⟨htake, hdrop⟩ := takeWhile_word hpart hrest
      simp [lexTurn, hblank, hquote, hslash, hstart, hbudget, htake, hdrop]
  | @string quote text value hquote hliteral =>
      obtain ⟨hblank, hslash⟩ := start_of_isQuote hquote
      obtain rfl := Option.some.inj hpush
      simp [lexTurn, hblank, hquote, hslash, hbudget, readString_literal hquote hliteral]
  | @digits c text hdigit hpart =>
      obtain ⟨hblank, hquote, hslash, hstart⟩ := start_of_isDigit hdigit
      obtain rfl := Option.some.inj hpush
      have hrest : rest.head?.any isNumberPart = false := by simpa [endsBefore] using hends
      obtain ⟨htake, hdrop⟩ := takeWhile_word hpart hrest
      simp [lexTurn, hblank, hquote, hslash, hstart, hdigit, hbudget, htake, hdrop]
  | @negative c text hdigit hpart =>
      obtain rfl := Option.some.inj hpush
      have hrest : rest.head?.any isNumberPart = false := by simpa [endsBefore] using hends
      obtain ⟨htake, hdrop⟩ := takeWhile_word hpart hrest
      have hc : isNumberPart c = true := by simp [isNumberPart, hdigit]
      simp [lexTurn, isBlank, isQuote, isIdentifierStart, hdigit, hbudget, hc, htake, hdrop]
  | @punctuation c hplain =>
      obtain ⟨hline, hblock, hnegative⟩ := endsBefore_punctuation hends
      simp only [isPlain, Bool.and_eq_true, Bool.not_eq_true'] at hplain
      obtain ⟨⟨⟨hblank, hquote⟩, hstart⟩, hdigit⟩ := hplain
      have hnumber : ¬ (c.isDigit = true ∨ c = '-' ∧ rest.head?.any Char.isDigit = true) := by
        rintro (h | h)
        · simp [hdigit] at h
        · exact hnegative h
      have hpush : scan.punctuation maxDepth c = some next := hpush
      rw [List.singleton_append]
      simp only [lexTurn, hblank, hquote, hstart, if_neg hline, if_neg hblock, if_neg hnumber,
        if_neg (Nat.not_le.mpr hbudget), hpush, Bool.false_eq_true, if_false]

theorem exists_push (h : nestsWithin maxDepth scan.depth (token :: tokens) = true) :
    ∃ next, scan.push maxDepth token = some next ∧ next.tokens = scan.tokens ++ [token] ∧
      next.commentsDiscarded = scan.commentsDiscarded ∧
      nestsWithin maxDepth next.depth tokens = true := by
  by_cases hopen : token = .punctuation '\x7b'
  · subst hopen
    simp only [nestsWithin, if_true, Bool.and_eq_true, decide_eq_true_eq] at h
    let opened : Scan :=
      { scan with
        depth := scan.depth + 1
        maxDepthObserved := max scan.maxDepthObserved (scan.depth + 1) }
    refine ⟨opened.append (.punctuation '\x7b'), ?_, rfl, rfl, h.2⟩
    simp only [Scan.push, Scan.punctuation, if_true]
    rw [if_neg (by omega)]
  · by_cases hclose : token = .punctuation '\x7d'
    · subst hclose
      simp only [nestsWithin, if_true, if_neg hopen] at h
      let closed : Scan := { scan with depth := scan.depth - 1 }
      refine ⟨closed.append (.punctuation '\x7d'), ?_, rfl, rfl, h⟩
      simp [Scan.push, Scan.punctuation, closed]
    · simp only [nestsWithin, if_neg hopen, if_neg hclose] at h
      refine ⟨scan.append token, ?_, rfl, rfl, h⟩
      cases token with
      | punctuation c =>
          simp only [ProtoToken.punctuation.injEq] at hopen hclose
          simp [Scan.push, Scan.punctuation, hopen, hclose]
      | identifier _ => rfl
      | string _ => rfl
      | number _ => rfl

theorem ne_nil_of_spells (h : Spells token text) : 0 < text.length := by
  cases h <;> simp

theorem lexes_printed (hprinted : Printed tokens text comments)
    (hdepth : nestsWithin maxDepth scan.depth tokens = true)
    (hbudget : scan.tokens.length + tokens.length ≤ maxTokens) :
    ∃ depth, Lexes maxTokens maxDepth scan text
      ⟨.complete, scan.tokens ++ tokens, scan.commentsDiscarded + comments, depth⟩ := by
  induction hprinted generalizing scan with
  | @done gap comments hgap =>
      refine ⟨scan.maxDepthObserved, ?_⟩
      rw [← List.append_nil gap, List.append_nil scan.tokens]
      exact lexes_trivia hgap (Settles.of_done rfl)
  | @lastLine gap body comments hgap hbody =>
      refine ⟨scan.maxDepthObserved, ?_⟩
      rw [List.append_nil]
      refine lexes_trivia hgap ?_
      have hdrop : body.dropWhile (· != '\n') = [] := by
        refine List.dropWhile_eq_nil_iff.mpr fun c hc => ?_
        simpa using fun heq : c = '\n' => hbody (heq ▸ hc)
      have hnext : Lexes maxTokens maxDepth (scan.comments comments).comment [] _ :=
        Settles.of_done rfl
      refine Settles.of_again ?_ ?_ hnext
      · simp [lexTurn, isBlank, hdrop]
      · simp [size]
  | @token token tokens gap text rest before after hgap hspells hends _ ih =>
      simp only [List.length_cons] at hbudget
      obtain ⟨next, hpush, htokens, hcomments, hdepth⟩ :=
        (exists_push hdepth : ∃ next, (scan.comments before).push maxDepth token = some next ∧ _)
      obtain ⟨depth, hlexes⟩ := ih hdepth (by
        rw [htokens, List.length_append, List.length_singleton]
        exact le_trans (by simp [Scan.comments]; omega) hbudget)
      refine ⟨depth, lexes_trivia hgap (Settles.of_again (lexTurn_token hspells hends ?_ hpush)
        ?_ ?_)⟩
      · exact lt_of_lt_of_le (by simp [Scan.comments]) hbudget
      · have hpositive := ne_nil_of_spells hspells
        simp [size]
        omega
      · simpa [htokens, hcomments, Scan.comments, Nat.add_assoc] using hlexes

theorem lexProto_printed {options : ProtoLexOptions} (hprinted : Printed tokens text comments)
    (hbytes : text.length ≤ options.maxSourceBytes.getD protoMaxSourceBytes)
    (hbudget : tokens.length ≤ options.maxTokens.getD protoMaxTokens)
    (hdepth : nestsWithin (options.maxDepth.getD protoMaxDepth) 0 tokens = true) :
    ∃ depth, lexProto text options = ⟨.complete, tokens, comments, depth⟩ := by
  have hscan : ∃ depth, Lexes (options.maxTokens.getD protoMaxTokens)
      (options.maxDepth.getD protoMaxDepth) Scan.start text _ :=
    lexes_printed hprinted hdepth (by simpa [Scan.start] using hbudget)
  obtain ⟨depth, hlexes⟩ := hscan
  refine ⟨depth, ?_⟩
  simp only [lexProto, if_neg (Nat.not_lt.mpr hbytes)]
  have hloop := hlexes.loop_eq
  simp only [size] at hloop
  rw [hloop]
  simp [Scan.start]

end Correctness

end NightWatch.Source.ProtoLexer
