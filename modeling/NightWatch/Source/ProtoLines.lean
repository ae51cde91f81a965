import NightWatch.Source.ProtoLexer

namespace NightWatch.Source.ProtoLines

open Lib.JsText Lib.Loop
open Source.ProtoLexer (ProtoToken ProtoLexState ProtoLexOptions protoMaxTokens
  protoMaxDepth protoMaxSourceBytes isIdentifierStart isIdentifierPart isNumberPart isBlank isQuote
  isPlain decodeEscape Literal Spells endsBefore nestsWithin takeWhile_word endsBefore_punctuation
  start_of_isIdentifierStart start_of_isQuote start_of_isDigit ne_nil_of_spells)

structure LocatedToken where
  token : ProtoToken
  line : Nat

structure ProtoLexResult where
  state : ProtoLexState
  tokens : List LocatedToken
  commentsDiscarded : Nat
  maxDepthObserved : Nat

structure Scan where
  tokens : List LocatedToken
  commentsDiscarded : Nat
  depth : Nat
  maxDepthObserved : Nat
  line : Nat

def Scan.start : Scan := ⟨[], 0, 0, 0, 1⟩

def Scan.result (scan : Scan) (state : ProtoLexState) : ProtoLexResult :=
  ⟨state, scan.tokens, scan.commentsDiscarded, scan.maxDepthObserved⟩

def Scan.comment (scan : Scan) : Scan :=
  { scan with commentsDiscarded := scan.commentsDiscarded + 1 }

def Scan.lines (scan : Scan) (count : Nat) : Scan := { scan with line := scan.line + count }

def Scan.append (scan : Scan) (token : ProtoToken) : Scan :=
  { scan with tokens := scan.tokens ++ [⟨token, scan.line⟩] }

def Scan.punctuation (maxDepth : Nat) (scan : Scan) (character : Char) : Option Scan :=
  if character = '\x7b' then
    if maxDepth < scan.depth + 1 then none
    else
      some ({ scan with
        depth := scan.depth + 1
        maxDepthObserved := max scan.maxDepthObserved (scan.depth + 1) }.append
          (.punctuation character))
  else if character = '\x7d' then
    some ({ scan with depth := scan.depth - 1 }.append (.punctuation character))
  else some (scan.append (.punctuation character))

def newlines (text : List Char) : Nat := text.count '\n'

def closeComment : List Char → Option (Nat × List Char)
  | [] => none
  | [_] => none
  | c :: d :: rest =>
      if c = '*' ∧ d = '/' then some (0, rest)
      else (closeComment (d :: rest)).map fun tail => (newlines [c] + tail.1, tail.2)

/-- The value of a literal, the newlines that are counted in it and what follows its closing
quote. -/
def readString (quote : Char) : List Char → Option (JsString × Nat × List Char)
  | [] => none
  | [c] => if c = quote then some ([], 0, []) else none
  | c :: d :: rest =>
      if c = '\\' then
        -- The line does not advance over an escaped newline.
        (readString quote rest).map fun tail => (decodeEscape d :: tail.1, tail.2)
      else if c = quote then some ([], 0, d :: rest)
      else
        (readString quote (d :: rest)).map fun tail =>
          (c :: tail.1, newlines [c] + tail.2.1, tail.2.2)

def lexTurn (maxTokens maxDepth : Nat) : Scan × List Char → Turn (Scan × List Char) ProtoLexResult
  | (scan, []) => .done (scan.result .complete)
  | (scan, character :: rest) =>
      if isBlank character then .again (scan.lines (newlines [character]), rest)
      else if character = '/' ∧ rest.head? = some '/' then
        .again (scan.comment, rest.tail.dropWhile (· != '\n'))
      else if character = '/' ∧ rest.head? = some '*' then
        match closeComment rest.tail with
        | none => .done (scan.result .unterminatedComment)
        | some (count, rest) => .again (scan.comment.lines count, rest)
      else if maxTokens ≤ scan.tokens.length then .done (scan.result .tokenBudgetExhausted)
      else if isQuote character then
        match readString character rest with
        | none => .done (scan.result .unterminatedString)
        | some (value, count, rest) => .again ((scan.append (.string value)).lines count, rest)
      else if isIdentifierStart character then
        .again (scan.append (.identifier (character :: rest.takeWhile isIdentifierPart)),
          rest.dropWhile isIdentifierPart)
      else if character.isDigit ∨ character = '-' ∧ rest.head?.any Char.isDigit = true then
        .again (scan.append (.number (character :: rest.takeWhile isNumberPart)),
          rest.dropWhile isNumberPart)
      else
        match scan.punctuation maxDepth character with
        | none => .done (scan.result .depthExceeded)
        | some scan => .again (scan, rest)

def size (state : Scan × List Char) : Nat := state.2.length

def lexProto (sourceText : List Char) (options : ProtoLexOptions) : ProtoLexResult :=
  let maxTokens := options.maxTokens.getD protoMaxTokens
  let maxDepth := options.maxDepth.getD protoMaxDepth
  let maxSourceBytes := options.maxSourceBytes.getD protoMaxSourceBytes
  if maxSourceBytes < sourceText.length then ⟨.byteBudgetExhausted, [], 0, 0⟩
  else
    (loop (lexTurn maxTokens maxDepth) (sourceText.length + 1) (Scan.start, sourceText)).getD
      (Scan.start.result .complete)

inductive Piece where
  | blank (c : Char)
  | line (body : List Char)
  | block (body : List Char)
  | token (token : ProtoToken) (text : List Char)

def Piece.text : Piece → List Char
  | .blank c => [c]
  | .line body => '/' :: '/' :: body
  | .block body => '/' :: '*' :: (body ++ ['*', '/'])
  | .token _ text => text

def Piece.IsComment : Piece → Prop
  | .line _ | .block _ => True
  | .blank _ | .token _ _ => False

def textOf (pieces : List Piece) : List Char := pieces.flatMap Piece.text

def tokensOf (pieces : List Piece) : List ProtoToken :=
  pieces.filterMap fun piece =>
    match piece with
    | .token token _ => some token
    | _ => none

/-- The piece is well formed, and ends where the text `rest` follows. -/
def Piece.Fits : Piece → List Char → Prop
  | .blank c, _ => isBlank c = true
  | .line body, rest => '\n' ∉ body ∧ (rest.head?.all (· == '\n')) = true
  | .block body, _ => ¬ ['*', '/'] <:+: body
  | .token read text, rest => Spells read text ∧ endsBefore read rest.head? = true

/-- Every piece fits before the pieces after it and the text `rest` behind them. -/
def Laid : List Piece → List Char → Prop
  | [], _ => True
  | piece :: pieces, rest => piece.Fits (textOf pieces ++ rest) ∧ Laid pieces rest

def plainNewlines : List Char → Nat
  | [] => 0
  | [c] => newlines [c]
  | c :: d :: rest =>
      if c = '\\' then plainNewlines rest else newlines [c] + plainNewlines (d :: rest)

def escapesNewline : List Char → Bool
  | [] => false
  | [_] => false
  | c :: d :: rest =>
      if c = '\\' then d == '\n' || escapesNewline rest else escapesNewline (d :: rest)

def Piece.escapes : Piece → Bool
  | .token (.string _) text => escapesNewline text.tail
  | _ => false

def Piece.counted : Piece → Nat
  | .token (.string _) text => plainNewlines text.tail
  | piece => newlines piece.text

/-- The scan after a token that is written as `text`. -/
def Scan.push (maxDepth : Nat) (scan : Scan) (text : List Char) : ProtoToken → Option Scan
  | .identifier value => some (scan.append (.identifier value))
  | .string value => some ((scan.append (.string value)).lines (plainNewlines text.tail))
  | .number value => some (scan.append (.number value))
  | .punctuation c => scan.punctuation maxDepth c

def located : Nat → List Piece → List LocatedToken
  | _, [] => []
  | line, .token read text :: pieces =>
      ⟨read, line⟩ :: located (line + (Piece.token read text).counted) pieces
  | line, piece :: pieces => located (line + piece.counted) pieces

def Scan.take (maxTokens maxDepth : Nat) (scan : Scan) : Piece → Except ProtoLexResult Scan
  | .blank c => .ok (scan.lines (newlines [c]))
  | .line _ => .ok scan.comment
  | .block body => .ok (scan.comment.lines (newlines body))
  | .token read text =>
      if maxTokens ≤ scan.tokens.length then .error (scan.result .tokenBudgetExhausted)
      else
        match scan.push maxDepth text read with
        | none => .error (scan.result .depthExceeded)
        | some scan => .ok scan

def Scan.read (maxTokens maxDepth : Nat) : Scan → List Piece → ProtoLexResult
  | scan, [] => scan.result .complete
  | scan, piece :: pieces =>
      match scan.take maxTokens maxDepth piece with
      | .error out => out
      | .ok scan => scan.read maxTokens maxDepth pieces

section Reading

variable {maxTokens maxDepth : Nat} {scan : Scan} {rest : List Char} {pieces : List Piece}

theorem newlines_append (text more : List Char) :
    newlines (text ++ more) = newlines text + newlines more :=
  List.count_append

theorem newlines_cons (c : Char) (text : List Char) :
    newlines (c :: text) = newlines [c] + newlines text :=
  newlines_append [c] text

variable {text : List Char}

theorem newlines_of_forall {p : Char → Bool} (hnewline : p '\n' = false)
    (h : ∀ c ∈ text, p c = true) : newlines text = 0 := by
  refine List.count_eq_zero.mpr fun hmem => ?_
  rw [h _ hmem] at hnewline
  contradiction

theorem closeComment_block (rest : List Char) {body : List Char} (hbody : ¬ ['*', '/'] <:+: body) :
    closeComment (body ++ '*' :: '/' :: rest) = some (newlines body, rest) := by
  induction body with
  | nil => simp [closeComment, newlines]
  | cons c body ih =>
      have hrest : ¬ ['*', '/'] <:+: body :=
        fun h => hbody (h.trans (List.suffix_cons c body).isInfix)
      have hclose := ih hrest
      cases body with
      | nil =>
          by_cases hc : c = '*'
          · simp [closeComment, hc, newlines]
          · simp [closeComment, newlines]
      | cons d body =>
          have hpair : ¬ (c = '*' ∧ d = '/') := by
            rintro ⟨rfl, rfl⟩
            exact hbody (List.IsPrefix.isInfix ⟨body, rfl⟩)
          rw [List.cons_append, List.cons_append, closeComment, if_neg hpair,
            ← List.cons_append, hclose, Option.map_some, newlines_cons c (d :: body)]

variable {count : Nat} {quote : Char}

theorem closeComment_eq_some (h : closeComment text = some (count, rest)) :
    ∃ body, text = body ++ '*' :: '/' :: rest ∧ ¬ ['*', '/'] <:+: body := by
  induction text generalizing count with
  | nil => contradiction
  | cons c text ih =>
      cases text with
      | nil => contradiction
      | cons d text =>
          rw [closeComment] at h
          split at h
          · rename_i hpair
            obtain ⟨rfl, rfl⟩ := hpair
            obtain ⟨-, rfl⟩ := Prod.mk.inj (Option.some.inj h)
            exact ⟨[], rfl, by simp⟩
          · rename_i hpair
            obtain ⟨⟨inner, after⟩, hinner, heq⟩ := Option.map_eq_some_iff.mp h
            obtain ⟨-, rfl⟩ := Prod.mk.inj heq
            obtain ⟨body, htext, hbody⟩ := ih hinner
            refine ⟨c :: body, by rw [htext, List.cons_append], ?_⟩
            intro hinfix
            rcases List.infix_cons_iff.mp hinfix with hprefix | hinfix
            · cases body with
              | nil =>
                  have hlength := hprefix.length_le
                  simp at hlength
              | cons e body =>
                  obtain ⟨hstar, hprefix⟩ := List.cons_prefix_cons.mp hprefix
                  obtain ⟨hslash, -⟩ := List.cons_prefix_cons.mp hprefix
                  rw [List.cons_append, List.cons.injEq] at htext
                  exact hpair ⟨hstar.symm, htext.1.trans hslash.symm⟩
            · exact hbody hinfix

theorem plainNewlines_close (hquote : isQuote quote = true) : plainNewlines [quote] = 0 := by
  have hne : quote ≠ '\n' := by
    rintro rfl
    revert hquote
    decide
  simp [plainNewlines, newlines, hne]

variable {value : JsString}

theorem readString_literal (hquote : isQuote quote = true) (h : Literal quote text value) :
    readString quote (text ++ rest) = some (value, plainNewlines text, rest) := by
  have hslash : quote ≠ '\\' := by
    rintro rfl
    revert hquote
    decide
  induction h with
  | close =>
      rw [plainNewlines_close hquote]
      cases rest with
      | nil => simp [readString]
      | cons d rest => simp [readString, hslash]
  | @raw c text value hne hslash hliteral ih =>
      cases text with
      | nil => cases hliteral
      | cons d text =>
          rw [List.cons_append, List.cons_append, readString, if_neg hslash, if_neg hne,
            ← List.cons_append, ih, plainNewlines, if_neg hslash]
          rfl
  | @escape c text value _ ih =>
      rw [List.cons_append, List.cons_append, readString, if_pos rfl, ih, plainNewlines, if_pos rfl]
      rfl

theorem readString_eq_some (h : readString quote text = some (value, count, rest)) :
    ∃ spelled, text = spelled ++ rest ∧ Literal quote spelled value := by
  induction text using readString.induct quote generalizing value count with
  | case1 => contradiction
  | case2 =>
      rw [readString, if_pos rfl] at h
      obtain ⟨rfl, -, rfl⟩ : [] = value ∧ 0 = count ∧ [] = rest := by simpa using h
      exact ⟨[quote], rfl, .close⟩
  | case3 c hne =>
      rw [readString, if_neg hne] at h
      contradiction
  | case4 d text ih =>
      rw [readString, if_pos rfl] at h
      obtain ⟨⟨inner, counted, after⟩, hinner, heq⟩ := Option.map_eq_some_iff.mp h
      obtain ⟨rfl, -, rfl⟩ : decodeEscape d :: inner = value ∧ counted = count ∧ after = rest := by
        simpa using heq
      obtain ⟨spelled, rfl, hliteral⟩ := ih hinner
      exact ⟨'\\' :: d :: spelled, rfl, .escape hliteral⟩
  | case5 d text hslash =>
      rw [readString, if_neg hslash, if_pos rfl] at h
      obtain ⟨rfl, -, rfl⟩ : [] = value ∧ 0 = count ∧ d :: text = rest := by simpa using h
      exact ⟨[quote], rfl, .close⟩
  | case6 c d text hslash hne ih =>
      rw [readString, if_neg hslash, if_neg hne] at h
      obtain ⟨⟨inner, counted, after⟩, hinner, heq⟩ := Option.map_eq_some_iff.mp h
      obtain ⟨rfl, -, rfl⟩ : c :: inner = value ∧ newlines [c] + counted = count ∧ after = rest := by
        simpa using heq
      obtain ⟨spelled, hspelled, hliteral⟩ := ih hinner
      exact ⟨c :: spelled, by rw [hspelled, List.cons_append], .raw hne hslash hliteral⟩

theorem lexTurn_piece (maxTokens maxDepth : Nat) (scan : Scan) {piece : Piece}
    (h : piece.Fits rest) : lexTurn maxTokens maxDepth (scan, piece.text ++ rest) =
      match scan.take maxTokens maxDepth piece with
      | .error out => .done out
      | .ok scan => .again (scan, rest) := by
  cases piece with
  | blank c =>
      have hblank : isBlank c = true := h
      simp [Piece.text, lexTurn, hblank, Scan.take]
  | line body =>
      obtain ⟨hbody, hnext⟩ := h
      have hdrop : (body ++ rest).dropWhile (· != '\n') = rest := by
        refine (takeWhile_word (fun c hc => ?_) ?_).2
        · simpa using fun heq : c = '\n' => hbody (heq ▸ hc)
        · cases rest with
          | nil => rfl
          | cons c rest => simpa using hnext
      simp [Piece.text, lexTurn, isBlank, hdrop, Scan.take]
  | block body =>
      have hclose := closeComment_block rest h
      simp [Piece.text, lexTurn, isBlank, hclose, Scan.take]
  | token read text =>
      obtain ⟨hspells, hends⟩ := h
      simp only [Piece.text, Scan.take]
      cases hspells with
      | @identifier c text hstart hpart =>
          obtain ⟨hblank, hquote, hslash⟩ := start_of_isIdentifierStart hstart
          have hrest : rest.head?.any isIdentifierPart = false := by simpa [endsBefore] using hends
          obtain ⟨htake, hdrop⟩ := takeWhile_word hpart hrest
          simp only [List.cons_append, lexTurn, hblank, hquote, hslash, hstart, htake, hdrop,
            Scan.push, Bool.false_eq_true, false_and, if_false, if_true]
          split <;> rfl
      | @string quote text value hquote hliteral =>
          obtain ⟨hblank, hslash⟩ := start_of_isQuote hquote
          simp only [List.cons_append, List.tail_cons, lexTurn, hblank, hquote, hslash,
            readString_literal hquote hliteral, Scan.push, Bool.false_eq_true, false_and, if_false,
            if_true]
          split <;> rfl
      | @digits c text hdigit hpart =>
          obtain ⟨hblank, hquote, hslash, hstart⟩ := start_of_isDigit hdigit
          have hrest : rest.head?.any isNumberPart = false := by simpa [endsBefore] using hends
          obtain ⟨htake, hdrop⟩ := takeWhile_word hpart hrest
          simp only [List.cons_append, lexTurn, hblank, hquote, hslash, hstart, hdigit, htake,
            hdrop, Scan.push, Bool.false_eq_true, false_and, true_or, if_false, if_true]
          split <;> rfl
      | @negative c text hdigit hpart =>
          have hrest : rest.head?.any isNumberPart = false := by simpa [endsBefore] using hends
          obtain ⟨htake, hdrop⟩ := takeWhile_word hpart hrest
          have hc : isNumberPart c = true := by simp [isNumberPart, hdigit]
          by_cases hbudget : maxTokens ≤ scan.tokens.length
          · simp [lexTurn, isBlank, hbudget]
          · simp [lexTurn, isBlank, isQuote, isIdentifierStart, hdigit, hbudget, hc, htake, hdrop,
              Scan.push]
      | @punctuation c hplain =>
          obtain ⟨hline, hblock, hnegative⟩ := endsBefore_punctuation hends
          simp only [isPlain, Bool.and_eq_true, Bool.not_eq_true'] at hplain
          obtain ⟨⟨⟨hblank, hquote⟩, hstart⟩, hdigit⟩ := hplain
          have hnumber : ¬ (c.isDigit = true ∨ c = '-' ∧ rest.head?.any Char.isDigit = true) := by
            rintro (h | h)
            · simp [hdigit] at h
            · exact hnegative h
          simp only [List.singleton_append, lexTurn, hblank, hquote, hstart, if_neg hline,
            if_neg hblock, if_neg hnumber, Bool.false_eq_true, if_false, Scan.push]
          cases scan.punctuation maxDepth c with
          | none => split <;> rfl
          | some next => split <;> rfl

theorem endsBefore_of_not {c : Char} {next : Option Char} (hline : ¬ (c = '/' ∧ next = some '/'))
    (hblock : ¬ (c = '/' ∧ next = some '*'))
    (hnegative : ¬ (c = '-' ∧ next.any Char.isDigit = true)) :
    endsBefore (.punctuation c) next = true := by
  cases next with
  | none =>
      unfold endsBefore
      split <;> rfl
  | some d =>
      by_cases hslash : c = '/'
      · subst hslash
        have hd : d ≠ '/' ∧ d ≠ '*' := by simpa using And.intro hline hblock
        simp [endsBefore, hd]
      · by_cases hminus : c = '-'
        · subst hminus
          simpa [endsBefore] using hnegative
        · unfold endsBefore
          split
          · contradiction
          · contradiction
          · contradiction
          · simp_all
          · simp_all
          · rfl

theorem exists_piece (maxTokens maxDepth : Nat) (scan : Scan) (c : Char) (text : List Char) :
    (∃ piece rest, c :: text = Piece.text piece ++ rest ∧ piece.Fits rest) ∨
      ∃ state, state ≠ .complete ∧
        lexTurn maxTokens maxDepth (scan, c :: text) = .done (scan.result state) := by
  by_cases hblank : isBlank c = true
  · exact .inl ⟨.blank c, text, rfl, hblank⟩
  have head_dropWhile : ∀ (p : Char → Bool) (text : List Char),
      (text.dropWhile p).head?.any p = false := by
    intro p text
    have hhead := List.head?_dropWhile_not p text
    cases hdrop : (text.dropWhile p).head? with
    | none => rfl
    | some d => simpa [hdrop] using hhead
  by_cases hline : c = '/' ∧ text.head? = some '/'
  · obtain ⟨rfl, hhead⟩ := hline
    cases text with
    | nil => contradiction
    | cons d text =>
        obtain rfl := Option.some.inj hhead
        refine .inl ⟨.line (text.takeWhile (· != '\n')), text.dropWhile (· != '\n'), ?_, ?_, ?_⟩
        · simp [Piece.text]
        · intro hmem
          simpa using List.mem_takeWhile_imp hmem
        · have hstop := head_dropWhile (· != '\n') text
          cases hdrop : text.dropWhile (· != '\n') with
          | nil => rfl
          | cons d rest => simpa [hdrop] using hstop
  by_cases hblock : c = '/' ∧ text.head? = some '*'
  · obtain ⟨rfl, hhead⟩ := hblock
    cases text with
    | nil => contradiction
    | cons d text =>
        obtain rfl := Option.some.inj hhead
        cases hclose : closeComment text with
        | none =>
            refine .inr ⟨.unterminatedComment, by decide, ?_⟩
            simp [lexTurn, isBlank, hclose]
        | some found =>
            obtain ⟨body, rfl, hbody⟩ := closeComment_eq_some 
              hclose
            exact .inl ⟨.block body, found.2, by simp [Piece.text], hbody⟩
  by_cases hquote : isQuote c = true
  · cases hread : readString c text with
    | none =>
        by_cases hbudget : maxTokens ≤ scan.tokens.length
        · refine .inr ⟨.tokenBudgetExhausted, by decide, ?_⟩
          simp [lexTurn, hblank, hline, hblock, hbudget]
        · refine .inr ⟨.unterminatedString, by decide, ?_⟩
          simp [lexTurn, hblank, hline, hblock, hbudget, hquote, hread]
    | some found =>
        obtain ⟨value, count, rest⟩ := found
        obtain ⟨spelled, rfl, hliteral⟩ := readString_eq_some hread
        exact .inl ⟨.token (.string value) (c :: spelled), rest, rfl, .string hquote hliteral, rfl⟩
  by_cases hstart : isIdentifierStart c = true
  · refine .inl ⟨.token (.identifier (c :: text.takeWhile isIdentifierPart))
      (c :: text.takeWhile isIdentifierPart), text.dropWhile isIdentifierPart, ?_,
      .identifier hstart fun d hd => List.mem_takeWhile_imp hd, ?_⟩
    · simp [Piece.text]
    · simpa [endsBefore] using head_dropWhile isIdentifierPart text
  have number : ∀ first : List Char, c :: text = first ++ text.drop (first.length - 1) →
      Spells (.number (first ++ (text.drop (first.length - 1)).takeWhile isNumberPart))
        (first ++ (text.drop (first.length - 1)).takeWhile isNumberPart) →
      ∃ piece rest, c :: text = Piece.text piece ++ rest ∧ piece.Fits rest := by
    intro first htext hspells
    refine ⟨.token _ _, (text.drop (first.length - 1)).dropWhile isNumberPart, ?_, hspells, ?_⟩
    · rw [Piece.text, List.append_assoc, List.takeWhile_append_dropWhile, ← htext]
    · simpa [endsBefore] using head_dropWhile isNumberPart _
  by_cases hdigit : c.isDigit = true
  · exact .inl (number [c] rfl (.digits hdigit fun d hd => List.mem_takeWhile_imp hd))
  by_cases hnegative : c = '-' ∧ text.head?.any Char.isDigit = true
  · obtain ⟨rfl, hhead⟩ := hnegative
    cases text with
    | nil => contradiction
    | cons d text =>
        exact .inl (number ['-', d] rfl (.negative hhead fun d hd => List.mem_takeWhile_imp hd))
  refine .inl ⟨.token (.punctuation c) [c], text, rfl, .punctuation ?_, ?_⟩
  · simp [isPlain, hblank, hquote, hstart, hdigit]
  · exact endsBefore_of_not hline hblock hnegative

end Reading

section Texts

variable {maxTokens maxDepth : Nat} {scan : Scan} {rest : List Char} {pieces : List Piece}

abbrev Lexes (maxTokens maxDepth : Nat) (scan : Scan) (text : List Char) (out : ProtoLexResult) :
    Prop :=
  Settles (lexTurn maxTokens maxDepth) size (scan, text) out

theorem textOf_cons (piece : Piece) (pieces : List Piece) :
    textOf (piece :: pieces) = piece.text ++ textOf pieces := by
  simp [textOf]

variable {piece : Piece}

theorem length_pos_of_fits (h : piece.Fits rest) : 0 < piece.text.length := by
  cases piece with
  | token read text => exact ne_nil_of_spells h.1
  | _ => simp [Piece.text]

theorem lexes_laid (h : Laid pieces []) :
    Lexes maxTokens maxDepth scan (textOf pieces) (scan.read maxTokens maxDepth pieces) := by
  induction pieces generalizing scan with
  | nil => exact Settles.of_done rfl
  | cons piece pieces ih =>
      obtain ⟨hfits, hlaid⟩ := h
      rw [List.append_nil] at hfits
      have hturn := lexTurn_piece maxTokens maxDepth scan hfits
      rw [textOf_cons, Scan.read]
      cases htake : scan.take maxTokens maxDepth piece with
      | error out =>
          rw [htake] at hturn
          exact Settles.of_done hturn
      | ok next =>
          rw [htake] at hturn
          refine Settles.of_again hturn ?_ (ih hlaid)
          have hpositive := length_pos_of_fits hfits
          simp [size]
          omega

theorem located_append (line : Nat) (before after : List Piece) : located line (before ++ after) =
      located line before ++ located (line + (before.map Piece.counted).sum) after := by
  induction before generalizing line with
  | nil => simp [located]
  | cons piece before ih =>
      cases piece <;> simp [located, ih, Nat.add_assoc]

theorem length_located (line : Nat) (pieces : List Piece) :
    (located line pieces).length = (tokensOf pieces).length := by
  induction pieces generalizing line with
  | nil => rfl
  | cons piece pieces ih => cases piece <;> simp [located, tokensOf] at ih ⊢ <;> exact ih _

variable {text : List Char}

theorem plainNewlines_eq (h : escapesNewline text = false) :
    plainNewlines text = newlines text := by
  induction text using plainNewlines.induct with
  | case1 => rfl
  | case2 c => rfl
  | case3 d text ih =>
      rw [escapesNewline, if_pos rfl, Bool.or_eq_false_iff] at h
      have hd : newlines [d] = 0 := by
        have hne : d ≠ '\n' := by simpa using h.1
        simp [newlines, hne]
      rw [plainNewlines, if_pos rfl, ih h.2, newlines_cons, newlines_cons d, hd]
      simp [newlines]
  | case4 c d text hc ih =>
      rw [escapesNewline, if_neg hc] at h
      rw [plainNewlines, if_neg hc, ih h, newlines_cons c (d :: text)]

theorem newlines_spells {read : ProtoToken} (h : Spells read text) :
    (∃ value, read = .string value) ∨ newlines text = 0 := by
  have hstart : ∀ {p : Char → Bool} {c : Char} {text : List Char}, p '\n' = false → c ≠ '\n' →
      (∀ d ∈ text, p d = true) → newlines (c :: text) = 0 := by
    intro p c text hp hc htext
    rw [newlines_cons, newlines_of_forall hp htext]
    simp [newlines, hc]
  have hblank : ∀ {c : Char}, isBlank c = false → c ≠ '\n' := by
    rintro c hc rfl
    revert hc
    decide
  cases h with
  | identifier hc hpart =>
      exact .inr (hstart (by decide) (hblank (start_of_isIdentifierStart hc).1) hpart)
  | string _ _ => exact .inl ⟨_, rfl⟩
  | digits hc hpart => exact .inr (hstart (by decide) (hblank (start_of_isDigit hc).1) hpart)
  | @negative c text hc hpart =>
      refine .inr (hstart (p := isNumberPart) (by decide) (by decide) ?_)
      refine List.forall_mem_cons.mpr ⟨?_, hpart⟩
      simp [isNumberPart, hc]
  | @punctuation c hplain =>
      simp only [isPlain, Bool.and_eq_true, Bool.not_eq_true'] at hplain
      exact .inr (by simp [newlines, hblank hplain.1.1.1])

theorem newlines_of_isQuote {quote : Char} (h : isQuote quote = true) : newlines [quote] = 0 := by
  rw [← plainNewlines_close h]
  rfl

theorem counted_eq (h : piece.Fits rest) (hescapes : piece.escapes = false) :
    piece.counted = newlines piece.text := by
  cases piece with
  | token read text =>
      cases read with
      | string value =>
          obtain ⟨hspells, -⟩ := h
          cases hspells with
          | @string quote text _ hquote _ =>
              change plainNewlines text = newlines (quote :: text)
              have hliteral : escapesNewline text = false := hescapes
              rw [newlines_cons, newlines_of_isQuote hquote, plainNewlines_eq hliteral, Nat.zero_add]
      | _ => rfl
  | _ => rfl

theorem sum_counted {before after : List Piece} (h : Laid (before ++ after) rest)
    (hescapes : ∀ piece ∈ before, piece.escapes = false) :
    (before.map Piece.counted).sum = newlines (textOf before) := by
  induction before with
  | nil => rfl
  | cons piece before ih =>
      obtain ⟨hpiece, hbefore⟩ := List.forall_mem_cons.mp hescapes
      rw [List.map_cons, List.sum_cons, counted_eq h.1 hpiece, ih h.2 hbefore, textOf_cons,
        newlines_append]

theorem take_error {out : ProtoLexResult} (h : scan.take maxTokens maxDepth piece = .error out) :
    ∃ state, state ≠ .complete ∧ out = scan.result state := by
  cases piece with
  | token read text =>
      rw [Scan.take] at h
      split at h
      · exact ⟨_, by decide, (Except.error.inj h).symm⟩
      · split at h
        · exact ⟨_, by decide, (Except.error.inj h).symm⟩
        · contradiction
  | _ => contradiction

theorem take_ok {next : Scan} (hfits : piece.Fits rest)
    (h : scan.take maxTokens maxDepth piece = .ok next) :
    next.tokens = scan.tokens ++ located scan.line [piece] ∧ next.line = scan.line + piece.counted ∧
      (scan.tokens.length ≤ maxTokens → next.tokens.length ≤ maxTokens) ∧
      ∀ pieces, nestsWithin maxDepth scan.depth (tokensOf (piece :: pieces)) =
        nestsWithin maxDepth next.depth (tokensOf pieces) := by
  cases piece with
  | blank c =>
      obtain rfl := Except.ok.inj h
      exact ⟨by simp [Scan.lines, located], rfl, id, fun _ => rfl⟩
  | line body =>
      obtain rfl := Except.ok.inj h
      have hcount : newlines ('/' :: '/' :: body) = 0 := by
        simpa [newlines, List.count_eq_zero] using hfits.1
      exact ⟨by simp [Scan.comment, located], by simp [Scan.comment, Piece.counted, Piece.text, hcount],
        id, fun _ => rfl⟩
  | block body =>
      obtain rfl := Except.ok.inj h
      have hcount : newlines ('/' :: '*' :: (body ++ ['*', '/'])) = newlines body := by
        simp [newlines]
      exact ⟨by simp [Scan.comment, Scan.lines, located],
        by simp [Scan.comment, Scan.lines, Piece.counted, Piece.text, hcount], id, fun _ => rfl⟩
  | token read text =>
      rw [Scan.take] at h
      split at h
      · contradiction
      rename_i hbudget
      have hroom : scan.tokens.length + 1 ≤ maxTokens := by omega
      split at h
      · contradiction
      rename_i pushed hpush
      obtain rfl := Except.ok.inj h
      have hlines := newlines_spells hfits.1
      cases read with
      | identifier value =>
          obtain rfl := Option.some.inj hpush
          have hcount : newlines text = 0 := by simpa using hlines
          exact ⟨rfl, by simp [Scan.append, Piece.counted, Piece.text, hcount],
            fun _ => by simpa [Scan.append] using hroom, fun _ => rfl⟩
      | string value =>
          obtain rfl := Option.some.inj hpush
          exact ⟨rfl, rfl, fun _ => by simpa [Scan.append, Scan.lines] using hroom, fun _ => rfl⟩
      | number value =>
          obtain rfl := Option.some.inj hpush
          have hcount : newlines text = 0 := by simpa using hlines
          exact ⟨rfl, by simp [Scan.append, Piece.counted, Piece.text, hcount],
            fun _ => by simpa [Scan.append] using hroom, fun _ => rfl⟩
      | punctuation c =>
          have hcount : newlines text = 0 := by simpa using hlines
          rw [Scan.push, Scan.punctuation] at hpush
          have hcounted : (Piece.token (.punctuation c) text).counted = 0 := hcount
          rw [hcounted]
          split at hpush
          · rename_i hopen
            split at hpush
            · contradiction
            rename_i hdepth
            obtain rfl := Option.some.inj hpush
            refine ⟨rfl, rfl, fun _ => by simpa [Scan.append] using hroom, fun pieces => ?_⟩
            simp [tokensOf, nestsWithin, hopen, Scan.append]
            omega
          · rename_i hopen
            split at hpush
            · rename_i hclose
              obtain rfl := Option.some.inj hpush
              refine ⟨rfl, rfl, fun _ => by simpa [Scan.append] using hroom, fun pieces => ?_⟩
              simp [tokensOf, nestsWithin, hclose, Scan.append]
            · rename_i hclose
              obtain rfl := Option.some.inj hpush
              refine ⟨rfl, rfl, fun _ => by simpa [Scan.append] using hroom, fun pieces => ?_⟩
              simp [tokensOf, nestsWithin, hopen, hclose, Scan.append]

theorem exists_pieces (maxDepth : Nat) (text : List Char) (hroom : scan.tokens.length ≤ maxTokens) :
    ∃ pieces rest out, text = textOf pieces ++ rest ∧ Laid pieces rest ∧
      Lexes maxTokens maxDepth scan text out ∧
      out.tokens = scan.tokens ++ located scan.line pieces ∧ out.tokens.length ≤ maxTokens ∧
      nestsWithin maxDepth scan.depth (tokensOf pieces) = true ∧
      (out.state = .complete → rest = []) := by
  induction hlength : text.length using Nat.strong_induction_on generalizing text scan with
  | _ length ih =>
      cases text with
      | nil =>
          exact ⟨[], [], scan.result .complete, rfl, trivial, Settles.of_done rfl,
            by simp [Scan.result, located], hroom, rfl, fun _ => rfl⟩
      | cons c text =>
          have stops : ∀ state, state ≠ .complete →
              lexTurn maxTokens maxDepth (scan, c :: text) = .done (scan.result state) →
              ∃ pieces rest out, c :: text = textOf pieces ++ rest ∧ Laid pieces rest ∧
                Lexes maxTokens maxDepth scan (c :: text) out ∧
                out.tokens = scan.tokens ++ located scan.line pieces ∧
                out.tokens.length ≤ maxTokens ∧
                nestsWithin maxDepth scan.depth (tokensOf pieces) = true ∧
                (out.state = .complete → rest = []) := by
            intro state hstate hturn
            exact ⟨[], c :: text, scan.result state, rfl, trivial, Settles.of_done hturn,
              by simp [Scan.result, located], hroom, rfl, fun h => absurd h hstate⟩
          rcases exists_piece maxTokens maxDepth scan c text with
            ⟨piece, after, htext, hfits⟩ | ⟨state, hstate, hturn⟩
          · have hturn := lexTurn_piece maxTokens maxDepth scan hfits
            rw [← htext] at hturn
            cases htake : scan.take maxTokens maxDepth piece with
            | error out =>
                rw [htake] at hturn
                obtain ⟨state, hstate, rfl⟩ := take_error htake
                exact stops state hstate hturn
            | ok next =>
                rw [htake] at hturn
                obtain ⟨htokens, hline, hnext, hnests⟩ := take_ok hfits htake
                have hless : after.length < length := by
                  have hpositive := length_pos_of_fits hfits
                  rw [← hlength, htext, List.length_append]
                  omega
                obtain ⟨pieces, rest, out, hafter, hlaid, hlexes, hout, hmost, hdepth, hstop⟩ :=
                  ih _ hless after (hnext hroom) rfl
                refine ⟨piece :: pieces, rest, out, ?_, ⟨?_, hlaid⟩, ?_, ?_, hmost, ?_, hstop⟩
                · rw [htext, hafter, textOf_cons, List.append_assoc]
                · rwa [← hafter]
                · refine Settles.of_again hturn ?_ hlexes
                  simp only [size]
                  omega
                · have hlocated := located_append scan.line [piece] pieces
                  rw [List.singleton_append] at hlocated
                  rw [hout, htokens, hline, hlocated, List.append_assoc]
                  simp
                · rw [hnests, hdepth]
          · exact stops state hstate hturn

end Texts

section Main

variable {text : List Char} {options : ProtoLexOptions}

theorem lexProto_eq {out : ProtoLexResult}
    (hbytes : text.length ≤ options.maxSourceBytes.getD protoMaxSourceBytes)
    (h : Lexes (options.maxTokens.getD protoMaxTokens) (options.maxDepth.getD protoMaxDepth)
      Scan.start text out) : lexProto text options = out := by
  have hloop := h.loop_eq
  simp only [size] at hloop
  simp only [lexProto, if_neg (Nat.not_lt.mpr hbytes), hloop, Option.getD_some]

/-- Whether the text is within the byte limit. -/
def WithinBytes (options : ProtoLexOptions) (text : List Char) : Prop :=
  text.length ≤ options.maxSourceBytes.getD protoMaxSourceBytes

theorem within_of_complete (h : (lexProto text options).state = .complete) :
    WithinBytes options text := by
  refine Nat.not_lt.mp fun hless => ?_
  simp only [lexProto, if_pos hless] at h
  contradiction

variable {pieces : List Piece}

theorem lexProto_laid (hlaid : Laid pieces []) (hbytes : WithinBytes options (textOf pieces)) :
    lexProto (textOf pieces) options = Scan.start.read (options.maxTokens.getD protoMaxTokens)
      (options.maxDepth.getD protoMaxDepth) pieces :=
  lexProto_eq hbytes (lexes_laid hlaid)

variable {piece : Piece} {after before : List Piece}

theorem take_comment {maxTokens maxDepth : Nat} {scan : Scan}
    (h : piece.IsComment) (hbody : ∀ body, piece = .line body → '\n' ∉ body) :
    scan.take maxTokens maxDepth piece = .ok (scan.comment.lines (newlines piece.text)) := by
  cases piece with
  | line body =>
      have hcount : newlines ('/' :: '/' :: body) = 0 := by
        simpa [newlines, List.count_eq_zero] using hbody body rfl
      rw [Piece.text, hcount]
      rfl
  | block body =>
      have hcount : newlines ('/' :: '*' :: (body ++ ['*', '/'])) = newlines body := by
        simp [newlines]
      rw [Piece.text, hcount]
      rfl
  | blank _ => exact h.elim
  | token _ _ => exact h.elim

variable {rest : List Char}

theorem fits_of_laid
    (h : Laid (before ++ piece :: after) rest) : piece.Fits (textOf after ++ rest) := by
  induction before with
  | nil => exact h.1
  | cons first before ih => exact ih h.2

theorem read_congr {maxTokens maxDepth : Nat} {scan : Scan} {piece' : Piece}
    (h : ∀ scan : Scan, scan.take maxTokens maxDepth piece = scan.take maxTokens maxDepth piece') :
    scan.read maxTokens maxDepth (before ++ piece :: after) =
      scan.read maxTokens maxDepth (before ++ piece' :: after) := by
  induction before generalizing scan with
  | nil => rw [List.nil_append, List.nil_append, Scan.read, Scan.read, h]
  | cons first before ih =>
      rw [List.cons_append, List.cons_append, Scan.read, Scan.read]
      split
      · rfl
      · exact ih

theorem lexProto_recommented {comment comment' : Piece}
    (hlaid : Laid (before ++ comment :: after) []) (hlaid' : Laid (before ++ comment' :: after) [])
    (hcomment : comment.IsComment) (hcomment' : comment'.IsComment)
    (hlines : newlines comment.text = newlines comment'.text)
    (hbytes : WithinBytes options (textOf (before ++ comment :: after)))
    (hbytes' : WithinBytes options (textOf (before ++ comment' :: after))) :
    lexProto (textOf (before ++ comment' :: after)) options =
      lexProto (textOf (before ++ comment :: after)) options := by
  rw [lexProto_laid hlaid hbytes, lexProto_laid hlaid' hbytes']
  refine read_congr fun scan => ?_
  have hbody : ∀ {piece : Piece} {rest : List Char}, piece.Fits rest →
      ∀ body, piece = .line body → '\n' ∉ body := by
    rintro piece rest hfits body rfl
    exact hfits.1
  rw [take_comment hcomment (hbody (fits_of_laid hlaid)),
    take_comment hcomment' (hbody (fits_of_laid hlaid')), hlines]

/-- What holds of the pieces that a text is read as. -/
structure ReadAs (options : ProtoLexOptions) (text : List Char) (pieces : List Piece)
    (rest : List Char) : Prop where
  text_eq : text = textOf pieces ++ rest
  laid : Laid pieces rest
  whole : (lexProto text options).state = .complete → rest = []
  tokens : (lexProto text options).tokens.map LocatedToken.token = tokensOf pieces
  line : ∀ before token written after, pieces = before ++ .token token written :: after →
    (∀ piece ∈ before, piece.escapes = false) →
      (lexProto text options).tokens[(tokensOf before).length]? =
        some ⟨token, 1 + newlines (textOf before)⟩

theorem tokens_located (line : Nat) (pieces : List Piece) :
    (located line pieces).map LocatedToken.token = tokensOf pieces := by
  induction pieces generalizing line with
  | nil => rfl
  | cons piece pieces ih => cases piece <;> simp [located, tokensOf] at ih ⊢ <;> exact ih _

theorem readAs_of_located (htext : text = textOf pieces ++ rest) (hlaid : Laid pieces rest)
    (hstop : (lexProto text options).state = .complete → rest = [])
    (htokens : (lexProto text options).tokens = located 1 pieces) :
    ReadAs options text pieces rest where
  text_eq := htext
  laid := hlaid
  whole := hstop
  tokens := by rw [htokens, tokens_located]
  line := by
    rintro before token written after rfl hescapes
    have hplace : (located 1 before).length = (tokensOf before).length := length_located 1 before
    rw [htokens, located_append, ← hplace, List.getElem?_append_right le_rfl, Nat.sub_self,
      sum_counted hlaid hescapes, located, List.getElem?_cons_zero]

/-- The lexer ends; what it reads is made of blanks, comments and tokens, and a token's line is
one more than the newlines before it where none of them is escaped in a literal. A text that is
read to its end is within the limits, and a comment in it may be exchanged for another with as
many newlines wherever the text stays within the byte limit. -/
theorem lexed_text (text : List Char) (options : ProtoLexOptions) :
    (∃ out, loop (lexTurn (options.maxTokens.getD protoMaxTokens)
      (options.maxDepth.getD protoMaxDepth)) (text.length + 1) (Scan.start, text) = some out) ∧
    (∃ pieces rest, ReadAs options text pieces rest) ∧ ((lexProto text options).state = .complete →
      (lexProto text options).tokens.length ≤ options.maxTokens.getD protoMaxTokens ∧
      nestsWithin (options.maxDepth.getD protoMaxDepth) 0
        ((lexProto text options).tokens.map LocatedToken.token) = true) ∧
    ∀ before comment comment' after, text = textOf (before ++ comment :: after) →
      Laid (before ++ comment :: after) [] → Laid (before ++ comment' :: after) [] →
      comment.IsComment → comment'.IsComment → newlines comment.text = newlines comment'.text →
      (lexProto text options).state = .complete →
      WithinBytes options (textOf (before ++ comment' :: after)) →
        lexProto (textOf (before ++ comment' :: after)) options = lexProto text options := by
  have hroom : Scan.start.tokens.length ≤ options.maxTokens.getD protoMaxTokens := Nat.zero_le _
  obtain ⟨pieces, rest, out, htext, hlaid, hlexes, htokens, hmost, hdepth, hstop⟩ :=
    exists_pieces (options.maxDepth.getD protoMaxDepth) text hroom
  have htokens : out.tokens = located 1 pieces := htokens
  refine ⟨⟨out, hlexes.loop_eq⟩, ?_, ?_, ?_⟩
  · by_cases hbytes : WithinBytes options text
    · have hout := lexProto_eq hbytes hlexes
      exact ⟨pieces, rest, readAs_of_located htext hlaid (by rwa [hout]) (by rw [hout, htokens])⟩
    · have hover : lexProto text options = ⟨.byteBudgetExhausted, [], 0, 0⟩ :=
        if_pos (Nat.not_le.mp hbytes)
      refine ⟨[], text, readAs_of_located rfl trivial ?_ (by rw [hover]; rfl)⟩
      rw [hover]
      exact fun h => ProtoLexState.noConfusion h
  · intro hcomplete
    rw [lexProto_eq (within_of_complete hcomplete) hlexes]
    refine ⟨hmost, ?_⟩
    rw [htokens, tokens_located]
    exact hdepth
  · rintro before comment comment' after rfl hlaid hlaid' hcomment hcomment' hlines hcomplete hbytes
    exact lexProto_recommented hlaid hlaid' hcomment hcomment' hlines
      (within_of_complete hcomplete) hbytes

def oneWord : List Piece := [.blank '\n', .token (.identifier ['a']) ['a']]

theorem laid_oneWord {body : List Char} (hbody : '\n' ∉ body) : Laid (.line body :: oneWord)
    [] := by
  refine ⟨⟨hbody, rfl⟩, ?_, ⟨.identifier ?_ ?_, ?_⟩, trivial⟩
  · change isBlank '\n' = true
    decide
  · decide
  · exact fun _ h => absurd h List.not_mem_nil
  · decide

theorem longer_comment_refused : Laid (.line [] :: oneWord) [] ∧ Laid (.line [' '] :: oneWord) [] ∧
      newlines (Piece.line []).text = newlines (Piece.line [' ']).text ∧
      (lexProto (textOf (.line [] :: oneWord)) ⟨none, none, some 4⟩).state = .complete ∧
      (lexProto (textOf (.line [' '] :: oneWord)) ⟨none, none, some 4⟩).state =
        .byteBudgetExhausted :=
  ⟨laid_oneWord (by decide), laid_oneWord (by decide), rfl, by decide, by decide⟩

end Main

end NightWatch.Source.ProtoLines
