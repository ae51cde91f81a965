import NightWatch.Lib.Nesting
import NightWatch.Source.PhpTokens

namespace NightWatch.Source.FunctionBodies

open Lib.JsText Lib.Nesting Source.PhpTokens

abbrev punct (p : String) : PhpToken := .punct p.toList

/-- The first opening brace behind an index, with no semicolon in between. -/
def BraceAfter (tokens : List PhpToken) (i start : Nat) : Prop :=
  i < start ∧ tokens[start]? = some (punct "\x7b") ∧
    ∀ n, i < n → n < start →
      tokens[n]? ≠ some (punct "\x7b") ∧ tokens[n]? ≠ some (punct ";")

/-- The block that is opened after the parameter list of the declaration at `k`. -/
def OwnBlock (tokens : List PhpToken) (k : Nat) (body : Body) : Prop :=
  ∃ close, Matches (punct "(") (punct ")") tokens (k + 2) close ∧
    BraceAfter tokens close body.start ∧
    Matches (punct "\x7b") (punct "\x7d") tokens body.start body.stop

def FirstDeclaration (tokens : List PhpToken) (symbol : JsString) (k : Nat) : Prop :=
  DeclaresAt tokens symbol k ∧ ∀ k' < k, ¬ DeclaresAt tokens symbol k'

/-- A parenthesis behind the declaration at `k`, on the level of its parameter list, is followed by
a brace before a semicolon. -/
def LaterBlock (tokens : List PhpToken) (k : Nat) : Prop :=
  ∃ n start, ZeroAt (punct "(") (punct ")") (tokens.drop (k + 2)) 0 n ∧
    BraceAfter tokens (k + 2 + n) start

section Search

variable {tokens : List PhpToken}

theorem parens_ne : punct "(" ≠ punct ")" := by decide

theorem braces_ne : punct "\x7b" ≠ punct "\x7d" := by decide

theorem matchingFrom_eq_some {opens closes : JsString} (hne : PhpToken.punct opens ≠ .punct closes)
    {i found : Nat} {depth : Int} : matchingFrom opens closes tokens i depth = some found ↔
      ∃ n, found = i + n ∧ FirstZero (.punct opens) (.punct closes) tokens depth n := by
  induction tokens generalizing i depth with
  | nil => simp [matchingFrom, FirstZero, ZeroAt]
  | cons token rest ih =>
      have later : ∀ {inner : Int}, ¬ (token = .punct closes ∧ depth = 1) →
          inner = depth + turn (.punct opens) (.punct closes) token →
          (matchingFrom opens closes rest (i + 1) inner = some found ↔
            ∃ n, found = i + n ∧
              FirstZero (.punct opens) (.punct closes) (token :: rest) depth n) := by
        rintro inner hfirst rfl
        rw [ih]
        constructor
        · rintro ⟨n, rfl, hn⟩
          exact ⟨n + 1, by omega, (firstZero_succ hne hfirst).mpr hn⟩
        · rintro ⟨n, rfl, hn⟩
          cases n with
          | zero => exact absurd ((firstZero_zero hne).mp hn) hfirst
          | succ n => exact ⟨n, by omega, (firstZero_succ hne hfirst).mp hn⟩
      rw [matchingFrom]
      rcases turn_cases hne token with ⟨htoken, hturn⟩ | ⟨htoken, hturn⟩ | ⟨hopens, hcloses, hturn⟩
      · have hcloses : token ≠ .punct closes := htoken ▸ hne
        simp only [if_pos htoken, if_neg hcloses]
        exact later (fun h => hcloses h.1) (by rw [hturn])
      · have hopens : token ≠ .punct opens := htoken ▸ hne.symm
        simp only [if_neg hopens, if_pos htoken]
        split
        · rename_i hzero
          have hdepth : depth = 1 := by omega
          rw [Option.some.injEq]
          constructor
          · rintro rfl
            exact ⟨0, rfl, (firstZero_zero hne).mpr ⟨htoken, hdepth⟩⟩
          · rintro ⟨n, rfl, hn⟩
            have hn0 := hn.eq ((firstZero_zero hne).mpr ⟨htoken, hdepth⟩)
            omega
        · exact later (fun h => by omega) (by rw [hturn]; omega)
      · simp only [if_neg hopens, if_neg hcloses]
        exact later (fun h => hcloses h.1) (by rw [hturn]; omega)

variable {start : Nat}

theorem findMatchingBrace_eq {stop : Nat}
    (h : Matches (punct "\x7b") (punct "\x7d") tokens start stop) :
    findMatchingBrace tokens start = stop := by
  obtain ⟨-, n, rfl, hn⟩ := h
  rw [findMatchingBrace, (matchingFrom_eq_some braces_ne).mpr ⟨n, rfl, hn⟩, Option.getD_some]

theorem openAfter_eq_some {k : Nat} : openAfter tokens k = some start ↔
    ∃ n, start = k + n ∧ tokens[n]? = some (punct "\x7b") ∧
      ∀ m < n, tokens[m]? ≠ some (punct "\x7b") ∧ tokens[m]? ≠ some (punct ";") := by
  induction tokens generalizing k with
  | nil => simp [openAfter]
  | cons token rest ih =>
      have hne : punct ";" ≠ punct "\x7b" := by decide
      rw [openAfter]
      split
      · rename_i hopen
        rw [Option.some.injEq]
        constructor
        · rintro rfl
          exact ⟨0, rfl, by simp [hopen], fun m hm => absurd hm (Nat.not_lt_zero m)⟩
        · rintro ⟨n, rfl, -, hless⟩
          cases n with
          | zero => rfl
          | succ n => exact absurd (by simp [hopen]) (hless 0 (by omega)).1
      · rename_i hopen
        split
        · rename_i hend
          constructor
          · intro h
            contradiction
          · rintro ⟨n, rfl, hn, hless⟩
            cases n with
            | zero => exact absurd (Option.some.inj hn) hopen
            | succ n => exact absurd (by simp [hend]) (hless 0 (by omega)).2
        · rename_i hend
          rw [ih]
          constructor
          · rintro ⟨n, rfl, hn, hless⟩
            refine ⟨n + 1, by omega, by simpa using hn, fun m hm => ?_⟩
            cases m with
            | zero => simp [hopen, hend]
            | succ m => simpa using hless m (by omega)
          · rintro ⟨n, rfl, hn, hless⟩
            cases n with
            | zero => exact absurd (Option.some.inj hn) hopen
            | succ n =>
                exact ⟨n, by omega, by simpa using hn, fun m hm => by
                  simpa using hless (m + 1) (by omega)⟩

theorem openAfter_drop {i : Nat} :
    openAfter (tokens.drop (i + 1)) (i + 1) = some start ↔ BraceAfter tokens i start := by
  rw [openAfter_eq_some]
  constructor
  · rintro ⟨n, rfl, hn, hless⟩
    rw [List.getElem?_drop] at hn
    refine ⟨by omega, hn, fun m hm hm' => ?_⟩
    have hbefore := hless (m - (i + 1)) (by omega)
    rw [List.getElem?_drop, show i + 1 + (m - (i + 1)) = m by omega] at hbefore
    exact hbefore
  · rintro ⟨hlt, hstart, hless⟩
    refine ⟨start - (i + 1), by omega, ?_, fun m hm => ?_⟩
    · rw [List.getElem?_drop, show i + 1 + (start - (i + 1)) = start by omega]
      exact hstart
    · rw [List.getElem?_drop]
      exact hless _ (by omega) (by omega)

theorem openFrom_eq_some {j : Nat} {depth : Int} {sawParen : Bool}
    (hsaw : 0 < depth → sawParen = true) : openFrom tokens j depth sawParen = some start ↔
      ∃ n, ZeroAt (punct "(") (punct ")") tokens depth n ∧
        openAfter (tokens.drop (n + 1)) (j + n + 1) = some start ∧
        ∀ m < n, ZeroAt (punct "(") (punct ")") tokens depth m →
          openAfter (tokens.drop (m + 1)) (j + m + 1) = none := by
  induction tokens generalizing j depth sawParen with
  | nil => simp [openFrom, ZeroAt]
  | cons token rest ih =>
      have later : ∀ {inner : Int} {saw : Bool}, (0 < inner → saw = true) →
          inner = depth + turn (punct "(") (punct ")") token →
          (token = punct ")" → depth = 1 → openAfter rest (j + 1) = none) →
          (openFrom rest (j + 1) inner saw = some start ↔
            ∃ n, ZeroAt (punct "(") (punct ")") (token :: rest) depth n ∧
              openAfter ((token :: rest).drop (n + 1)) (j + n + 1) = some start ∧
              ∀ m < n, ZeroAt (punct "(") (punct ")") (token :: rest) depth m →
                openAfter ((token :: rest).drop (m + 1)) (j + m + 1) = none) := by
        rintro inner saw hinner rfl hnone
        rw [ih hinner]
        constructor
        · rintro ⟨n, hzero, hopen, hless⟩
          refine ⟨n + 1, zeroAt_succ.mpr hzero, ?_, fun m hm hm' => ?_⟩
          · rw [List.drop_succ_cons, show j + (n + 1) + 1 = j + 1 + n + 1 by omega]
            exact hopen
          · cases m with
            | zero =>
                obtain ⟨htoken, hdepth⟩ := (zeroAt_zero parens_ne).mp hm'
                exact hnone htoken hdepth
            | succ m =>
                rw [List.drop_succ_cons, show j + (m + 1) + 1 = j + 1 + m + 1 by omega]
                exact hless m (by omega) (zeroAt_succ.mp hm')
        · rintro ⟨n, hzero, hopen, hless⟩
          cases n with
          | zero =>
              obtain ⟨htoken, hdepth⟩ := (zeroAt_zero parens_ne).mp hzero
              have hnone := hnone htoken hdepth
              rw [Nat.zero_add, List.drop_succ_cons, List.drop_zero, Nat.add_zero, hnone] at hopen
              contradiction
          | succ n =>
              refine ⟨n, zeroAt_succ.mp hzero, ?_, fun m hm hm' => ?_⟩
              · rw [show j + 1 + n + 1 = j + (n + 1) + 1 by omega]
                exact hopen
              · rw [show j + 1 + m + 1 = j + (m + 1) + 1 by omega]
                exact hless (m + 1) (by omega) (zeroAt_succ.mpr hm')
      rw [openFrom]
      rcases turn_cases parens_ne token with
        ⟨htoken, hturn⟩ | ⟨htoken, hturn⟩ | ⟨hopens, hcloses, hturn⟩
      · have hcloses : token ≠ punct ")" := htoken ▸ parens_ne
        rw [if_pos htoken]
        exact later (fun _ => rfl) (by rw [hturn]) fun h => absurd h hcloses
      · have hopens : token ≠ punct "(" := htoken ▸ parens_ne.symm
        rw [if_neg hopens, if_pos htoken]
        split
        · rename_i hdepth
          have hone : depth = 1 := by omega
          cases hopen : openAfter rest (j + 1) with
          | some b =>
              rw [Option.orElse_some, Option.some.injEq]
              constructor
              · rintro rfl
                refine ⟨0, (zeroAt_zero parens_ne).mpr ⟨htoken, hone⟩, hopen, ?_⟩
                exact fun m hm => absurd hm (Nat.not_lt_zero m)
              · rintro ⟨n, -, hfound, hless⟩
                cases n with
                | zero =>
                    have hfound : openAfter rest (j + 1) = some start := hfound
                    rw [hopen] at hfound
                    exact Option.some.inj hfound
                | succ n =>
                    have hnone : openAfter rest (j + 1) = none :=
                      hless 0 (by omega) ((zeroAt_zero parens_ne).mpr ⟨htoken, hone⟩)
                    rw [hopen] at hnone
                    contradiction
          | none =>
              rw [Option.orElse_none]
              exact later (fun h => by omega) (by rw [hturn]; omega) fun _ _ => hopen
        · rename_i hdepth
          have hdeep : depth ≠ 1 := by
            intro hone
            exact hdepth ⟨by omega, hsaw (by omega)⟩
          exact later (fun h => hsaw (by omega)) (by rw [hturn]; omega) fun _ h => absurd h hdeep
      · rw [if_neg hopens, if_neg hcloses]
        exact later hsaw (by rw [hturn]; omega) fun h => absurd h hcloses

end Search

section Ownership

variable {tokens : List PhpToken} {symbol : JsString} {k : Nat} {body : Body}

theorem bodyAt_of_ownBlock (h : OwnBlock tokens k body) : bodyAt tokens k = some body := by
  obtain ⟨close, ⟨-, n, rfl, hn⟩, hbrace, hmatch⟩ := h
  have hopen : openFrom (tokens.drop (k + 2)) (k + 2) 0 false = some body.start := by
    refine (openFrom_eq_some (fun h => absurd h (lt_irrefl 0))).mpr ⟨n, hn.1, ?_, ?_⟩
    · rw [List.drop_drop]
      exact openAfter_drop.mpr hbrace
    · exact fun m hm hm' => absurd hm' (hn.2 m hm)
  rw [bodyAt, hopen, Option.map_some, findMatchingBrace_eq hmatch]

theorem isSome_bodyAt_iff : (bodyAt tokens k).isSome = true ↔ LaterBlock tokens k := by
  rw [bodyAt, Option.isSome_map, Option.isSome_iff_exists]
  constructor
  · rintro ⟨start, hstart⟩
    obtain ⟨n, hzero, hopen, -⟩ := (openFrom_eq_some (fun h => absurd h (lt_irrefl 0))).mp hstart
    rw [List.drop_drop] at hopen
    exact ⟨n, start, hzero, openAfter_drop.mp hopen⟩
  · intro h
    classical
    obtain ⟨start, hzero, hbrace⟩ := Nat.find_spec h
    refine ⟨start, (openFrom_eq_some (fun h => absurd h (lt_irrefl 0))).mpr
      ⟨Nat.find h, hzero, ?_, fun m hm hm' => ?_⟩⟩
    · rw [List.drop_drop]
      exact openAfter_drop.mpr hbrace
    · rw [List.drop_drop, Option.eq_none_iff_forall_ne_some]
      intro later hlater
      exact Nat.find_min h hm ⟨later, hm', openAfter_drop.mp hlater⟩

theorem find?_declaration : ((List.range tokens.length).find?
    fun k => decide (DeclaresAt tokens symbol k)) = some k ↔ FirstDeclaration tokens symbol k := by
  rw [List.find?_range_eq_some]
  simp only [decide_eq_true_eq, List.mem_range, Bool.not_eq_true', decide_eq_false_iff_not]
  constructor
  · rintro ⟨hk, -, hless⟩
    exact ⟨hk, hless⟩
  · rintro ⟨hk, hless⟩
    exact ⟨hk, lt_of_declaresAt hk, hless⟩

theorem findFunctionBody_of_first (h : FirstDeclaration tokens symbol k) :
    findFunctionBody tokens symbol = bodyAt tokens k := by
  rw [findFunctionBody, find?_declaration.mpr h, Option.bind_some]

theorem FirstDeclaration.eq {k' : Nat} (h : FirstDeclaration tokens symbol k)
    (h' : FirstDeclaration tokens symbol k') : k = k' :=
  Option.some.inj ((find?_declaration.mpr h).symm.trans (find?_declaration.mpr h'))

/-- The search finds the block that the first declaration owns, and nothing where it owns none,
if and only if that declaration has a body or no later block is taken for one. -/
theorem body_is_own_iff (tokens : List PhpToken) (symbol : JsString) :
    (∀ body, findFunctionBody tokens symbol = some body ↔
      ∃ k, FirstDeclaration tokens symbol k ∧ OwnBlock tokens k body) ↔
      ∀ k, FirstDeclaration tokens symbol k →
        (∃ body, OwnBlock tokens k body) ∨ ¬ LaterBlock tokens k := by
  constructor
  · intro h k hk
    by_cases hown : ∃ body, OwnBlock tokens k body
    · exact .inl hown
    · refine .inr fun hlater => ?_
      obtain ⟨body, hbody⟩ := Option.isSome_iff_exists.mp (isSome_bodyAt_iff.mpr hlater)
      rw [← findFunctionBody_of_first hk] at hbody
      obtain ⟨k', hk', hown'⟩ := (h body).mp hbody
      rw [← hk.eq hk'] at hown'
      exact hown ⟨body, hown'⟩
  · intro h body
    constructor
    · intro hbody
      obtain ⟨k, hfound, hbodyAt⟩ := Option.bind_eq_some_iff.mp hbody
      have hk := find?_declaration.mp hfound
      refine ⟨k, hk, ?_⟩
      rcases h k hk with ⟨own, hown⟩ | hnone
      · rw [bodyAt_of_ownBlock hown] at hbodyAt
        rwa [← Option.some.inj hbodyAt]
      · exact absurd (isSome_bodyAt_iff.mp (Option.isSome_of_eq_some hbodyAt)) hnone
    · rintro ⟨k, hk, hown⟩
      rw [findFunctionBody_of_first hk, bodyAt_of_ownBlock hown]

def abstractThenConcrete : List PhpToken :=
  [.word functionWord, .word "f".toList, punct "(", punct ")", punct ";",
    .word functionWord, .word "g".toList, punct "(", punct ")", punct "\x7b", punct "\x7d"]

/-- The body of another function is found for the abstract method. -/
theorem abstract_method_takes_another_body :
    FirstDeclaration abstractThenConcrete "f".toList 0 ∧
      FirstDeclaration abstractThenConcrete "g".toList 5 ∧
      OwnBlock abstractThenConcrete 5 ⟨9, 10⟩ ∧ (¬ ∃ body, OwnBlock abstractThenConcrete 0 body) ∧
      findFunctionBody abstractThenConcrete "f".toList = some ⟨9, 10⟩ := by
  have hown : OwnBlock abstractThenConcrete 5 ⟨9, 10⟩ := by
    refine ⟨8, ⟨rfl, 1, rfl, ?_, by decide⟩, ⟨by decide, rfl, fun n (hn : 8 < n) (hn' : n < 9) => by omega⟩,
      rfl, 1, rfl, ?_, by decide⟩
    · decide
    · decide
  refine ⟨?_, ?_, hown, ?_, by decide⟩
  · exact find?_declaration.mp (by decide)
  · exact find?_declaration.mp (by decide)
  · rintro ⟨body, close, hclose, hbrace, -⟩
    have hthree : Matches (punct "(") (punct ")") abstractThenConcrete 2 3 :=
      ⟨rfl, 1, rfl, by decide, by decide⟩
    obtain rfl := hclose.eq hthree
    have hstart : 4 < body.start := by
      rcases Nat.lt_or_ge 4 body.start with h | h
      · exact h
      · obtain ⟨hlt, hopen, -⟩ := hbrace
        obtain hfour : body.start = 4 := by omega
        rw [hfour] at hopen
        exact absurd hopen (by decide)
    exact (hbrace.2.2 4 (by decide) hstart).2 rfl

end Ownership

end NightWatch.Source.FunctionBodies
