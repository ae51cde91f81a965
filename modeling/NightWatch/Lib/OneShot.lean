import NightWatch.Lib.Machine

/-!
Stores of one-shot tokens. A token is issued, spent at most once, and forgotten
once it is spent; a clearing drops every token. Whatever the store does, spendings
are matched injectively with issues, and an unspent token is kept.
-/

namespace NightWatch.Lib.OneShot

open Lib.Machine

universe u

variable {τ : Type u}

structure Token (τ : Type u) where
  label : τ
  spent : Bool

inductive Move (τ : Type u) where
  | issue (label : τ)
  | spend (label : τ)
  | clear
  | skip

/-- Any number of spent tokens may be forgotten, all others stay. -/
inductive Forgets : List (Token τ) → List (Token τ) → Prop
  | none (tokens : List (Token τ)) : Forgets tokens tokens
  | spent (tokens : List (Token τ)) (n : Nat) (token : Token τ)
      (hget : tokens[n]? = some token) (hspent : token.spent = true) :
      Forgets tokens (tokens.eraseIdx n)

inductive Step : List (Token τ) → Move τ → List (Token τ) → Prop
  | issue {tokens kept : List (Token τ)} (label : τ) (hkept : Forgets tokens kept) :
      Step tokens (.issue label) (kept ++ [⟨label, false⟩])
  | spend {tokens : List (Token τ)} (n : Nat) (label : τ)
      (hget : tokens[n]? = some ⟨label, false⟩) :
      Step tokens (.spend label) (tokens.set n ⟨label, true⟩)
  | clear (tokens : List (Token τ)) : Step tokens .clear []
  | skip {tokens kept : List (Token τ)} (hkept : Forgets tokens kept) : Step tokens .skip kept

def store (τ : Type u) : System (List (Token τ)) (Move τ) where
  start := []
  step := Step

/-- No clearing has happened after position `k`. -/
def Open (moves : List (Move τ)) (k : Nat) : Prop := ∀ j, k < j → moves[j]? ≠ some .clear

def SpentBy (moves : List (Move τ)) (issuer : Nat → Nat) (k : Nat) : Prop :=
  ∃ i label, moves[i]? = some (.spend label) ∧ issuer i = k

/-- A token held for the issue at position `k`. -/
def Holds (moves : List (Move τ)) (issuer : Nat → Nat) (k : Nat) (token : Token τ) : Prop :=
  moves[k]? = some (.issue token.label) ∧ Open moves k ∧
    (token.spent = true ↔ SpentBy moves issuer k)

/-- Every spending has its own earlier issue of the same label, no clearing between them; and every
issue since the last clearing is spent or still held. -/
structure Accounts (moves : List (Move τ)) (tokens : List (Token τ)) (issuer : Nat → Nat)
    (owners : List Nat) : Prop where
  spend_issue : ∀ i label, moves[i]? = some (.spend label) → issuer i < i ∧
    moves[issuer i]? = some (.issue label) ∧ ∀ j, issuer i < j → j < i → moves[j]? ≠ some .clear
  injective : ∀ i i' label label', moves[i]? = some (.spend label) →
    moves[i']? = some (.spend label') → issuer i = issuer i' → i = i'
  nodup : owners.Nodup
  held : List.Forall₂ (Holds moves issuer) owners tokens
  kept : ∀ k label, moves[k]? = some (.issue label) → Open moves k →
    SpentBy moves issuer k ∨ k ∈ owners

theorem lt_of_getElem? {α : Type u} {xs : List α} {i : Nat} {x : α} (h : xs[i]? = some x) :
    i < xs.length :=
  (List.getElem?_eq_some_iff.mp h).1

theorem exists_of_mem_left {α β : Type*} {R : α → β → Prop} {xs : List α} {ys : List β}
    (h : List.Forall₂ R xs ys) {x : α} (hx : x ∈ xs) : ∃ y ∈ ys, R x y := by
  obtain ⟨i, hi, rfl⟩ := List.mem_iff_getElem.mp hx
  exact ⟨_, List.getElem_mem (h.length_eq ▸ hi), h.get hi (h.length_eq ▸ hi)⟩

theorem open_concat {moves : List (Move τ)} {move : Move τ} (hmove : move ≠ .clear) {k : Nat} :
    Open (moves ++ [move]) k ↔ Open moves k := by
  unfold Open
  constructor
  · intro h j hj hclear
    exact h j hj (getElem?_concat_eq.mpr (Or.inl hclear))
  · intro h j hj hclear
    rcases getElem?_concat_eq.mp hclear with hclear | ⟨-, rfl⟩
    · exact h j hj hclear
    · exact hmove rfl

theorem spentBy_concat {moves : List (Move τ)} {move : Move τ}
    (hmove : ∀ label, move ≠ .spend label) {issuer : Nat → Nat} {k : Nat} :
    SpentBy (moves ++ [move]) issuer k ↔ SpentBy moves issuer k := by
  constructor
  · rintro ⟨i, label, hi, hk⟩
    rcases getElem?_concat_eq.mp hi with hi | ⟨-, h⟩
    · exact ⟨i, label, hi, hk⟩
    · exact absurd h (hmove label)
  · rintro ⟨i, label, hi, hk⟩
    exact ⟨i, label, getElem?_concat_eq.mpr (Or.inl hi), hk⟩

namespace Accounts

variable {moves : List (Move τ)} {tokens : List (Token τ)} {issuer : Nat → Nat}
  {owners : List Nat}

theorem spend_issue_concat (h : Accounts moves tokens issuer owners) {move : Move τ}
    (hmove : ∀ label, move ≠ .spend label) (i : Nat) (label : τ)
    (hi : (moves ++ [move])[i]? = some (.spend label)) :
    moves[i]? = some (.spend label) ∧ issuer i < i ∧
      (moves ++ [move])[issuer i]? = some (.issue label) ∧
        ∀ j, issuer i < j → j < i → (moves ++ [move])[j]? ≠ some .clear := by
  rcases getElem?_concat_eq.mp hi with hi | ⟨-, heq⟩
  · obtain ⟨hlt, hissue, hclear⟩ := h.spend_issue i label hi
    refine ⟨hi, hlt, getElem?_concat_eq.mpr (Or.inl hissue), fun j hij hji hj => ?_⟩
    rcases getElem?_concat_eq.mp hj with hj | ⟨rfl, -⟩
    · exact hclear j hij hji hj
    · have := lt_of_getElem? hi
      omega
  · exact absurd heq (hmove label)

theorem holds_concat {move : Move τ} (hclear : move ≠ .clear)
    (hmove : ∀ label, move ≠ .spend label) {k : Nat} {token : Token τ}
    (h : Holds moves issuer k token) : Holds (moves ++ [move]) issuer k token := by
  obtain ⟨hissue, hopen, hspent⟩ := h
  exact ⟨getElem?_concat_eq.mpr (Or.inl hissue), (open_concat hclear).mpr hopen,
    hspent.trans (spentBy_concat hmove).symm⟩

section

variable (h : Accounts moves tokens issuer owners)

include h

theorem forget {kept : List (Token τ)}
    (hkept : Forgets tokens kept) : ∃ owners', Accounts moves kept issuer owners' := by
  cases hkept with
  | none => exact ⟨owners, h⟩
  | spent n token hget hspent =>
      have hlength := h.held.length_eq
      have hn : n < owners.length := by
        have := lt_of_getElem? hget
        omega
      have hholds : Holds moves issuer owners[n] token := by
        have hall := List.forall₂_iff_get.mp h.held
        have htoken := List.getElem?_eq_some_iff.mp hget
        have := hall.2 n hn htoken.1
        simpa [htoken.2] using this
      refine ⟨owners.eraseIdx n, h.spend_issue, h.injective,
        h.nodup.sublist (List.eraseIdx_sublist owners n), ?_, ?_⟩
      · rw [List.eraseIdx_eq_take_drop_succ, List.eraseIdx_eq_take_drop_succ]
        exact List.rel_append (List.forall₂_take n h.held) (List.forall₂_drop (n + 1) h.held)
      · intro k label hk hopen
        rcases h.kept k label hk hopen with hspentBy | hmem
        · exact Or.inl hspentBy
        · rcases eq_or_ne k owners[n] with rfl | hne
          · exact Or.inl (hholds.2.2.mp hspent)
          · right
            rw [List.mem_eraseIdx_iff_getElem?]
            obtain ⟨m, hm, hk⟩ := List.getElem_of_mem hmem
            refine ⟨m, fun hmn => hne ?_, by rw [List.getElem?_eq_getElem hm, hk]⟩
            subst hmn
            exact hk.symm

theorem skip : Accounts (moves ++ [.skip]) tokens issuer owners where
  spend_issue i label hi := (h.spend_issue_concat (by simp) i label hi).2
  injective i i' label label' hi hi' := h.injective i i' label label'
    (h.spend_issue_concat (by simp) i label hi).1 (h.spend_issue_concat (by simp) i' label' hi').1
  nodup := h.nodup
  held := h.held.imp fun _ _ hholds => holds_concat (by simp) (by simp) hholds
  kept k label hk hopen := by
    rcases getElem?_concat_eq.mp hk with hk | ⟨-, heq⟩
    · rw [spentBy_concat (by simp)]
      exact h.kept k label hk ((open_concat (by simp)).mp hopen)
    · contradiction

theorem issue (label : τ) : Accounts (moves ++ [.issue label]) (tokens ++ [⟨label, false⟩]) issuer
      (owners ++ [moves.length]) where
  spend_issue i label' hi := (h.spend_issue_concat (by simp) i label' hi).2
  injective i i' label₁ label₂ hi hi' := h.injective i i' label₁ label₂
    (h.spend_issue_concat (by simp) i label₁ hi).1 (h.spend_issue_concat (by simp) i' label₂ hi').1
  nodup := by
    refine List.nodup_append.mpr ⟨h.nodup, by simp, ?_⟩
    intro k hk k' hk'
    obtain ⟨token, -, hholds⟩ := exists_of_mem_left h.held hk
    have := lt_of_getElem? hholds.1
    rw [List.mem_singleton.mp hk']
    omega
  held := by
    refine List.rel_append (h.held.imp fun _ _ hholds => holds_concat (by simp) (by simp) hholds) ?_
    refine .cons ⟨getElem?_concat_eq.mpr (Or.inr ⟨rfl, rfl⟩), ?_, ?_⟩ .nil
    · intro j hj hclear
      have := lt_of_getElem? hclear
      simp only [List.length_append, List.length_singleton] at this
      omega
    · refine iff_of_false (by simp) ?_
      rintro ⟨i, label', hi, hissuer⟩
      obtain ⟨hi, hlt, -⟩ := h.spend_issue_concat (by simp) i label' hi
      have := lt_of_getElem? hi
      omega
  kept k label' hk hopen := by
    rcases getElem?_concat_eq.mp hk with hk | ⟨rfl, -⟩
    · rw [spentBy_concat (by simp)]
      rcases h.kept k label' hk ((open_concat (by simp)).mp hopen) with hspent | hmem
      · exact Or.inl hspent
      · exact Or.inr (List.mem_append_left _ hmem)
    · exact Or.inr (by simp)

theorem clear : Accounts (moves ++ [.clear]) [] issuer [] where
  spend_issue i label hi := (h.spend_issue_concat (by simp) i label hi).2
  injective i i' label label' hi hi' := h.injective i i' label label'
    (h.spend_issue_concat (by simp) i label hi).1 (h.spend_issue_concat (by simp) i' label' hi').1
  nodup := List.nodup_nil
  held := .nil
  kept k label hk hopen := by
    exfalso
    rcases getElem?_concat_eq.mp hk with hk | ⟨-, heq⟩
    · exact hopen moves.length (lt_of_getElem? hk) (getElem?_concat_eq.mpr (Or.inr ⟨rfl, rfl⟩))
    · contradiction

theorem spend {n : Nat} {label : τ} (hget : tokens[n]? = some ⟨label, false⟩) :
    ∃ issuer', Accounts (moves ++ [.spend label]) (tokens.set n ⟨label, true⟩) issuer' owners := by
  have hlength := h.held.length_eq
  have hn : n < owners.length := by
    have := lt_of_getElem? hget
    omega
  have hholds : ∀ m (hm : m < owners.length) token, tokens[m]? = some token →
      Holds moves issuer owners[m] token := by
    intro m hm token htoken
    have htoken := List.getElem?_eq_some_iff.mp htoken
    have := (List.forall₂_iff_get.mp h.held).2 m hm htoken.1
    simpa [htoken.2] using this
  obtain ⟨hissue, hopen, hspent⟩ := hholds n hn _ hget
  have hunspent : ¬ SpentBy moves issuer owners[n] := fun hs => by simpa using hspent.mpr hs
  -- earlier spendings keep their issue, the new one takes the owner of position `n`
  have hold : ∀ i, i < moves.length →
      Function.update issuer moves.length owners[n] i = issuer i := by
    intro i hi
    exact Function.update_of_ne (by omega) _ _
  have hnew : Function.update issuer moves.length owners[n] moves.length = owners[n] :=
    Function.update_self _ _ _
  have hcases : ∀ i label', (moves ++ [Move.spend label])[i]? = some (.spend label') →
      moves[i]? = some (.spend label') ∧ i < moves.length ∨ i = moves.length ∧ label = label' := by
    intro i label' hi
    rcases getElem?_concat_eq.mp hi with hi | ⟨rfl, heq⟩
    · exact Or.inl ⟨hi, lt_of_getElem? hi⟩
    · cases heq
      exact Or.inr ⟨rfl, rfl⟩
  have hspentBy : ∀ k, SpentBy (moves ++ [Move.spend label])
      (Function.update issuer moves.length owners[n]) k ↔
        SpentBy moves issuer k ∨ k = owners[n] := by
    intro k
    constructor
    · rintro ⟨i, label', hi, hk⟩
      rcases hcases i label' hi with ⟨hi, hlt⟩ | ⟨rfl, -⟩
      · exact Or.inl ⟨i, label', hi, by rw [← hk, hold i hlt]⟩
      · exact Or.inr (by rw [← hk, hnew])
    · rintro (⟨i, label', hi, hk⟩ | rfl)
      · exact ⟨i, label', getElem?_concat_eq.mpr (Or.inl hi), by
          rw [hold i (lt_of_getElem? hi), hk]⟩
      · exact ⟨moves.length, label, getElem?_concat_eq.mpr (Or.inr ⟨rfl, rfl⟩), hnew⟩
  refine ⟨Function.update issuer moves.length owners[n], ?_, ?_, h.nodup, ?_, ?_⟩
  · intro i label' hi
    rcases hcases i label' hi with ⟨hi, hlt⟩ | ⟨rfl, rfl⟩
    · obtain ⟨hearlier, hissue, hclear⟩ := h.spend_issue i label' hi
      rw [hold i hlt]
      refine ⟨hearlier, getElem?_concat_eq.mpr (Or.inl hissue), fun j hij hji hj => ?_⟩
      rcases getElem?_concat_eq.mp hj with hj | ⟨-, heq⟩
      · exact hclear j hij hji hj
      · contradiction
    · rw [hnew]
      refine ⟨lt_of_getElem? hissue, getElem?_concat_eq.mpr (Or.inl hissue), fun j hij hji hj => ?_⟩
      rcases getElem?_concat_eq.mp hj with hj | ⟨-, heq⟩
      · exact hopen j hij hj
      · contradiction
  · intro i i' label₁ label₂ hi hi' heq
    rcases hcases i label₁ hi with ⟨hi, hlt⟩ | ⟨rfl, -⟩
    · rcases hcases i' label₂ hi' with ⟨hi', hlt'⟩ | ⟨rfl, -⟩
      · rw [hold i hlt, hold i' hlt'] at heq
        exact h.injective i i' label₁ label₂ hi hi' heq
      · rw [hold i hlt, hnew] at heq
        exact absurd ⟨i, label₁, hi, heq⟩ hunspent
    · rcases hcases i' label₂ hi' with ⟨hi', hlt'⟩ | ⟨rfl, -⟩
      · rw [hnew, hold i' hlt'] at heq
        exact absurd ⟨i', label₂, hi', heq.symm⟩ hunspent
      · rfl
  · rw [List.forall₂_iff_get]
    refine ⟨by rw [List.length_set, hlength], fun m hm hm' => ?_⟩
    have hopen' : Open (moves ++ [Move.spend label]) owners[m] := by
      have hm' : m < tokens.length := by rwa [List.length_set] at hm'
      exact (open_concat (by simp)).mpr (hholds m hm _ (List.getElem?_eq_getElem hm')).2.1
    simp only [List.get_eq_getElem, List.getElem_set]
    split
    · rename_i hmn
      subst hmn
      exact ⟨getElem?_concat_eq.mpr (Or.inl hissue), hopen',
        iff_of_true rfl ((hspentBy _).mpr (Or.inr rfl))⟩
    · rename_i hmn
      have hm' : m < tokens.length := by rwa [List.length_set] at hm'
      obtain ⟨hissue', -, hspent'⟩ := hholds m hm _ (List.getElem?_eq_getElem hm')
      have hne : owners[m] ≠ owners[n] := fun heq =>
        hmn ((List.Nodup.getElem_inj_iff h.nodup).mp heq).symm
      refine ⟨getElem?_concat_eq.mpr (Or.inl hissue'), hopen', hspent'.trans ?_⟩
      rw [hspentBy]
      exact ⟨Or.inl, fun hor => hor.resolve_right hne⟩
  · intro k label' hk hopen'
    rcases getElem?_concat_eq.mp hk with hk | ⟨-, heq⟩
    · rcases h.kept k label' hk ((open_concat (by simp)).mp hopen') with hs | hmem
      · exact Or.inl ((hspentBy k).mpr (Or.inl hs))
      · exact Or.inr hmem
    · contradiction

end

end Accounts

theorem exists_accounts {moves : List (Move τ)} {tokens : List (Token τ)}
    (hrun : Run (store τ) moves tokens) : ∃ issuer owners, Accounts moves tokens issuer owners := by
  refine hrun.invariant (P := fun moves tokens => ∃ issuer owners,
    Accounts moves tokens issuer owners) ?_ ?_
  · exact ⟨id, [], by simp, by simp, List.nodup_nil, .nil, by simp⟩
  · rintro past s e s' ⟨issuer, owners, h⟩ hstep
    cases hstep with
    | issue label hkept =>
        obtain ⟨owners, h⟩ := h.forget hkept
        exact ⟨issuer, _, h.issue label⟩
    | spend n label hget =>
        obtain ⟨issuer, h⟩ := h.spend hget
        exact ⟨issuer, owners, h⟩
    | clear => exact ⟨issuer, [], h.clear⟩
    | skip hkept =>
        obtain ⟨owners, h⟩ := h.forget hkept
        exact ⟨issuer, owners, h.skip⟩

end NightWatch.Lib.OneShot
