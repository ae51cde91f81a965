import NightWatch.Lib.JsText

/-!
Regular expressions without anchors and look-around. A search succeeds when some choice of the
alternatives and repetitions matches somewhere, whatever order they are tried in.
-/

namespace NightWatch.Lib.Regex

open Lib.JsText

inductive Pattern where
  | empty
  | one (test : Char → Bool)
  | many (test : Char → Bool)
  | seq (p q : Pattern)
  | alt (p q : Pattern)

def skips (test : Char → Bool) : JsString → List JsString
  | [] => [[]]
  | c :: s => (c :: s) :: if test c then skips test s else []

def rests : Pattern → JsString → List JsString
  | .empty, s => [s]
  | .one _, [] => []
  | .one test, c :: s => if test c then [s] else []
  | .many test, s => skips test s
  | .seq p q, s => (rests p s).flatMap (rests q)
  | .alt p q, s => rests p s ++ rests q s

/-- `p.test(s)`. -/
def found (p : Pattern) (s : JsString) : Bool := s.tails.any fun t => !(rests p t).isEmpty

def char (c : Char) : Pattern := .one (· == c)

def word (text : String) : Pattern :=
  text.toList.foldr (fun c rest => .seq (.one fun d => d.toLower == c) rest) .empty

def optional (p : Pattern) : Pattern := .alt p .empty

/-- `[...]{n,}`. -/
def atLeast (test : Char → Bool) : Nat → Pattern
  | 0 => .many test
  | n + 1 => .seq (.one test) (atLeast test n)

/-- `[...]{n}`. -/
def exactly (test : Char → Bool) : Nat → Pattern
  | 0 => .empty
  | n + 1 => .seq (.one test) (exactly test n)

def oneOf (last : Pattern) (ps : List Pattern) : Pattern := ps.foldr .alt last

section Context

variable {p : Pattern} {s : JsString}

theorem found_iff : found p s = true ↔ ∃ a t, s = a ++ t ∧ rests p t ≠ [] := by
  rw [found, List.any_eq_true]
  constructor
  · rintro ⟨t, ht, hrests⟩
    obtain ⟨a, ha⟩ := (List.mem_tails _ _).mp ht
    refine ⟨a, t, ha.symm, ?_⟩
    simpa using hrests
  · rintro ⟨a, t, rfl, hrests⟩
    refine ⟨t, (List.mem_tails _ _).mpr ⟨a, rfl⟩, ?_⟩
    simpa using hrests

theorem mem_skips_append {test : Char → Bool} {r : JsString} (b : JsString)
    (h : r ∈ skips test s) : r ++ b ∈ skips test (s ++ b) := by
  induction s with
  | nil =>
      obtain rfl := List.mem_singleton.mp h
      cases b with
      | nil => exact List.mem_singleton_self _
      | cons c b => exact List.mem_cons_self
  | cons c s ih =>
      rw [skips] at h
      rw [List.cons_append, skips]
      rcases List.mem_cons.mp h with rfl | h
      · exact List.mem_cons_self
      · apply List.mem_cons_of_mem
        by_cases hc : test c = true
        · rw [if_pos hc] at h ⊢
          exact ih h
        · rw [if_neg hc] at h
          contradiction

theorem mem_rests_append {r : JsString} (b : JsString) (h : r ∈ rests p s) :
    r ++ b ∈ rests p (s ++ b) := by
  induction p generalizing s r with
  | empty =>
      obtain rfl := List.mem_singleton.mp h
      exact List.mem_singleton_self _
  | one test =>
      cases s with
      | nil => contradiction
      | cons c s =>
          rw [rests] at h
          rw [List.cons_append, rests]
          by_cases hc : test c = true
          · rw [if_pos hc] at h ⊢
            obtain rfl := List.mem_singleton.mp h
            exact List.mem_singleton_self _
          · rw [if_neg hc] at h
            contradiction
  | many test => exact mem_skips_append b h
  | seq p q ihp ihq =>
      obtain ⟨middle, hmiddle, hr⟩ := List.mem_flatMap.mp h
      exact List.mem_flatMap.mpr ⟨middle ++ b, ihp hmiddle, ihq hr⟩
  | alt p q ihp ihq =>
      rcases List.mem_append.mp h with hp | hq
      · exact List.mem_append_left _ (ihp hp)
      · exact List.mem_append_right _ (ihq hq)

theorem found_append (a b : JsString) (h : found p s = true) : found p (a ++ (s ++ b)) = true := by
  obtain ⟨before, t, rfl, hrests⟩ := found_iff.mp h
  obtain ⟨r, hr⟩ := List.exists_mem_of_ne_nil _ hrests
  refine found_iff.mpr ⟨a ++ before, t ++ b, ?_, ?_⟩
  · rw [List.append_assoc, List.append_assoc]
  · exact List.ne_nil_of_mem (mem_rests_append b hr)

end Context

section Starts

def nullable : Pattern → Bool
  | .empty | .many _ => true
  | .one _ => false
  | .seq p q => nullable p && nullable q
  | .alt p q => nullable p || nullable q

def starts : Pattern → Char → Bool
  | .empty, _ => false
  | .one test, c | .many test, c => test c
  | .seq p q, c => starts p c || nullable p && starts q c
  | .alt p q, c => starts p c || starts q c

variable {p : Pattern} {s : JsString} {c : Char}

theorem eq_of_mem_rests {r : JsString} (hc : starts p c = false) (h : r ∈ rests p (c :: s)) :
    nullable p = true ∧ r = c :: s := by
  induction p generalizing r with
  | empty => exact ⟨rfl, List.mem_singleton.mp h⟩
  | one test =>
      change r ∈ (if test c = true then [s] else []) at h
      rw [show test c = false from hc] at h
      contradiction
  | many test =>
      change r ∈ (c :: s) :: (if test c = true then skips test s else []) at h
      rw [show test c = false from hc] at h
      exact ⟨rfl, List.mem_singleton.mp h⟩
  | seq p q ihp ihq =>
      obtain ⟨hp, hq⟩ := Bool.or_eq_false_iff.mp hc
      obtain ⟨middle, hmiddle, hr⟩ := List.mem_flatMap.mp h
      obtain ⟨hnullable, rfl⟩ := ihp hp hmiddle
      rw [hnullable, Bool.true_and] at hq
      obtain ⟨hnullable', rfl⟩ := ihq hq hr
      exact ⟨Bool.and_eq_true_iff.mpr ⟨hnullable, hnullable'⟩, rfl⟩
  | alt p q ihp ihq =>
      obtain ⟨hp, hq⟩ := Bool.or_eq_false_iff.mp hc
      rcases List.mem_append.mp h with h | h
      · obtain ⟨hnullable, heq⟩ := ihp hp h
        exact ⟨Bool.or_eq_true_iff.mpr (.inl hnullable), heq⟩
      · obtain ⟨hnullable, heq⟩ := ihq hq h
        exact ⟨Bool.or_eq_true_iff.mpr (.inr hnullable), heq⟩

theorem nullable_of_mem_rests_nil {r : JsString} (h : r ∈ rests p []) :
    nullable p = true ∧ r = [] := by
  induction p generalizing r with
  | empty => exact ⟨rfl, List.mem_singleton.mp h⟩
  | one test => contradiction
  | many test => exact ⟨rfl, List.mem_singleton.mp h⟩
  | seq p q ihp ihq =>
      obtain ⟨middle, hmiddle, hr⟩ := List.mem_flatMap.mp h
      obtain ⟨hnullable, rfl⟩ := ihp hmiddle
      obtain ⟨hnullable', rfl⟩ := ihq hr
      exact ⟨Bool.and_eq_true_iff.mpr ⟨hnullable, hnullable'⟩, rfl⟩
  | alt p q ihp ihq =>
      rcases List.mem_append.mp h with h | h
      · obtain ⟨hnullable, heq⟩ := ihp h
        exact ⟨Bool.or_eq_true_iff.mpr (.inl hnullable), heq⟩
      · obtain ⟨hnullable, heq⟩ := ihq h
        exact ⟨Bool.or_eq_true_iff.mpr (.inr hnullable), heq⟩

theorem found_eq_false (hp : nullable p = false) (h : ∀ c ∈ s, starts p c = false) :
    found p s = false := by
  rw [Bool.eq_false_iff]
  intro hfound
  obtain ⟨a, t, rfl, hrests⟩ := found_iff.mp hfound
  obtain ⟨r, hr⟩ := List.exists_mem_of_ne_nil _ hrests
  have hnullable : nullable p = true := by
    cases t with
    | nil => exact (nullable_of_mem_rests_nil hr).1
    | cons c t =>
        have hc : starts p c = false := h c (List.mem_append_right _ List.mem_cons_self)
        exact (eq_of_mem_rests hc hr).1
  rw [hp] at hnullable
  contradiction

end Starts

end NightWatch.Lib.Regex
