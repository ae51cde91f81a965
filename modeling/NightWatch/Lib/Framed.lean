import NightWatch.Lib.Joined
import NightWatch.Lib.Json

/-!
Texts that stand between brackets and commas, and can be read there in one way only: string
literals, and lists of such texts.
-/

namespace NightWatch.Lib.Framed

open Lib.JsText Lib.Joined Lib.Json

def isEnd (c : Char) : Bool := c ∈ [',', ']', '\x7d']

variable {p : Char → Bool}

theorem eq_false_of_isEnd (hp : ∀ d ∈ [',', ']', '\x7d'], p d = false) {c : Char}
    (h : isEnd c = true) : p c = false := hp c (by simpa [isEnd] using h)

theorem isEnd_eq_false (hp : ∀ d ∈ [',', ']', '\x7d'], p d = false) {c : Char}
    (h : p c = true) : isEnd c = false := by
  cases hend : isEnd c with
  | false => rfl
  | true =>
      rw [eq_false_of_isEnd hp hend] at h
      contradiction

theorem isEnd_of_isDigit {c : Char} (h : c.isDigit = true) : isEnd c = false :=
  isEnd_eq_false (by decide) h

def Ends (rest : JsString) : Prop := ∀ c ∈ rest.head?, isEnd c = true

theorem ends_nil : Ends [] := by
  intro c hc
  contradiction

theorem ends_cons {c : Char} (hc : isEnd c = true) (rest : JsString) : Ends (c :: rest) := by
  intro d hd
  rw [← Option.mem_some_iff.mp hd]
  exact hc

/-- The text of `x` can be taken for the text of nothing but what `x` is related to. -/
def Reads {α : Type} (write : α → JsString) (related : α → α → Prop) (legal : α → Prop) (x : α) :
    Prop :=
  ∀ y r r', legal y → Ends r → Ends r' → write x ++ r = write y ++ r' → related x y ∧ r = r'

/-- A text that is not empty and does not start as it could end. -/
def Opens (s : JsString) : Prop := ∃ c t, s = c :: t ∧ isEnd c = false

theorem quoted_append (s rest : JsString) :
    quoted s ++ rest = '"' :: (s.flatMap escape ++ '"' :: rest) := by
  simp [quoted]

theorem quoted_inj {s t r r' : JsString} (h : quoted s ++ r = quoted t ++ r') : s = t ∧ r = r' := by
  rw [quoted_append, quoted_append, List.cons.injEq] at h
  have hread : readString (s.flatMap escape ++ '"' :: r) =
      readString (t.flatMap escape ++ '"' :: r') := by rw [h.2]
  rw [readString_quoted, readString_quoted] at hread
  simpa using hread

theorem word_inj (hp : ∀ c, isEnd c = true → p c = false)
    {s t r r' : JsString} (hs : ∀ c ∈ s, p c = true) (ht : ∀ c ∈ t, p c = true) (hr : Ends r)
    (hr' : Ends r') (h : s ++ r = t ++ r') : s = t ∧ r = r' := by
  have hstop : ∀ {r : JsString}, Ends r → r.takeWhile p = [] := by
    intro r hr
    cases r with
    | nil => rfl
    | cons c r => rw [List.takeWhile_cons, hp c (hr c rfl), if_neg Bool.false_ne_true]
  have htake : (s ++ r).takeWhile p = (t ++ r').takeWhile p := by rw [h]
  rw [List.takeWhile_append_of_pos hs, List.takeWhile_append_of_pos ht, hstop hr, hstop hr',
    List.append_nil, List.append_nil] at htake
  subst htake
  exact ⟨rfl, List.append_cancel_left h⟩

theorem decimal_append_inj {m n : Nat} {r r' : JsString} (hr : Ends r) (hr' : Ends r')
    (h : decimal m ++ r = decimal n ++ r') : m = n ∧ r = r' := by
  obtain ⟨hdecimal, hrest⟩ := word_inj (fun c => eq_false_of_isEnd (by decide))
    (fun c hc => isDigit_of_mem_decimal hc) (fun c hc => isDigit_of_mem_decimal hc) hr hr' h
  exact ⟨decimal_injective hdecimal, hrest⟩

section Lists

variable {α : Type} {write : α → JsString} {related : α → α → Prop} {legal : α → Prop}

def behindCommas (write : α → JsString) (xs : List α) (rest : JsString) : JsString :=
  xs.foldr (fun x s => ',' :: (write x ++ s)) rest

theorem join_append (write : α → JsString) (x : α) (xs : List α) (rest : JsString) :
    join ',' ((x :: xs).map write) ++ rest = write x ++ behindCommas write xs rest := by
  induction xs generalizing x with
  | nil => simp [behindCommas]
  | cons y ys ih =>
      rw [List.map_cons, List.map_cons, join_cons_cons, List.append_assoc, List.cons_append,
        ← List.map_cons, ih y]
      rfl

theorem ends_behindCommas {rest : JsString} (hrest : Ends rest) (xs : List α) :
    Ends (behindCommas write xs rest) := by
  cases xs with
  | nil => exact hrest
  | cons x xs => exact ends_cons rfl _

variable {xs ys : List α} {c : Char} {r r' : JsString}

theorem behindCommas_inj (hc : isEnd c = true) (hcomma : c ≠ ',')
    (hread : ∀ x ∈ xs, Reads write related legal x) (hys : ∀ y ∈ ys, legal y)
    (h : behindCommas write xs (c :: r) = behindCommas write ys (c :: r')) :
    List.Forall₂ related xs ys ∧ r = r' := by
  induction xs generalizing ys with
  | nil =>
      cases ys with
      | nil => exact ⟨List.Forall₂.nil, (List.cons.inj h).2⟩
      | cons y ys => exact absurd (List.cons.inj h).1 hcomma
  | cons x xs ih =>
      cases ys with
      | nil => exact absurd (List.cons.inj h).1.symm hcomma
      | cons y ys =>
          have htail := (List.cons.inj h).2
          obtain ⟨hxy, hrest⟩ := hread x List.mem_cons_self y _ _ (hys y List.mem_cons_self)
            (ends_behindCommas (ends_cons hc r) xs) (ends_behindCommas (ends_cons hc r') ys) htail
          obtain ⟨hall, hr⟩ := ih (fun z hz => hread z (List.mem_cons_of_mem x hz))
            (fun z hz => hys z (List.mem_cons_of_mem y hz)) hrest
          exact ⟨List.Forall₂.cons hxy hall, hr⟩

theorem join_inj (hc : isEnd c = true) (hcomma : c ≠ ',')
    (hread : ∀ x ∈ xs, Reads write related legal x) (hopens : ∀ x ∈ xs, Opens (write x))
    (hys : ∀ y ∈ ys, legal y) (hopens' : ∀ y ∈ ys, Opens (write y))
    (h : join ',' (xs.map write) ++ c :: r = join ',' (ys.map write) ++ c :: r') :
    List.Forall₂ related xs ys ∧ r = r' := by
  cases xs with
  | nil =>
      cases ys with
      | nil => exact ⟨List.Forall₂.nil, (List.cons.inj h).2⟩
      | cons y ys =>
          obtain ⟨d, t, hwrite, hd⟩ := hopens' y List.mem_cons_self
          rw [join_append, hwrite] at h
          have hcd : c = d := (List.cons.inj h).1
          rw [← hcd, hc] at hd
          contradiction
  | cons x xs =>
      cases ys with
      | nil =>
          obtain ⟨d, t, hwrite, hd⟩ := hopens x List.mem_cons_self
          rw [join_append, hwrite] at h
          have hdc : d = c := (List.cons.inj h).1
          rw [hdc, hc] at hd
          contradiction
      | cons y ys =>
          rw [join_append, join_append] at h
          obtain ⟨hxy, hrest⟩ := hread x List.mem_cons_self y _ _ (hys y List.mem_cons_self)
            (ends_behindCommas (ends_cons hc r) xs) (ends_behindCommas (ends_cons hc r') ys) h
          obtain ⟨hall, hr⟩ := behindCommas_inj hc hcomma
            (fun z hz => hread z (List.mem_cons_of_mem x hz))
            (fun z hz => hys z (List.mem_cons_of_mem y hz)) hrest
          exact ⟨List.Forall₂.cons hxy hall, hr⟩

end Lists

end NightWatch.Lib.Framed
