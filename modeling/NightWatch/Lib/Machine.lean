import Mathlib

/-!
Labelled transition systems and their runs from the start. A run keeps its whole
history, so an invariant may speak of everything that has happened so far.
-/

namespace NightWatch.Lib.Machine

universe u v

structure System (σ : Type u) (ε : Type v) where
  start : σ
  step : σ → ε → σ → Prop

variable {σ τ : Type u} {ε φ : Type v}

inductive Run (m : System σ ε) : List ε → σ → Prop
  | start : Run m [] m.start
  | step {past : List ε} {s s' : σ} {e : ε} (hrun : Run m past s) (hstep : m.step s e s') :
      Run m (past ++ [e]) s'

def Reachable (m : System σ ε) (s : σ) : Prop := ∃ history, Run m history s

/-- The steps of a system that meet a condition on the state before them. -/
def System.guarded (m : System σ ε) (fits : σ → ε → Prop) : System σ ε where
  start := m.start
  step s e s' := m.step s e s' ∧ fits s e

variable {history : List ε} {m : System σ ε} {s : σ}

theorem Run.of_guarded {fits : σ → ε → Prop}
    (hrun : Run (m.guarded fits) history s) : Run m history s := by
  induction hrun with
  | start => exact .start
  | step hrun hstep ih => exact ih.step hstep.1

theorem Run.invariant {P : List ε → σ → Prop} (hstart : P [] m.start)
    (hstep : ∀ past s e s', P past s → m.step s e s' → P (past ++ [e]) s')
    {history : List ε} {s : σ} (hrun : Run m history s) : P history s := by
  induction hrun with
  | start => exact hstart
  | step hrun hlast ih => exact hstep _ _ _ _ ih hlast

theorem Run.state_invariant {P : σ → Prop} (hstart : P m.start)
    (hstep : ∀ s e s', P s → m.step s e s' → P s') {history : List ε} {s : σ}
    (hrun : Run m history s) : P s :=
  hrun.invariant (P := fun _ s => P s) hstart fun _ s e s' => hstep s e s'

variable {i : Nat}

theorem Run.at (hrun : Run m history s) {e : ε} (hi : history[i]? = some e) :
    ∃ before after, Run m (history.take i) before ∧ m.step before e after := by
  induction hrun with
  | start => simp at hi
  | @step past before after last hrun hstep ih =>
      rcases Nat.lt_or_ge i past.length with hlt | hge
      · rw [List.getElem?_append_left hlt] at hi
        rw [List.take_append_of_le_length (Nat.le_of_lt hlt)]
        exact ih hi
      · rw [List.getElem?_append_right hge] at hi
        have hlast : i = past.length := by
          have := (List.getElem?_eq_some_iff.mp hi).1
          simp only [List.length_singleton] at this
          omega
        subst hlast
        have heq : last = e := by simpa using hi
        exact ⟨before, after, by simpa using hrun, heq ▸ hstep⟩

variable {E : ε → φ → Prop}

theorem Run.simulation {n : System τ φ} {R : σ → τ → Prop} (hstart : R m.start n.start)
    (hstep : ∀ s t e s', R s t → m.step s e s' → ∃ f t', n.step t f t' ∧ E e f ∧ R s' t')
    (hrun : Run m history s) : ∃ image t, Run n image t ∧ List.Forall₂ E history image ∧ R s t := by
  induction hrun with
  | start => exact ⟨[], n.start, .start, .nil, hstart⟩
  | step hrun hlast ih =>
      obtain ⟨image, t, himage, hevents, hrel⟩ := ih
      obtain ⟨f, t', hf, hevent, hrel'⟩ := hstep _ _ _ _ hrel hlast
      exact ⟨image ++ [f], t', himage.step hf, List.rel_append hevents (.cons hevent .nil), hrel'⟩

theorem exists_getElem?_of_forall₂ {image : List φ}
    (h : List.Forall₂ E history image) {e : ε} (hi : history[i]? = some e) :
    ∃ f, image[i]? = some f ∧ E e f := by
  obtain ⟨hlt, rfl⟩ := List.getElem?_eq_some_iff.mp hi
  exact ⟨_, List.getElem?_eq_getElem (h.length_eq ▸ hlt), h.get hlt (h.length_eq ▸ hlt)⟩

theorem getElem?_concat_eq {past : List ε} {e f : ε} :
    (past ++ [e])[i]? = some f ↔ past[i]? = some f ∨ i = past.length ∧ e = f := by
  rw [List.getElem?_append]
  split
  · rename_i hlt
    constructor
    · exact Or.inl
    · rintro (h | ⟨rfl, -⟩)
      · exact h
      · omega
  · rename_i hge
    have hnone : past[i]? = none := List.getElem?_eq_none (by omega)
    rw [hnone, List.getElem?_singleton]
    constructor
    · intro h
      split at h
      · exact Or.inr ⟨by omega, Option.some.inj h⟩
      · contradiction
    · rintro (h | ⟨rfl, rfl⟩)
      · contradiction
      · simp

end NightWatch.Lib.Machine
