import NightWatch.Lib.Threads

/-!
Threads that rely on being new. What holds of a thread that has done nothing yet is kept by
all others, so a program may be verified from it.
-/

namespace NightWatch.Lib.Calls

open Lib.Machine Lib.Threads

variable {σ : Type} {E : Effects σ} {α ι : Type}

structure FreshContract (A : Agreement σ) (prog : ι → Program E α) where
  Fresh : Nat → σ → Prop
  others : ∀ {i j s s'}, i ≠ j → A.guarantee i s s' → Fresh j s → Fresh j s'
  Q : ι → Nat → α → σ → Prop
  triple : ∀ label i, Triple A i (Fresh i) (prog label) (Q label i)

namespace FreshContract

variable {A : Agreement σ} {prog : ι → Program E α} (c : FreshContract A prog)

/-- The rest of every thread is still safe, and the threads to come are new. -/
structure Kept (s : Pool E α ι) : Prop where
  inv : A.Inv s.shared
  safe : ∀ i label p, s.threads[i]? = some (label, some p) →
    Safe A i (fun a s => A.Inv s ∧ c.Q label i a s) p s.shared
  fresh : ∀ i, s.threads.length ≤ i → c.Fresh i s.shared

variable {s : Pool E α ι}

theorem kept_step {s' : Pool E α ι} {e : Event ι} (h : c.Kept s) (hstep : Step prog s e s') :
    c.Kept s' := by
  obtain ⟨hinv, hsafe, hfresh⟩ := h
  obtain ⟨hinv', hsafe'⟩ := safe_step hinv hsafe
    (fun label => c.triple label _ s.shared hinv (hfresh _ (Nat.le_refl _))) hstep
  refine ⟨hinv', hsafe', fun j hj => ?_⟩
  cases hstep with
  | start label =>
      rw [List.length_append] at hj
      exact hfresh j (Nat.le_of_add_right_le hj)
  | @perform i label op next reply shared hthread hperform =>
      rw [List.length_set] at hj
      have hlt : i < s.threads.length := (List.getElem?_eq_some_iff.mp hthread).1
      obtain ⟨hG, -⟩ := hsafe i label _ hthread s.shared (A.refl i s.shared) reply shared hperform
      exact c.others (by omega) hG (hfresh j hj)
  | crash hthread =>
      rw [List.length_set] at hj
      exact hfresh j hj

variable {history : List (Event ι)}

theorem kept_of_run {start : σ} (hstart : A.Inv start) (hfresh : ∀ i, c.Fresh i start) (hrun : Run (system prog start) history s) :
    c.Kept s := by
  refine hrun.state_invariant (P := c.Kept) ⟨hstart, by simp [system], fun i _ => hfresh i⟩ ?_
  intro s e s' hkept hstep
  exact c.kept_step hkept hstep

theorem result_of_run {start : σ} (hstart : A.Inv start) (hfresh : ∀ i, c.Fresh i start) (hrun : Run (system prog start) history s)
    {i : Nat} {label : ι} {a : α} (hdone : s.threads[i]? = some (label, some (.done a))) :
    c.Q label i a s.shared :=
  ((c.kept_of_run hstart hfresh hrun).safe i label _ hdone s.shared (A.refl i s.shared)).2

end FreshContract

section Schedules

variable {prog : ι → Program E α} {start : σ} (answer : Nat → (op : E.Op) → σ → E.Reply op × σ)

def play (prog : ι → Program E α) (s : Pool E α ι) : Event ι → Pool E α ι
  | .start label => ⟨s.shared, s.threads ++ [(label, some (prog label))]⟩
  | .perform i =>
      match s.threads[i]? with
      | some (label, some (.call op next)) =>
          ⟨(answer i op s.shared).2, s.threads.set i (label, some (next (answer i op s.shared).1))⟩
      | _ => s
  | .crash i =>
      match s.threads[i]? with
      | some (label, some (.call _ _)) => ⟨s.shared, s.threads.set i (label, none)⟩
      | _ => s

variable {answer}

theorem play_step (hanswer : ∀ i op s, E.perform i op s (answer i op s).1 (answer i op s).2)
    (s : Pool E α ι) (event : Event ι) :
    play answer prog s event = s ∨ Step prog s event (play answer prog s event) := by
  cases event with
  | start label => exact .inr (.start label)
  | perform i =>
      simp only [play]
      split
      · exact .inr (.perform ‹_› (hanswer i _ _))
      · exact .inl rfl
  | crash i =>
      simp only [play]
      split
      · exact .inr (.crash ‹_›)
      · exact .inl rfl

theorem exists_run_of_play
    (hanswer : ∀ i op s, E.perform i op s (answer i op s).1 (answer i op s).2)
    (schedule : List (Event ι)) {history : List (Event ι)} {s : Pool E α ι}
    (hrun : Run (system prog start) history s) :
    ∃ history', Run (system prog start) history' (schedule.foldl (play answer prog) s) := by
  induction schedule generalizing history s with
  | nil => exact ⟨history, hrun⟩
  | cons event rest ih =>
      rw [List.foldl_cons]
      rcases play_step hanswer s event with hsame | hstep
      · rw [hsame]
        exact ih hrun
      · exact ih (hrun.step hstep)

end Schedules

end NightWatch.Lib.Calls
