import NightWatch.Lib.Machine

/-!
Systems whose steps are computed: their runs are evaluations of lists of events.
-/

namespace NightWatch.Lib.StepFunction

open Lib.Machine

universe u v

variable {σ : Type u} {ε : Type v}

def ofFunction (start : σ) (next : σ → ε → Option σ) : System σ ε where
  start := start
  step s e s' := next s e = some s'

def evaluate (next : σ → ε → Option σ) : σ → List ε → Option σ
  | s, [] => some s
  | s, e :: rest => (next s e).bind fun s' => evaluate next s' rest

/-- The steps that meet a condition. -/
def restrict (next : σ → ε → Option σ) (fits : σ → ε → Prop) [∀ s e, Decidable (fits s e)]
    (s : σ) (e : ε) : Option σ :=
  if fits s e then next s e else none

variable {start s s' : σ} {next : σ → ε → Option σ} {events : List ε}

theorem run_append {past : List ε} (hrun : Run (ofFunction start next) past s)
    (h : evaluate next s events = some s') : Run (ofFunction start next) (past ++ events) s' := by
  induction events generalizing past s with
  | nil =>
      obtain rfl := Option.some.inj h
      rw [List.append_nil]
      exact hrun
  | cons e rest ih =>
      obtain ⟨middle, hnext, hrest⟩ := Option.bind_eq_some_iff.mp h
      have hlonger : Run (ofFunction start next) (past ++ [e]) middle := hrun.step hnext
      have hall := ih hlonger hrest
      rw [List.append_assoc] at hall
      exact hall

theorem run_of_evaluate (h : evaluate next start events = some s) :
    Run (ofFunction start next) events s := run_append .start h

variable {fits : σ → ε → Prop}

theorem guarded_run_append [∀ s e, Decidable (fits s e)]
    {past : List ε} (hrun : Run ((ofFunction start next).guarded fits) past s)
    (h : evaluate (restrict next fits) s events = some s') :
    Run ((ofFunction start next).guarded fits) (past ++ events) s' := by
  induction events generalizing past s with
  | nil =>
      obtain rfl := Option.some.inj h
      rw [List.append_nil]
      exact hrun
  | cons e rest ih =>
      obtain ⟨middle, hnext, hrest⟩ := Option.bind_eq_some_iff.mp h
      rw [restrict] at hnext
      split at hnext
      · rename_i hfits
        have hlonger : Run ((ofFunction start next).guarded fits) (past ++ [e]) middle :=
          hrun.step ⟨hnext, hfits⟩
        have hall := ih hlonger hrest
        rw [List.append_assoc] at hall
        exact hall
      · contradiction

theorem guarded_run_of_evaluate [∀ s e, Decidable (fits s e)]
    (h : evaluate (restrict next fits) start events = some s) :
    Run ((ofFunction start next).guarded fits) events s := guarded_run_append .start h

end NightWatch.Lib.StepFunction
