import NightWatch.Lib.Guard

/-!
Ordered chains of checks that stop at the first denial. A check may change the state
whether it passes or denies, and it may fail altogether.
-/

namespace NightWatch.Lib.GateChain

universe u

inductive Verdict (δ : Type u) where
  | pass
  | deny (code : δ)
  | notEvaluated

structure Ending (γ δ σ : Type u) where
  outcomes : List (γ × Verdict δ)
  denial : Option (γ × δ)
  state : σ

variable {γ δ ε σ : Type u} (check : γ → σ → Except ε (Option δ × σ))

def chain : List γ → σ → Except ε (Ending γ δ σ)
  | [], s => .ok ⟨[], none, s⟩
  | gate :: rest, s =>
      match check gate s with
      | .error e => .error e
      | .ok (some code, s') =>
          .ok ⟨(gate, .deny code) :: rest.map (·, .notEvaluated), some (gate, code), s'⟩
      | .ok (none, s') =>
          (chain rest s').map fun ending =>
            ⟨(gate, .pass) :: ending.outcomes, ending.denial, ending.state⟩

/-- The checks of a list of gates pass one after the other. -/
inductive Passes : List γ → σ → σ → Prop
  | nil (s : σ) : Passes [] s s
  | cons {gate : γ} {rest : List γ} {s s' s'' : σ} (hcheck : check gate s = .ok (none, s'))
      (hrest : Passes rest s' s'') : Passes (gate :: rest) s s''

/-- Everything a chain can do: all of its gates pass, or the first that does not
denies or fails. -/
inductive Course (gates : List γ) (s : σ) : Except ε (Ending γ δ σ) → Prop
  | passed {s' : σ} (hpasses : Passes check gates s s') :
      Course gates s (.ok ⟨gates.map (·, .pass), none, s'⟩)
  | denied {before after : List γ} {gate : γ} {code : δ} {s' s'' : σ}
      (hgates : gates = before ++ gate :: after) (hpasses : Passes check before s s')
      (hcheck : check gate s' = .ok (some code, s'')) :
      Course gates s (.ok ⟨before.map (·, .pass) ++ (gate, .deny code) ::
        after.map (·, .notEvaluated), some (gate, code), s''⟩)
  | failed {before after : List γ} {gate : γ} {e : ε} {s' : σ}
      (hgates : gates = before ++ gate :: after) (hpasses : Passes check before s s')
      (hcheck : check gate s' = .error e) : Course gates s (.error e)

variable {check}

theorem course_cons {gate : γ} {rest : List γ} {s s' : σ} {result : Except ε (Ending γ δ σ)}
    (hcheck : check gate s = .ok (none, s')) (h : Course check rest s' result) :
    Course check (gate :: rest) s (result.map fun ending =>
      ⟨(gate, .pass) :: ending.outcomes, ending.denial, ending.state⟩) := by
  cases h with
  | passed hpasses => exact .passed (.cons hcheck hpasses)
  | denied hgates hpasses hdeny =>
      subst hgates
      exact .denied rfl (.cons hcheck hpasses) hdeny
  | failed hgates hpasses herror =>
      subst hgates
      exact .failed rfl (.cons hcheck hpasses) herror

theorem course_chain (gates : List γ) (s : σ) : Course check gates s (chain check gates s) := by
  induction gates generalizing s with
  | nil => exact .passed (.nil s)
  | cons gate rest ih =>
      rw [chain]
      rcases hcheck : check gate s with e | ⟨denial, s'⟩
      · exact .failed (List.nil_append _).symm (.nil s) hcheck
      · cases denial with
        | some code => exact .denied (List.nil_append _).symm (.nil s) hcheck
        | none => exact course_cons hcheck (ih s')

theorem passes_append (before after : List γ) {s s'' : σ} : Passes check (before ++ after) s s'' ↔
      ∃ s', Passes check before s s' ∧ Passes check after s' s'' := by
  induction before generalizing s with
  | nil =>
      constructor
      · intro h
        exact ⟨s, .nil s, h⟩
      · rintro ⟨_, hnil, h⟩
        cases hnil
        exact h
  | cons gate rest ih =>
      constructor
      · intro h
        cases h with
        | cons hcheck hrest =>
            obtain ⟨s', hbefore, hafter⟩ := ih.mp hrest
            exact ⟨s', .cons hcheck hbefore, hafter⟩
      · rintro ⟨s', hbefore, hafter⟩
        cases hbefore with
        | cons hcheck hrest => exact .cons hcheck (ih.mpr ⟨s', hrest, hafter⟩)

theorem Passes.preserves {P : σ → Prop} {gates : List γ} {s s' : σ} (h : Passes check gates s s')
    (hkeeps : ∀ gate ∈ gates, ∀ s s', check gate s = .ok (none, s') → P s → P s') (hs : P s) :
    P s' := by
  induction h with
  | nil => exact hs
  | cons hcheck hrest ih =>
      apply ih
      · intro gate hgate
        exact hkeeps gate (List.mem_cons_of_mem _ hgate)
      · exact hkeeps _ List.mem_cons_self _ _ hcheck hs

end NightWatch.Lib.GateChain
