import NightWatch.Lib.Machine

/-!
Programs of atomic operations on a shared state, run by any number of threads that may
crash between two operations. A program is verified alone, against what the other
threads may do in between; threads verified so keep their promises in every interleaving.
-/

namespace NightWatch.Lib.Threads

open Lib.Machine

/-- Atomic operations: what thread `i` may observe of each, and the state it leaves. -/
structure Effects (σ : Type) where
  Op : Type
  Reply : Op → Type
  perform : Nat → (op : Op) → σ → Reply op → σ → Prop

variable {σ : Type} {E : Effects σ} {α β ι : Type}

inductive Program (E : Effects σ) (α : Type) where
  | done (a : α)
  | call (op : E.Op) (next : E.Reply op → Program E α)

namespace Program

def bind : Program E α → (α → Program E β) → Program E β
  | done a, f => f a
  | call op next, f => call op fun reply => (next reply).bind f

instance : Monad (Program E) where
  pure := done
  bind := bind

def evaluate (answer : (op : E.Op) → σ → E.Reply op × σ) : Program E α → σ → α × σ
  | done a, s => (a, s)
  | call op next, s => (next (answer op s).1).evaluate answer (answer op s).2

theorem evaluate_bind {answer : (op : E.Op) → σ → E.Reply op × σ} (p : Program E α)
    (f : α → Program E β) (s : σ) : (p >>= f).evaluate answer s =
      (f (p.evaluate answer s).1).evaluate answer (p.evaluate answer s).2 := by
  induction p generalizing s with
  | done a => rfl
  | call op next ih => exact ih (answer op s).1 (answer op s).2

end Program

/-- What the threads agree on: an invariant, what each may find changed by the others, and
what each promises of its own operations. -/
structure Agreement (σ : Type) where
  Inv : σ → Prop
  rely : Nat → σ → σ → Prop
  guarantee : Nat → σ → σ → Prop
  refl : ∀ i s, rely i s s
  trans : ∀ {i a b c}, rely i a b → rely i b c → rely i a c
  compatible : ∀ {i j s s'}, i ≠ j → guarantee i s s' → rely j s s'
  inv_rely : ∀ {i s s'}, Inv s → rely i s s' → Inv s'
  inv_guarantee : ∀ {i s s'}, Inv s → guarantee i s s' → Inv s'

section Rules

variable (A : Agreement σ) (i : Nat)

/-- From `s`, under interference, every operation keeps the promise of thread `i` and
every result meets `Q`. -/
def Safe (Q : α → σ → Prop) : Program E α → σ → Prop
  | .done a, s => ∀ s', A.rely i s s' → Q a s'
  | .call op next, s => ∀ s', A.rely i s s' → ∀ reply s'', E.perform i op s' reply s'' →
      A.guarantee i s' s'' ∧ Safe Q (next reply) s''

def Triple (P : σ → Prop) (p : Program E α) (Q : α → σ → Prop) : Prop :=
  ∀ s, A.Inv s → P s → Safe A i (fun a s => A.Inv s ∧ Q a s) p s

/-- The others do not make it false. -/
def Stable (P : σ → Prop) : Prop := ∀ {s s'}, A.Inv s → A.rely i s s' → P s → P s'

/-- Neither the others nor the thread itself make it false. -/
structure Lasting (K : σ → Prop) : Prop where
  stable : Stable A i K
  own : ∀ {s s'}, A.Inv s → A.guarantee i s s' → K s → K s'

variable {A i} {P P' K : σ → Prop} {Q Q' : α → σ → Prop} {p : Program E α} {s s' : σ}

theorem Safe.rely (h : Safe A i Q p s) (hR : A.rely i s s') : Safe A i Q p s' := by
  rcases p with a | ⟨op, next⟩
  · exact fun t ht => h t (A.trans hR ht)
  · exact fun t ht => h t (A.trans hR ht)

variable {f : α → Program E β}

theorem Safe.bind {Q' : β → σ → Prop} (h : Safe A i Q p s)
    (hf : ∀ a s, Q a s → Safe A i Q' (f a) s) : Safe A i Q' (p >>= f) s := by
  induction p generalizing s with
  | done a => exact hf a s (h s (A.refl i s))
  | call op next ih =>
      intro t ht reply u hperform
      obtain ⟨hG, hnext⟩ := h t ht reply u hperform
      exact ⟨hG, ih reply hnext⟩

theorem Safe.imp (h : Safe A i Q p s) (hQ : ∀ a s, Q a s → Q' a s) : Safe A i Q' p s := by
  induction p generalizing s with
  | done a => exact fun t ht => hQ a t (h t ht)
  | call op next ih =>
      intro t ht reply u hperform
      obtain ⟨hG, hnext⟩ := h t ht reply u hperform
      exact ⟨hG, ih reply hnext⟩

theorem Safe.frame (hK : Lasting A i K) (h : Safe A i Q p s) (hinv : A.Inv s) (hs : K s) :
    Safe A i (fun a s => Q a s ∧ K s) p s := by
  induction p generalizing s with
  | done a => exact fun t ht => ⟨h t ht, hK.stable hinv ht hs⟩
  | call op next ih =>
      intro t ht reply u hperform
      obtain ⟨hG, hnext⟩ := h t ht reply u hperform
      have ht' := A.inv_rely hinv ht
      have hu := hK.own ht' hG (hK.stable hinv ht hs)
      exact ⟨hG, ih reply hnext (A.inv_guarantee ht' hG) hu⟩

theorem Triple.done {a : α} (hstable : Stable A i (Q a)) (h : ∀ s, A.Inv s → P s → Q a s) :
    Triple A i P (.done a : Program E α) Q := by
  intro s hinv hs t ht
  exact ⟨A.inv_rely hinv ht, hstable hinv ht (h s hinv hs)⟩

theorem Triple.act {op : E.Op} {Q : E.Reply op → σ → Prop} (hP : Stable A i P)
    (hQ : ∀ reply, Stable A i (Q reply))
    (hop : ∀ {s reply s'}, A.Inv s → P s → E.perform i op s reply s' →
      A.guarantee i s s' ∧ Q reply s') : Triple A i P (.call op .done) Q := by
  intro s hinv hs t ht reply u hperform
  have hinv' := A.inv_rely hinv ht
  obtain ⟨hG, hu⟩ := hop hinv' (hP hinv ht hs) hperform
  refine ⟨hG, ?_⟩
  intro v hv
  have hinv'' := A.inv_guarantee hinv' hG
  exact ⟨A.inv_rely hinv'' hv, hQ reply hinv'' hv hu⟩

theorem Triple.bind {Q' : β → σ → Prop} (h : Triple A i P p Q)
    (hf : ∀ a, Triple A i (Q a) (f a) Q') : Triple A i P (p >>= f) Q' := by
  intro s hinv hs
  refine (h s hinv hs).bind ?_
  rintro a t ⟨hinv', hQ⟩
  exact hf a t hinv' hQ

theorem Triple.imp (h : Triple A i P p Q) (hP : ∀ s, A.Inv s → P' s → P s)
    (hQ : ∀ a s, A.Inv s → Q a s → Q' a s) : Triple A i P' p Q' := by
  intro s hinv hs
  refine (h s hinv (hP s hinv hs)).imp ?_
  rintro a t ⟨hinv', ha⟩
  exact ⟨hinv', hQ a t hinv' ha⟩

theorem Triple.exists {γ : Type} {P : γ → σ → Prop} (h : ∀ c, Triple A i (P c) p Q) :
    Triple A i (fun s => ∃ c, P c s) p Q := by
  rintro s hinv ⟨c, hs⟩
  exact h c s hinv hs

theorem Triple.fact {φ : Prop} (h : φ → Triple A i P p Q) : Triple A i (fun s => φ ∧ P s) p Q := by
  rintro s hinv ⟨hφ, hs⟩
  exact h hφ s hinv hs

theorem Triple.frame (h : Triple A i P p Q) (hK : Lasting A i K) :
    Triple A i (fun s => P s ∧ K s) p (fun a s => Q a s ∧ K s) := by
  rintro s hinv ⟨hs, hk⟩
  refine ((h s hinv hs).frame hK hinv hk).imp ?_
  rintro a t ⟨⟨hinv', hQ⟩, hk'⟩
  exact ⟨hinv', hQ, hk'⟩

end Rules

/-- The shared state and what is left of every thread started; `none` is one that crashed before its
end. -/
structure Pool (E : Effects σ) (α ι : Type) where
  shared : σ
  threads : List (ι × Option (Program E α))

inductive Event (ι : Type) where
  | start (label : ι)
  | perform (i : Nat)
  | crash (i : Nat)

inductive Step (prog : ι → Program E α) : Pool E α ι → Event ι → Pool E α ι → Prop
  | start {s : Pool E α ι} (label : ι) :
      Step prog s (.start label) ⟨s.shared, s.threads ++ [(label, some (prog label))]⟩
  | perform {s : Pool E α ι} {i : Nat} {label : ι} {op : E.Op} {next : E.Reply op → Program E α}
      {reply : E.Reply op} {shared : σ} (hthread : s.threads[i]? = some (label, some (.call op next)))
      (hperform : E.perform i op s.shared reply shared) :
      Step prog s (.perform i) ⟨shared, s.threads.set i (label, some (next reply))⟩
  | crash {s : Pool E α ι} {i : Nat} {label : ι} {op : E.Op} {next : E.Reply op → Program E α}
      (hthread : s.threads[i]? = some (label, some (.call op next))) :
      Step prog s (.crash i) ⟨s.shared, s.threads.set i (label, none)⟩

def system (prog : ι → Program E α) (start : σ) : System (Pool E α ι) (Event ι) where
  start := ⟨start, []⟩
  step := Step prog

/-- A step keeps every thread safe, as long as a thread that starts is safe. -/
theorem safe_step {A : Agreement σ} {prog : ι → Program E α} {Q : ι → Nat → α → σ → Prop}
    {s s' : Pool E α ι} {e : Event ι} (hinv : A.Inv s.shared)
    (hsafe : ∀ i label p, s.threads[i]? = some (label, some p) → Safe A i (Q label i) p s.shared)
    (hnew : ∀ label, Safe A s.threads.length (Q label s.threads.length) (prog label) s.shared)
    (hstep : Step prog s e s') : A.Inv s'.shared ∧ ∀ i label p,
      s'.threads[i]? = some (label, some p) → Safe A i (Q label i) p s'.shared := by
  cases hstep with
  | start label =>
      refine ⟨hinv, ?_⟩
      intro i label' p hthread
      rcases getElem?_concat_eq.mp hthread with hold | ⟨rfl, heq⟩
      · exact hsafe i label' p hold
      · obtain ⟨rfl, hp⟩ := Prod.mk.inj heq
        obtain rfl := Option.some.inj hp
        exact hnew label
  | @perform i label op next reply shared hthread hperform =>
      obtain ⟨hG, hnext⟩ := hsafe i label _ hthread s.shared (A.refl i s.shared) reply shared hperform
      refine ⟨A.inv_guarantee hinv hG, ?_⟩
      intro j label' p hj
      rw [List.getElem?_set] at hj
      by_cases hij : i = j
      · subst hij
        rw [if_pos rfl] at hj
        split at hj
        · obtain ⟨rfl, hp⟩ := Prod.mk.inj (Option.some.inj hj)
          obtain rfl := Option.some.inj hp
          exact hnext
        · cases hj
      · rw [if_neg hij] at hj
        exact (hsafe j label' p hj).rely (A.compatible hij hG)
  | @crash i label op next hthread =>
      refine ⟨hinv, ?_⟩
      intro j label' q hj
      rw [List.getElem?_set] at hj
      by_cases hij : i = j
      · subst hij
        rw [if_pos rfl] at hj
        split at hj
        · cases Option.some.inj hj
        · cases hj
      · rw [if_neg hij] at hj
        exact hsafe j label' q hj

structure Contract (A : Agreement σ) (prog : ι → Program E α) where
  Q : ι → Nat → α → σ → Prop
  triple : ∀ label i, Triple A i (fun _ => True) (prog label) (Q label i)

namespace Contract

variable {A : Agreement σ} {prog : ι → Program E α} (c : Contract A prog)

/-- The rest of every thread is still safe. -/
def Kept (s : Pool E α ι) : Prop :=
  A.Inv s.shared ∧ ∀ i label p, s.threads[i]? = some (label, some p) →
    Safe A i (fun a s => A.Inv s ∧ c.Q label i a s) p s.shared

theorem kept_step {s s' : Pool E α ι} {e : Event ι} (h : c.Kept s) (hstep : Step prog s e s') :
    c.Kept s' :=
  safe_step h.1 h.2 (fun label => c.triple label _ s.shared h.1 trivial) hstep

variable {history : List (Event ι)}

theorem kept_of_run {start : σ} (hstart : A.Inv start)
    {s : Pool E α ι} (hrun : Run (system prog start) history s) : c.Kept s := by
  refine hrun.state_invariant (P := c.Kept) ⟨hstart, by simp [system]⟩ ?_
  intro s e s' hkept hstep
  exact c.kept_step hkept hstep

theorem result_of_run {start : σ} (hstart : A.Inv start)
    {s : Pool E α ι} (hrun : Run (system prog start) history s) {i : Nat} {label : ι} {a : α}
    (hdone : s.threads[i]? = some (label, some (.done a))) : c.Q label i a s.shared :=
  ((c.kept_of_run hstart hrun).2 i label _ hdone s.shared (A.refl i s.shared)).2

theorem shared_step {K : σ → Prop}
    (hown : ∀ {i s s'}, A.Inv s → A.guarantee i s s' → K s → K s') {s s' : Pool E α ι}
    {e : Event ι} (h : c.Kept s) (hstep : Step prog s e s') (hs : K s.shared) : K s'.shared := by
  cases hstep with
  | start label => exact hs
  | @perform i label op next reply shared hthread hperform =>
      have hG := (h.2 i label _ hthread s.shared (A.refl i s.shared) reply shared hperform).1
      exact hown h.1 hG hs
  | crash hthread => exact hs

theorem shared_steps {K : σ → Prop}
    (hown : ∀ {i s s'}, A.Inv s → A.guarantee i s s' → K s → K s') {s s' : Pool E α ι}
    (h : c.Kept s) (hsteps : Relation.ReflTransGen (fun a b => ∃ e, Step prog a e b) s s')
    (hs : K s.shared) : K s'.shared := by
  have hboth : c.Kept s' ∧ K s'.shared := by
    induction hsteps with
    | refl => exact ⟨h, hs⟩
    | tail _ hlast ih =>
        obtain ⟨e, hstep⟩ := hlast
        exact ⟨c.kept_step ih.1 hstep, c.shared_step hown ih.1 hstep ih.2⟩
  exact hboth.2

end Contract

section Alone

variable {prog : ι → Program E α} {start : σ} {answer : Nat → (op : E.Op) → σ → E.Reply op × σ}

theorem exists_run_of_evaluate
    (hanswer : ∀ i op s, E.perform i op s (answer i op s).1 (answer i op s).2)
    {history : List (Event ι)} {s : Pool E α ι} (hrun : Run (system prog start) history s) {i : Nat}
    {label : ι} {p : Program E α} (hthread : s.threads[i]? = some (label, some p)) :
    ∃ more, Run (system prog start) (history ++ more) ⟨(p.evaluate (answer i) s.shared).2,
        s.threads.set i (label, some (.done (p.evaluate (answer i) s.shared).1))⟩ := by
  induction p generalizing history s with
  | done a =>
      refine ⟨[], ?_⟩
      have hset : s.threads.set i (label, some (.done a)) = s.threads := by
        refine List.ext_getElem? fun j => ?_
        rw [List.getElem?_set]
        by_cases hij : i = j
        · subst hij
          rw [if_pos rfl, hthread, if_pos (List.getElem?_eq_some_iff.mp hthread).1]
        · rw [if_neg hij]
      rw [List.append_nil, Program.evaluate, hset]
      exact hrun
  | call op next ih =>
      have hstep : Step prog s (.perform i) _ := .perform hthread (hanswer i op s.shared)
      have hlt := (List.getElem?_eq_some_iff.mp hthread).1
      obtain ⟨more, hmore⟩ := ih (answer i op s.shared).1 (Run.step hrun hstep)
        (by rw [List.getElem?_set_self hlt])
      refine ⟨.perform i :: more, ?_⟩
      rw [List.set_set, List.append_assoc, List.singleton_append] at hmore
      exact hmore

end Alone

end NightWatch.Lib.Threads
