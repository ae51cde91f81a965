import NightWatch.Lib.Guard

/-!
Journals of paired halves. An effect writes a prepared half before it and a terminal
half after it; a scanner with two sets accepts exactly the journals in which every
effect has both halves, in this order, or none.
-/

namespace NightWatch.Lib.PairedJournal

open Lib.Guard

inductive Half (ι : Type) where
  | prepared (id : ι)
  | terminal (id : ι)
  | plain

inductive Fault where
  | duplicatePrepared
  | terminalBeforePrepared
  | orphanTerminal
  | duplicateTerminal
  | unmatchedPrepared

structure Seen (ι : Type) where
  prepared : List ι
  terminal : List ι

def Seen.empty {ι : Type} : Seen ι := ⟨[], []⟩

variable {ι : Type} [DecidableEq ι]

def Half.concerns (id : ι) : Half ι → Bool
  | prepared other => other = id
  | terminal other => other = id
  | plain => false

/-- Every effect has a prepared half followed by one terminal half, or no half at all. -/
def Paired (journal : List (Half ι)) : Prop :=
  ∀ id, journal.filter (Half.concerns id) = [] ∨
    journal.filter (Half.concerns id) = [.prepared id, .terminal id]

def advance (seen : Seen ι) : Half ι → Except Fault (Seen ι)
  | .plain => .ok seen
  | .prepared id =>
      if id ∈ seen.prepared then .error .duplicatePrepared
      else if id ∈ seen.terminal then .error .terminalBeforePrepared
      else .ok { seen with prepared := seen.prepared ++ [id] }
  | .terminal id =>
      if id ∉ seen.prepared then .error .orphanTerminal
      else if id ∈ seen.terminal then .error .duplicateTerminal
      else .ok { seen with terminal := seen.terminal ++ [id] }

def scan (seen : Seen ι) : List (Half ι) → Except Fault (Seen ι)
  | [] => .ok seen
  | half :: rest => do
      let seen ← advance seen half
      scan seen rest

def settle (seen : Seen ι) : Except Fault Unit :=
  if ∀ id ∈ seen.prepared, id ∈ seen.terminal then .ok () else .error .unmatchedPrepared

def check (journal : List (Half ι)) : Except Fault Unit := do
  let seen ← scan Seen.empty journal
  settle seen

variable {id : ι} {before after : List (Half ι)}

theorem Paired.around_prepared
    (h : Paired (before ++ .prepared id :: after)) : before.filter (Half.concerns id) = [] ∧
      after.filter (Half.concerns id) = [.terminal id] := by
  have hid := h id
  rw [List.filter_append, List.filter_cons_of_pos (by simp [Half.concerns])] at hid
  rcases hid with hnil | hpair
  · simp at hnil
  · cases hbefore : before.filter (Half.concerns id) with
    | nil =>
        rw [hbefore] at hpair
        exact ⟨rfl, by simpa using hpair⟩
    | cons first rest =>
        rw [hbefore] at hpair
        have hlength := congrArg List.length hpair
        cases rest with
        | nil => simp at hpair
        | cons second rest =>
            simp only [List.length_append, List.length_cons, List.length_nil] at hlength
            omega

theorem Paired.around_terminal (h : Paired (before ++ .terminal id :: after)) :
    before.filter (Half.concerns id) = [.prepared id] ∧ after.filter (Half.concerns id) = [] := by
  have hid := h id
  rw [List.filter_append, List.filter_cons_of_pos (by simp [Half.concerns])] at hid
  rcases hid with hnil | hpair
  · simp at hnil
  · cases hbefore : before.filter (Half.concerns id) with
    | nil =>
        rw [hbefore] at hpair
        simp at hpair
    | cons first rest =>
        rw [hbefore] at hpair
        cases rest with
        | nil => simpa using hpair
        | cons second rest =>
            have hlength := congrArg List.length hpair
            simp only [List.length_append, List.length_cons, List.length_nil] at hlength
            omega

def Seen.halves (seen : Seen ι) (id : ι) : List (Half ι) :=
  (if id ∈ seen.prepared then [.prepared id] else []) ++
    if id ∈ seen.terminal then [.terminal id] else []

structure Tracks (past : List (Half ι)) (seen : Seen ι) : Prop where
  halves : ∀ id, past.filter (Half.concerns id) = seen.halves id
  opened : ∀ id ∈ seen.terminal, id ∈ seen.prepared

theorem tracks_empty : Tracks [] (Seen.empty : Seen ι) := by
  constructor
  · intro id
    rfl
  · intro id hid
    contradiction

variable {past : List (Half ι)} {seen : Seen ι}

theorem tracks_plain (h : Tracks past seen) : Tracks (past ++ [.plain]) seen := by
  refine ⟨fun id => ?_, h.opened⟩
  rw [List.filter_append, h.halves]
  simp [Half.concerns]

theorem tracks_prepared (h : Tracks past seen) (hnew : id ∉ seen.prepared) :
    Tracks (past ++ [.prepared id]) { seen with prepared := seen.prepared ++ [id] } := by
  have hterminal : id ∉ seen.terminal := fun hid => hnew (h.opened id hid)
  refine ⟨fun other => ?_, fun other hother => ?_⟩
  · rw [List.filter_append, h.halves]
    by_cases hid : id = other
    · subst hid
      simp [Seen.halves, Half.concerns, hnew, hterminal]
    · simp [Seen.halves, Half.concerns, hid, Ne.symm hid]
  · exact List.mem_append_left _ (h.opened other hother)

theorem tracks_terminal (h : Tracks past seen)
    (hopen : id ∈ seen.prepared) (hnew : id ∉ seen.terminal) :
    Tracks (past ++ [.terminal id]) { seen with terminal := seen.terminal ++ [id] } := by
  refine ⟨fun other => ?_, fun other hother => ?_⟩
  · rw [List.filter_append, h.halves]
    by_cases hid : id = other
    · subst hid
      simp [Seen.halves, Half.concerns, hopen, hnew]
    · simp [Seen.halves, Half.concerns, hid, Ne.symm hid]
  · rcases List.mem_append.mp hother with hother | hother
    · exact h.opened other hother
    · rw [List.mem_singleton.mp hother]
      exact hopen

theorem advance_tracks {seen' : Seen ι} {half : Half ι}
    (h : Tracks past seen) (hstep : advance seen half = .ok seen') :
    Tracks (past ++ [half]) seen' := by
  cases half with
  | plain =>
      cases hstep
      exact tracks_plain h
  | prepared id =>
      rw [advance] at hstep
      split at hstep
      · contradiction
      · rename_i hnew
        split at hstep
        · contradiction
        · cases hstep
          exact tracks_prepared h hnew
  | terminal id =>
      rw [advance] at hstep
      split at hstep
      · contradiction
      · rename_i hopen
        split at hstep
        · contradiction
        · rename_i hnew
          cases hstep
          exact tracks_terminal h (not_not.mp hopen) hnew

variable {rest : List (Half ι)}

theorem scan_tracks {seen' : Seen ι} (h : Tracks past seen)
    (hscan : scan seen rest = .ok seen') : Tracks (past ++ rest) seen' := by
  induction rest generalizing past seen with
  | nil =>
      cases hscan
      simpa using h
  | cons half rest ih =>
      rw [scan, bind_eq_ok] at hscan
      obtain ⟨next, hstep, hrest⟩ := hscan
      have hall := ih (advance_tracks h hstep) hrest
      rwa [List.append_assoc, List.singleton_append] at hall

variable {journal : List (Half ι)}

theorem paired_of_settle (h : Tracks journal seen)
    (hsettle : settle seen = .ok ()) : Paired journal := by
  intro id
  have hclosed : ∀ id ∈ seen.prepared, id ∈ seen.terminal := by
    by_contra hopen
    rw [settle, if_neg hopen] at hsettle
    contradiction
  rw [h.halves]
  by_cases hid : id ∈ seen.prepared
  · right
    simp [Seen.halves, hid, hclosed id hid]
  · left
    have hterminal : id ∉ seen.terminal := fun hmem => hid (h.opened id hmem)
    simp [Seen.halves, hid, hterminal]

theorem exists_advance {half : Half ι}
    (h : Tracks past seen) (hpaired : Paired (past ++ half :: rest)) :
    ∃ seen', advance seen half = .ok seen' := by
  cases half with
  | plain => exact ⟨seen, rfl⟩
  | prepared id =>
      have hbefore := hpaired.around_prepared.1
      rw [h.halves, Seen.halves, List.append_eq_nil_iff] at hbefore
      have hprepared : id ∉ seen.prepared := by
        intro hid
        simp [hid] at hbefore
      have hterminal : id ∉ seen.terminal := fun hid => hprepared (h.opened id hid)
      exact ⟨_, by rw [advance, if_neg hprepared, if_neg hterminal]⟩
  | terminal id =>
      have hbefore := hpaired.around_terminal.1
      rw [h.halves, Seen.halves] at hbefore
      have hterminal : id ∉ seen.terminal := by
        intro hid
        simp [hid, h.opened id hid] at hbefore
      have hprepared : id ∈ seen.prepared := by
        by_contra hid
        simp [hid, hterminal] at hbefore
      exact ⟨_, by rw [advance, if_neg (not_not.mpr hprepared), if_neg hterminal]⟩

theorem exists_scan (h : Tracks past seen)
    (hpaired : Paired (past ++ rest)) : ∃ seen', scan seen rest = .ok seen' := by
  induction rest generalizing past seen with
  | nil => exact ⟨seen, rfl⟩
  | cons half rest ih =>
      obtain ⟨next, hstep⟩ := exists_advance h hpaired
      rw [← List.singleton_append, ← List.append_assoc] at hpaired
      obtain ⟨seen', hscan⟩ := ih (advance_tracks h hstep) hpaired
      refine ⟨seen', ?_⟩
      rw [scan, bind_eq_ok]
      exact ⟨next, hstep, hscan⟩

theorem settle_of_paired (h : Tracks journal seen)
    (hpaired : Paired journal) : settle seen = .ok () := by
  apply if_pos
  intro id hid
  have hhalves := hpaired id
  rw [h.halves, Seen.halves] at hhalves
  by_contra hterminal
  simp [hid, hterminal] at hhalves

theorem check_eq_ok : check journal = .ok () ↔ Paired journal := by
  rw [check, bind_eq_ok]
  constructor
  · rintro ⟨seen, hscan, hsettle⟩
    exact paired_of_settle (scan_tracks tracks_empty hscan) hsettle
  · intro hpaired
    obtain ⟨seen, hscan⟩ := exists_scan tracks_empty hpaired
    exact ⟨seen, hscan, settle_of_paired (scan_tracks tracks_empty hscan) hpaired⟩

theorem paired_of_plain (h : ∀ half ∈ journal, half = .plain) : Paired journal := by
  intro id
  left
  apply List.filter_eq_nil_iff.mpr
  intro half hhalf
  simp [h half hhalf, Half.concerns]

end NightWatch.Lib.PairedJournal
