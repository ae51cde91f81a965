import NightWatch.Proxy.PortLease

namespace NightWatch.Proxy.LeaseExclusion

open Lib.JsText Lib.JsData Lib.Json Lib.JsRuntime Lib.Machine Lib.StepFunction Proxy.PortLease

section Records

variable (rt : Runtime)

def IsPort (port : Nat) : Prop := 1024 ≤ port ∧ port ≤ 65535

variable {port : Nat}

theorem validPort_ofNat (h : IsPort port) : validPort (.num (.ofNat port)) = some port := by
  have hwhole : ((port : ℚ).den = 1 ∧ 1024 ≤ (port : ℚ).num ∧ (port : ℚ).num ≤ 65535) := by
    rw [Rat.den_natCast, Rat.num_natCast]
    obtain ⟨hlow, hhigh⟩ := h
    omega
  change (if _ then _ else _) = _
  rw [if_pos hwhole, Rat.num_natCast, Int.toNat_natCast]

theorem isPort_of_validPort {v : JsValue} (h : validPort v = some port) : IsPort port := by
  unfold validPort at h
  split at h
  · split at h
    · rename_i hwhole
      have hport := Option.some.inj h
      constructor
      · omega
      · omega
    · contradiction
  · contradiction

variable {token : JsString} {pid : Nat}

theorem isJson_recordFields (hpid : IsPid pid)
    (hport : IsPort port) : IsJson (.obj (recordFields pid port token)) := by
  have hcount : ∀ n : Nat, n < 2 ^ 31 → IsJson (.num (.ofNat n)) := by
    intro n hn
    have hscalar : IsScalar (.num (.finite ((n : ℤ) : ℚ))) :=
      .num n (by rw [Int.natAbs_natCast]; omega)
    rw [Int.cast_natCast] at hscalar
    exact .scalar hscalar
  refine .obj ?_ ?_ ?_
  · change (["schemaVersion".toList, "pid".toList, "port".toList, "token".toList]).Nodup
    decide
  · change ∀ name ∈ ["schemaVersion".toList, "pid".toList, "port".toList, "token".toList],
      IsName name
    decide
  · intro v hv
    change v ∈ [JsValue.str proxyPortLeaseSchema, .num (.ofNat pid), .num (.ofNat port),
      .str token] at hv
    simp only [List.mem_cons, List.not_mem_nil, or_false] at hv
    rcases hv with rfl | rfl | rfl | rfl
    · exact .scalar (.str _)
    · exact hcount pid hpid.2
    · obtain ⟨-, hhigh⟩ := hport
      exact hcount port (by omega)
    · exact .scalar (.str _)

theorem leaseRecord_fields (hport : IsPort port) (htoken : isToken token = true) :
    leaseRecord (.obj (recordFields pid port token)) = some ⟨pid, port, token⟩ := by
  have hschema : JsValue.field (recordFields pid port token) "schemaVersion".toList =
    .str proxyPortLeaseSchema := rfl
  have hpid : integerOf (JsValue.field (recordFields pid port token) "pid".toList) =
      some (pid : ℤ) := by
    change (if (pid : ℚ).den = 1 then some (pid : ℚ).num else none) = _
    rw [if_pos (Rat.den_natCast pid), Rat.num_natCast]
  have hvalid : validPort (JsValue.field (recordFields pid port token) "port".toList) =
    some port := validPort_ofNat hport
  have hown : JsValue.field (recordFields pid port token) "token".toList = .str token := rfl
  rw [leaseRecord, hschema, hpid, hvalid, hown]
  exact if_pos ⟨rfl, htoken⟩

theorem readLease_recordText {id : Nat} {creator : Option Nat}
    (hpid : IsPid pid) (hport : IsPort port) (htoken : isToken token = true) :
    readLease rt (some ⟨id, creator, .text (recordText rt pid port token)⟩) =
      some ⟨pid, port, token⟩ := by
  rw [readLease, recordText, rt.jsonParse_stringify _ (isJson_recordFields hpid hport)]
  exact leaseRecord_fields hport htoken

end Records

section Candidates

variable {preferred offset other : Nat}

theorem isPort_candidatePort (h : IsPort preferred) : IsPort (candidatePort preferred offset) := by
  obtain ⟨hlow, hhigh⟩ := h
  rw [candidatePort]
  split
  · exact ⟨by omega, by assumption⟩
  · have hmod := Nat.mod_lt (preferred + offset - 1024) (show 0 < 65535 - 1024 by decide)
    constructor
    · omega
    · omega

theorem candidatePort_wrapped (h : IsPort preferred) (hoffset : offset < candidateCount)
    (hwrap : 65535 < preferred + offset) :
    candidatePort preferred offset = preferred + offset - 65535 + 1024 := by
  obtain ⟨hlow, hhigh⟩ := h
  have hcount : offset < 32 := hoffset
  rw [candidatePort, if_neg (by omega)]
  have hsum : preferred + offset - 1024 = preferred + offset - 65535 + (65535 - 1024) := by omega
  rw [hsum, Nat.add_mod_right, Nat.mod_eq_of_lt (by omega)]
  omega

theorem candidatePort_injective (h : IsPort preferred) (hoffset : offset < candidateCount)
    (hother : other < candidateCount)
    (heq : candidatePort preferred offset = candidatePort preferred other) : offset = other := by
  obtain ⟨hlow, hhigh⟩ := h
  have hcount : offset < 32 := hoffset
  have hcount' : other < 32 := hother
  have hstays : ∀ {k : Nat}, preferred + k ≤ 65535 →
      candidatePort preferred k = preferred + k := fun hk => if_pos hk
  rcases Nat.lt_or_ge 65535 (preferred + offset) with hwrap | hstay
  · rw [candidatePort_wrapped ⟨hlow, hhigh⟩ hoffset hwrap] at heq
    rcases Nat.lt_or_ge 65535 (preferred + other) with hwrap' | hstay'
    · rw [candidatePort_wrapped ⟨hlow, hhigh⟩ hother hwrap'] at heq
      omega
    · rw [hstays hstay'] at heq
      omega
  · rw [hstays hstay] at heq
    rcases Nat.lt_or_ge 65535 (preferred + other) with hwrap' | hstay'
    · rw [candidatePort_wrapped ⟨hlow, hhigh⟩ hother hwrap'] at heq
      omega
    · rw [hstays hstay'] at heq
      omega

/-- Ports that a call may try. -/
structure Searchable (ports : List Nat) : Prop where
  nodup : ports.Nodup
  bounded : ports.length ≤ candidateCount
  valid : ∀ port ∈ ports, IsPort port

theorem searchable_nil : Searchable [] := ⟨List.nodup_nil, Nat.zero_le _, by simp⟩

theorem Searchable.of_initial {ports longer : List Nat} (h : Searchable longer)
    (hinitial : ports <+: longer) : Searchable ports where
  nodup := hinitial.sublist.nodup h.nodup
  bounded := Nat.le_trans hinitial.length_le h.bounded
  valid port hport := h.valid port (hinitial.subset hport)

theorem searchable_candidates {preferred : JsNumber} {candidates : List Nat}
    (h : proxyPortCandidates preferred = some candidates) : Searchable candidates := by
  obtain ⟨port, hvalid, rfl⟩ := Option.map_eq_some_iff.mp h
  have hport := isPort_of_validPort hvalid
  refine ⟨?_, ?_, ?_⟩
  · refine List.Nodup.map_on ?_ List.nodup_range
    intro offset hoffset other hother heq
    exact candidatePort_injective hport (List.mem_range.mp hoffset) (List.mem_range.mp hother) heq
  · rw [List.length_map, List.length_range]
  · intro candidate hcandidate
    obtain ⟨offset, -, rfl⟩ := List.mem_map.mp hcandidate
    exact isPort_candidatePort hport

end Candidates

def candidateOf : Phase → Option Candidate
  | .reading c | .checking c _ | .unlinking c | .testing c | .creating c | .writing c _ _
  | .probing c _ | .cleaning c _ => some c
  | .idle | .releasing _ | .removing _ => none

/-- What a call has tried and has left is the beginning of its candidates. -/
structure Planned (process : Process) : Prop where
  searchable : Searchable process.tried
  rest : ∀ c, candidateOf process.phase = some c →
    c.port ∈ process.tried ∧ Searchable (process.tried ++ c.rest)

variable {process : Process}

theorem Planned.of_same {process' : Process} (h : Planned process)
    (htried : process'.tried = process.tried)
    (hphase : candidateOf process'.phase = candidateOf process.phase ∨
      candidateOf process'.phase = none) : Planned process' := by
  refine ⟨htried ▸ h.searchable, ?_⟩
  intro c hc
  rcases hphase with hsame | hnone
  · rw [htried]
    exact h.rest c (hsame ▸ hc)
  · rw [hnone] at hc
    contradiction

theorem planned_advanceTo {offset : Nat} {rest : List Nat}
    (h : Searchable (process.tried ++ rest)) : Planned (process.advanceTo offset rest) := by
  cases rest with
  | nil =>
      rw [List.append_nil] at h
      refine ⟨h, ?_⟩
      intro c hc
      contradiction
  | cons port rest =>
      have hassoc : process.tried ++ port :: rest = process.tried ++ [port] ++ rest := by
        rw [List.append_assoc, List.singleton_append]
      rw [hassoc] at h
      refine ⟨h.of_initial (List.prefix_append _ _), ?_⟩
      intro c hc
      obtain rfl := Option.some.inj hc
      exact ⟨List.mem_append_right _ List.mem_cons_self, h⟩

theorem Planned.continueAfter {c : Candidate} (h : Planned process)
    (hc : candidateOf process.phase = some c) : Planned (process.continueAfter c) :=
  planned_advanceTo (h.rest c hc).2

theorem planned_begin {preferred : JsNumber}
    (hidle : process.phase = .idle) : Planned (process.begin preferred) := by
  rw [Process.begin]
  split
  · refine ⟨searchable_nil, ?_⟩
    intro c hc
    change candidateOf process.phase = some c at hc
    rw [hidle] at hc
    contradiction
  · rename_i candidates hcandidates
    exact planned_advanceTo (searchable_candidates hcandidates)

def stepsLeft : Phase → Nat
  | .idle => 0
  | .removing _ => 1
  | .releasing _ => 2
  | .cleaning c _ => 8 * c.rest.length + 2
  | .probing c _ => 8 * c.rest.length + 3
  | .writing c _ _ => 8 * c.rest.length + 4
  | .creating c => 8 * c.rest.length + 5
  | .unlinking c => 8 * c.rest.length + 6
  | .testing c => 8 * c.rest.length + 6
  | .checking c _ => 8 * c.rest.length + 7
  | .reading c => 8 * c.rest.length + 8

theorem stepsLeft_continueAfter {c : Candidate} :
    stepsLeft (process.continueAfter c).phase ≤ 8 * c.rest.length := by
  rw [Process.continueAfter]
  cases c.rest with
  | nil => exact Nat.zero_le _
  | cons port rest =>
      change 8 * rest.length + 8 ≤ 8 * (port :: rest).length
      rw [List.length_cons]
      omega

section Ownership

def created : Phase → Option Nat
  | .writing c _ _ | .probing c _ | .cleaning c _ => some c.port
  | _ => none

/-- A process has a port from its exclusive create to the end of the lease. -/
def Occupies (process : Process) (port : Nat) : Prop :=
  created process.phase = some port ∨ ∃ lease ∈ process.leases, lease.port = port

variable (rt : Runtime)

def OwnFile (directory : Directory) (pid port : Nat) (token : JsString) : Prop :=
  ∃ id, directory.files port = some ⟨id, some pid, .text (recordText rt pid port token)⟩

/-- What the next operation of a process rests on. -/
def PhaseHolds (directory : Directory) (pid : Nat) (leases : List ProxyPortLease) : Phase → Prop
  | .checking c existing => ∀ lease ∈ leases, lease.port = c.port → existing.pid = pid
  | .unlinking c => ∀ lease ∈ leases, lease.port ≠ c.port
  | .writing c id token =>
      IsPid pid ∧ isToken token ∧ (∀ lease ∈ leases, lease.port ≠ c.port) ∧
        directory.files c.port = some ⟨id, some pid, .text []⟩
  | .probing c token | .cleaning c token =>
      IsPid pid ∧ isToken token ∧ (∀ lease ∈ leases, lease.port ≠ c.port) ∧
        OwnFile rt directory pid c.port token
  | .releasing lease | .removing lease => lease ∈ leases
  | _ => True

/-- What a live process can rely on. -/
structure Holds (directory : Directory) (pid : Nat) (process : Process) : Prop where
  ports : (process.leases.map ProxyPortLease.port).Nodup
  leases : ∀ lease ∈ process.leases, IsPid pid ∧ IsPort lease.port ∧ isToken lease.token ∧
    OwnFile rt directory pid lease.port lease.token
  phase : PhaseHolds rt directory pid process.leases process.phase

variable {rt} {directory directory' : Directory} {pid port : Nat} {process process' : Process}

theorem files_unlink_self : (directory.unlink port).files port = none := Function.update_self _ _ _

theorem files_unlink_of_ne {other : Nat} (hne : other ≠ port) :
    (directory.unlink port).files other = directory.files other :=
  Function.update_of_ne hne _ _

theorem Holds.leases_elsewhere (h : Holds rt directory pid process)
    (hdirectory : ∀ other, other ≠ port → directory'.files other = directory.files other)
    {lease : ProxyPortLease} (hlease : lease ∈ process.leases) (hne : lease.port ≠ port) :
    IsPid pid ∧ IsPort lease.port ∧ isToken lease.token ∧
      OwnFile rt directory' pid lease.port lease.token := by
  obtain ⟨hpid, hport, htoken, id, hfile⟩ := h.leases lease hlease
  exact ⟨hpid, hport, htoken, id, (hdirectory _ hne).trans hfile⟩

theorem Holds.file_of_occupies (h : Holds rt directory pid process)
    (hport : Occupies process port) :
    ∃ node, directory.files port = some node ∧ node.creator = some pid := by
  rcases hport with hcreated | ⟨lease, hlease, rfl⟩
  · have hphase := h.phase
    cases hcase : process.phase with
    | writing c id token =>
        rw [hcase] at hcreated hphase
        obtain rfl := Option.some.inj hcreated
        obtain ⟨-, -, -, hfile⟩ := hphase
        exact ⟨_, hfile, rfl⟩
    | probing c token =>
        rw [hcase] at hcreated hphase
        obtain rfl := Option.some.inj hcreated
        obtain ⟨-, -, -, id, hfile⟩ := hphase
        exact ⟨_, hfile, rfl⟩
    | cleaning c token =>
        rw [hcase] at hcreated hphase
        obtain rfl := Option.some.inj hcreated
        obtain ⟨-, -, -, id, hfile⟩ := hphase
        exact ⟨_, hfile, rfl⟩
    | _ =>
        rw [hcase] at hcreated
        contradiction
  · obtain ⟨-, -, -, id, hfile⟩ := h.leases lease hlease
    exact ⟨_, hfile, rfl⟩

theorem Holds.of_frame (h : Holds rt directory pid process)
    (hframe : ∀ port, Occupies process port → directory'.files port = directory.files port) :
    Holds rt directory' pid process := by
  have hown : ∀ {port token}, Occupies process port → OwnFile rt directory pid port token →
      OwnFile rt directory' pid port token := by
    rintro port token hport ⟨id, hfile⟩
    exact ⟨id, (hframe port hport).trans hfile⟩
  refine ⟨h.ports, ?_, ?_⟩
  · intro lease hlease
    obtain ⟨hpid, hport, htoken, hfile⟩ := h.leases lease hlease
    exact ⟨hpid, hport, htoken, hown (.inr ⟨lease, hlease, rfl⟩) hfile⟩
  · have hphase := h.phase
    cases hcase : process.phase with
    | writing c id token =>
        rw [hcase] at hphase
        obtain ⟨hpid, htoken, hnew, hfile⟩ := hphase
        have hport : Occupies process c.port := .inl (by rw [hcase]; rfl)
        exact ⟨hpid, htoken, hnew, (hframe _ hport).trans hfile⟩
    | probing c token =>
        rw [hcase] at hphase
        obtain ⟨hpid, htoken, hnew, hfile⟩ := hphase
        exact ⟨hpid, htoken, hnew, hown (.inl (by rw [hcase]; rfl)) hfile⟩
    | cleaning c token =>
        rw [hcase] at hphase
        obtain ⟨hpid, htoken, hnew, hfile⟩ := hphase
        exact ⟨hpid, htoken, hnew, hown (.inl (by rw [hcase]; rfl)) hfile⟩
    | _ =>
        rw [hcase] at hphase
        exact hphase

end Ownership

section Continuing

variable {process : Process} {c : Candidate} {offset : Nat} {rest : List Nat}

@[simp]
theorem leases_advanceTo : (process.advanceTo offset rest).leases = process.leases := by
  cases rest <;> rfl

@[simp]
theorem created_advanceTo : created (process.advanceTo offset rest).phase = none := by
  cases rest <;> rfl

variable {leases : List ProxyPortLease} {directory : Directory}

theorem phaseHolds_advanceTo {rt : Runtime} {pid : Nat} :
    PhaseHolds rt directory pid leases (process.advanceTo offset rest).phase := by
  cases rest <;> trivial

variable {preferred : JsNumber}

theorem leases_begin : (process.begin preferred).leases = process.leases := by
  rw [Process.begin]
  split
  · rfl
  · exact leases_advanceTo

theorem created_begin (hidle : process.phase = .idle) :
    created (process.begin preferred).phase = none := by
  rw [Process.begin]
  split
  · change created process.phase = none
    rw [hidle]
    rfl
  · exact created_advanceTo

theorem phaseHolds_begin {rt : Runtime} {pid : Nat} (hidle : process.phase = .idle) :
    PhaseHolds rt directory pid leases (process.begin preferred).phase := by
  rw [Process.begin]
  split
  · change PhaseHolds rt directory pid leases process.phase
    rw [hidle]
    trivial
  · exact phaseHolds_advanceTo

end Continuing

section Steps

variable (rt : Runtime)

/-- What holds in every state as long as no takeover is disturbed. -/
structure LeaseInv (s : State) : Prop where
  planned : ∀ pid, Planned (s.processes pid)
  holds : ∀ pid, s.alive pid = true → Holds rt s.directory pid (s.processes pid)
  occupied : ∀ port node pid, s.directory.files port = some node → node.creator = some pid →
    s.alive pid = true → Occupies (s.processes pid) port

/-- What one operation of a process leaves to itself and to the others. -/
structure Keeps (s : State) (pid : Nat) (after : Directory × Process) : Prop where
  planned : Planned after.2
  holds : after.2.alive = true → Holds rt after.1 pid after.2
  frame : ∀ other, other ≠ pid → s.alive other = true → ∀ port,
    Occupies (s.processes other) port → after.1.files port = s.directory.files port
  files : ∀ port node creator, after.1.files port = some node → node.creator = some creator →
    creator = pid ∧ (after.2.alive = true → Occupies after.2 port) ∨
      creator ≠ pid ∧ s.directory.files port = some node

variable {rt} {s : State} {pid port : Nat} {directory : Directory} {process : Process}

section

variable (h : LeaseInv rt s)

include h

theorem LeaseInv.exclusive {other : Nat} (halive : s.alive pid = true)
    (hother : s.alive other = true) (hport : Occupies (s.processes pid) port)
    (hport' : Occupies (s.processes other) port) : other = pid := by
  obtain ⟨node, hfile, hcreator⟩ := (h.holds pid halive).file_of_occupies hport
  obtain ⟨node', hfile', hcreator'⟩ := (h.holds other hother).file_of_occupies hport'
  have hnode : node = node' := Option.some.inj (hfile.symm.trans hfile')
  rw [← hnode, hcreator] at hcreator'
  exact (Option.some.inj hcreator').symm

theorem LeaseInv.free_of_own (halive : s.alive pid = true)
    (hport : Occupies (s.processes pid) port) :
    ∀ other, other ≠ pid → s.alive other = true → ¬ Occupies (s.processes other) port := by
  intro other hne hother hport'
  exact hne (h.exclusive halive hother hport hport')

theorem LeaseInv.free_of_none (hnone : s.directory.files port = none) :
    ∀ other, s.alive other = true → ¬ Occupies (s.processes other) port := by
  intro other hother hport
  obtain ⟨node, hfile, -⟩ := (h.holds other hother).file_of_occupies hport
  rw [hnone] at hfile
  contradiction

theorem keeps_of_same_directory (halive : s.alive pid = true)
    (hplanned : Planned process) (hleases : process.leases = (s.processes pid).leases)
    (hcreated : created process.phase = created (s.processes pid).phase)
    (hphase : PhaseHolds rt s.directory pid (s.processes pid).leases process.phase) :
    Keeps rt s pid (s.directory, process) := by
  have hold := h.holds pid halive
  refine ⟨hplanned, ?_, ?_, ?_⟩
  · intro _
    refine ⟨?_, ?_, ?_⟩
    · change (process.leases.map ProxyPortLease.port).Nodup
      rw [hleases]
      exact hold.ports
    · change ∀ lease ∈ process.leases, _
      rw [hleases]
      exact hold.leases
    · change PhaseHolds rt s.directory pid process.leases process.phase
      rw [hleases]
      exact hphase
  · intro other _ _ port _
    rfl
  · intro port node creator hfile hcreator
    rcases Decidable.em (creator = pid) with rfl | hne
    · have hport := h.occupied port node creator hfile hcreator halive
      refine .inl ⟨rfl, fun _ => ?_⟩
      rcases hport with hown | ⟨lease, hlease, hport⟩
      · exact .inl (hcreated.trans hown)
      · exact .inr ⟨lease, hleases ▸ hlease, hport⟩
    · exact .inr ⟨hne, hfile⟩

theorem keeps_of_touched (halive : s.alive pid = true)
    (hplanned : Planned process) (hholds : Holds rt directory pid process)
    (hdirectory : ∀ other, other ≠ port → directory.files other = s.directory.files other)
    (hfree : ∀ other, other ≠ pid → s.alive other = true → ¬ Occupies (s.processes other) port)
    (hkept : ∀ other, other ≠ port → Occupies (s.processes pid) other → Occupies process other)
    (htouched : ∀ node, directory.files port = some node →
      node.creator = some pid ∧ Occupies process port) : Keeps rt s pid (directory, process) := by
  refine ⟨hplanned, fun _ => hholds, ?_, ?_⟩
  · intro other hne hother port' hport'
    apply hdirectory
    rintro rfl
    exact hfree other hne hother hport'
  · intro port' node creator hfile hcreator
    rcases Decidable.em (port' = port) with rfl | hport
    · obtain ⟨hown, hoccupies⟩ := htouched node hfile
      rw [hown] at hcreator
      exact .inl ⟨(Option.some.inj hcreator).symm, fun _ => hoccupies⟩
    · have hbefore : s.directory.files port' = some node := (hdirectory port' hport).symm.trans hfile
      rcases Decidable.em (creator = pid) with rfl | hne
      · exact .inl ⟨rfl, fun _ =>
          hkept port' hport (h.occupied port' node creator hbefore hcreator halive)⟩
      · exact .inr ⟨hne, hbefore⟩

theorem LeaseInv.phaseHolds (halive : s.alive pid = true) {phase : Phase}
    (hcase : (s.processes pid).phase = phase) :
    PhaseHolds rt s.directory pid (s.processes pid).leases phase :=
  hcase ▸ (h.holds pid halive).phase

end

variable {lease : ProxyPortLease}

theorem LeaseInv.readLease_eq (h : LeaseInv rt s) (halive : s.alive pid = true)
    (hlease : lease ∈ (s.processes pid).leases) :
    readLease rt (s.directory.files lease.port) = some ⟨pid, lease.port, lease.token⟩ := by
  obtain ⟨hpid, hport, htoken, id, hfile⟩ := (h.holds pid halive).leases lease hlease
  rw [hfile]
  exact readLease_recordText rt hpid hport htoken

variable {c : Candidate}

theorem keeps_continue (h : LeaseInv rt s) (halive : s.alive pid = true)
    (hc : candidateOf (s.processes pid).phase = some c)
    (hcreated : created (s.processes pid).phase = none) :
    Keeps rt s pid (s.directory, (s.processes pid).continueAfter c) :=
  keeps_of_same_directory h halive ((h.planned pid).continueAfter hc) leases_advanceTo
    (created_advanceTo.trans hcreated.symm) phaseHolds_advanceTo

variable {existing : LeaseRecord}

theorem keeps_reading (h : LeaseInv rt s) (halive : s.alive pid = true)
    (hcase : (s.processes pid).phase = .reading c)
    (hread : readLease rt (s.directory.files c.port) = some existing) :
    Keeps rt s pid (s.directory, { s.processes pid with phase := .checking c existing }) := by
  refine keeps_of_same_directory h halive ?_ rfl ?_ ?_
  · exact (h.planned pid).of_same rfl (.inl (by rw [hcase]; rfl))
  · rw [hcase]
    rfl
  · intro lease hlease hport
    have hown := h.readLease_eq halive hlease
    rw [hport, hread] at hown
    rw [Option.some.inj hown]

theorem keeps_stale (h : LeaseInv rt s) (hpid : IsPid pid) (halive : s.alive pid = true)
    (hcase : (s.processes pid).phase = .checking c existing)
    (hdead : ¬ processAlive s.alive existing.pid = true) :
    Keeps rt s pid (s.directory, { s.processes pid with phase := .unlinking c }) := by
  refine keeps_of_same_directory h halive ?_ rfl ?_ ?_
  · exact (h.planned pid).of_same rfl (.inl (by rw [hcase]; rfl))
  · rw [hcase]
    rfl
  · intro lease hlease hport
    have hown : existing.pid = pid := h.phaseHolds halive hcase lease hlease hport
    apply hdead
    obtain ⟨hpos, -⟩ := hpid
    rw [processAlive, hown, Int.toNat_natCast, halive, Bool.and_true, decide_eq_true_eq]
    omega

theorem keeps_takeover (h : LeaseInv rt s) (halive : s.alive pid = true)
    (hcase : (s.processes pid).phase = .unlinking c)
    (hfree : ∀ other, other ≠ pid → s.alive other = true → ¬ Occupies (s.processes other) c.port) :
    Keeps rt s pid (s.directory.unlink c.port, { s.processes pid with phase := .creating c }) := by
  have hold := h.holds pid halive
  have hnew : ∀ lease ∈ (s.processes pid).leases, lease.port ≠ c.port := h.phaseHolds halive hcase
  have hdirectory : ∀ other, other ≠ c.port →
      (s.directory.unlink c.port).files other = s.directory.files other :=
    fun other => files_unlink_of_ne
  refine keeps_of_touched h halive ?_ ⟨hold.ports, ?_, trivial⟩ hdirectory hfree ?_ ?_
  · exact (h.planned pid).of_same rfl (.inl (by rw [hcase]; rfl))
  · intro lease hlease
    exact hold.leases_elsewhere hdirectory hlease (hnew lease hlease)
  · intro other _ hport
    rcases hport with hcreated | hlease
    · rw [hcase] at hcreated
      contradiction
    · exact .inr hlease
  · intro node hfile
    rw [files_unlink_self] at hfile
    contradiction

variable {token : JsString}

section

variable (h : LeaseInv rt s)

include h

theorem keeps_create (hpid : IsPid pid) (halive : s.alive pid = true)
    (hcase : (s.processes pid).phase = .creating c)
    (htoken : isToken token = true) (hnone : s.directory.files c.port = none) :
    Keeps rt s pid (s.directory.create c.port pid,
      { s.processes pid with phase := .writing c s.directory.fresh token }) := by
  have hold := h.holds pid halive
  have hfree := h.free_of_none hnone
  have hnew : ∀ lease ∈ (s.processes pid).leases, lease.port ≠ c.port := by
    intro lease hlease hport
    exact hfree pid halive (.inr ⟨lease, hlease, hport⟩)
  have hdirectory : ∀ other, other ≠ c.port →
      (s.directory.create c.port pid).files other = s.directory.files other :=
    fun other hne => Function.update_of_ne hne _ _
  have hfile : (s.directory.create c.port pid).files c.port =
      some ⟨s.directory.fresh, some pid, .text []⟩ := Function.update_self _ _ _
  refine keeps_of_touched h halive ?_ ⟨hold.ports, ?_, hpid, htoken, hnew, hfile⟩ hdirectory
    (fun other _ hother => hfree other hother) ?_ ?_
  · exact (h.planned pid).of_same rfl (.inl (by rw [hcase]; rfl))
  · intro lease hlease
    exact hold.leases_elsewhere hdirectory hlease (hnew lease hlease)
  · intro other _ hport
    rcases hport with hcreated | hlease
    · rw [hcase] at hcreated
      contradiction
    · exact .inr hlease
  · intro node hnode
    rw [hfile] at hnode
    obtain rfl := Option.some.inj hnode
    exact ⟨rfl, .inl rfl⟩

theorem keeps_write (halive : s.alive pid = true) {id : Nat}
    (hcase : (s.processes pid).phase = .writing c id token) :
    Keeps rt s pid (s.directory.write c.port id (recordText rt pid c.port token),
      { s.processes pid with phase := .probing c token }) := by
  have hold := h.holds pid halive
  obtain ⟨hpid, htoken, hnew, hempty⟩ := h.phaseHolds halive hcase
  have hwritten : s.directory.write c.port id (recordText rt pid c.port token) =
      ⟨Function.update s.directory.files c.port
        (some ⟨id, some pid, .text (recordText rt pid c.port token)⟩), s.directory.fresh⟩ := by
    rw [Directory.write, hempty]
    exact if_pos rfl
  have hown : Occupies (s.processes pid) c.port := .inl (by rw [hcase]; rfl)
  rw [hwritten]
  have hdirectory : ∀ other, other ≠ c.port → (Function.update s.directory.files c.port
      (some ⟨id, some pid, .text (recordText rt pid c.port token)⟩)) other =
        s.directory.files other := fun other hne => Function.update_of_ne hne _ _
  refine keeps_of_touched h halive ?_ ⟨hold.ports, ?_, hpid, htoken, hnew, id, ?_⟩ hdirectory
    (h.free_of_own halive hown) ?_ ?_
  · exact (h.planned pid).of_same rfl (.inl (by rw [hcase]; rfl))
  · intro lease hlease
    exact hold.leases_elsewhere hdirectory hlease (hnew lease hlease)
  · exact Function.update_self _ _ _
  · intro other hne hport
    rcases hport with hcreated | hlease
    · rw [hcase] at hcreated
      exact absurd (Option.some.inj hcreated).symm hne
    · exact .inr hlease
  · intro node hnode
    change Function.update _ _ _ _ = _ at hnode
    rw [Function.update_self] at hnode
    obtain rfl := Option.some.inj hnode
    exact ⟨rfl, .inl rfl⟩

theorem keeps_acquire (halive : s.alive pid = true)
    (hcase : (s.processes pid).phase = .probing c token) :
    Keeps rt s pid (s.directory, (s.processes pid).acquire c token) := by
  have hold := h.holds pid halive
  have hplanned := h.planned pid
  obtain ⟨hpid, htoken, hnew, hfile⟩ := h.phaseHolds halive hcase
  have hport : IsPort c.port := by
    obtain ⟨htried, -⟩ := hplanned.rest c (by rw [hcase]; rfl)
    exact hplanned.searchable.valid c.port htried
  have hown : Occupies (s.processes pid) c.port := .inl (by rw [hcase]; rfl)
  refine keeps_of_touched h halive ?_ ⟨?_, ?_, trivial⟩ (fun _ _ => rfl)
    (h.free_of_own halive hown) ?_ ?_
  · exact hplanned.of_same rfl (.inr rfl)
  · refine List.nodup_cons.mpr ⟨?_, hold.ports⟩
    intro hmem
    obtain ⟨lease, hlease, heq⟩ := List.mem_map.mp hmem
    exact hnew lease hlease heq
  · intro lease hlease
    rcases List.mem_cons.mp hlease with rfl | hlease
    · exact ⟨hpid, hport, htoken, hfile⟩
    · exact hold.leases lease hlease
  · intro other hne hoccupies
    rcases hoccupies with hcreated | ⟨lease, hlease, heq⟩
    · rw [hcase] at hcreated
      exact absurd (Option.some.inj hcreated).symm hne
    · exact .inr ⟨lease, List.mem_cons_of_mem _ hlease, heq⟩
  · intro node hnode
    obtain ⟨id, hfile⟩ := hfile
    rw [hfile] at hnode
    obtain rfl := Option.some.inj hnode
    exact ⟨rfl, .inr ⟨_, List.mem_cons_self, rfl⟩⟩

theorem keeps_unavailable (halive : s.alive pid = true)
    (hcase : (s.processes pid).phase = .probing c token) :
    Keeps rt s pid (s.directory, { s.processes pid with phase := .cleaning c token }) := by
  have hphase : PhaseHolds rt s.directory pid (s.processes pid).leases (.probing c token) :=
    h.phaseHolds halive hcase
  refine keeps_of_same_directory h halive ?_ rfl ?_ hphase
  · exact (h.planned pid).of_same rfl (.inl (by rw [hcase]; rfl))
  · rw [hcase]
    rfl

theorem keeps_clean (halive : s.alive pid = true)
    (hcase : (s.processes pid).phase = .cleaning c token) :
    Keeps rt s pid (s.directory.unlink c.port, (s.processes pid).continueAfter c) := by
  have hold := h.holds pid halive
  obtain ⟨-, -, hnew, -⟩ := h.phaseHolds halive hcase
  have hown : Occupies (s.processes pid) c.port := .inl (by rw [hcase]; rfl)
  have hdirectory : ∀ other, other ≠ c.port →
      (s.directory.unlink c.port).files other = s.directory.files other :=
    fun other => files_unlink_of_ne
  have hleases : ((s.processes pid).continueAfter c).leases = (s.processes pid).leases :=
    leases_advanceTo
  refine keeps_of_touched h halive ?_ ⟨?_, ?_, phaseHolds_advanceTo⟩ hdirectory
    (h.free_of_own halive hown) ?_ ?_
  · exact (h.planned pid).continueAfter (by rw [hcase]; rfl)
  · rw [hleases]
    exact hold.ports
  · rw [hleases]
    intro lease hlease
    exact hold.leases_elsewhere hdirectory hlease (hnew lease hlease)
  · intro other hne hport
    rcases hport with hcreated | ⟨lease, hlease, heq⟩
    · rw [hcase] at hcreated
      exact absurd (Option.some.inj hcreated).symm hne
    · exact .inr ⟨lease, hleases ▸ hlease, heq⟩
  · intro node hfile
    rw [files_unlink_self] at hfile
    contradiction

theorem keeps_remove (halive : s.alive pid = true)
    (hcase : (s.processes pid).phase = .removing lease) :
    Keeps rt s pid (s.directory.unlink lease.port, (s.processes pid).drop lease) := by
  have hold := h.holds pid halive
  have hlease : lease ∈ (s.processes pid).leases := h.phaseHolds halive hcase
  have hown : Occupies (s.processes pid) lease.port := .inr ⟨lease, hlease, rfl⟩
  have hdirectory : ∀ other, other ≠ lease.port →
      (s.directory.unlink lease.port).files other = s.directory.files other :=
    fun other => files_unlink_of_ne
  have hnodup : (s.processes pid).leases.Nodup := hold.ports.of_map
  have hothers : ∀ other ∈ (s.processes pid).leases.erase lease,
      other ∈ (s.processes pid).leases ∧ other.port ≠ lease.port := by
    intro other hother
    obtain ⟨hne, hmem⟩ := hnodup.mem_erase_iff.mp hother
    refine ⟨hmem, ?_⟩
    intro heq
    exact hne (List.inj_on_of_nodup_map hold.ports hmem hlease heq)
  refine keeps_of_touched h halive ?_ ⟨?_, ?_, trivial⟩ hdirectory (h.free_of_own halive hown) ?_ ?_
  · exact (h.planned pid).of_same rfl (.inr rfl)
  · exact (List.erase_sublist.map _).nodup hold.ports
  · intro other hother
    obtain ⟨hmem, hne⟩ := hothers other hother
    exact hold.leases_elsewhere hdirectory hmem hne
  · intro other hne hport
    rcases hport with hcreated | ⟨kept, hkept, heq⟩
    · rw [hcase] at hcreated
      contradiction
    · refine .inr ⟨kept, hnodup.mem_erase_iff.mpr ⟨?_, hkept⟩, heq⟩
      rintro rfl
      exact hne heq.symm
  · intro node hfile
    rw [files_unlink_self] at hfile
    contradiction

end

variable {after : Directory × Process}

theorem keeps_advance (h : LeaseInv rt s) (hpid : IsPid pid) (halive : s.alive pid = true)
    (hfree : ∀ c, (s.processes pid).phase = .unlinking c → ∀ other, other ≠ pid →
      s.alive other = true → ¬ Occupies (s.processes other) c.port) {available : Bool}
    (hadvance : advance rt s.alive pid token available s.directory (s.processes pid) =
      some after) : Keeps rt s pid after := by
  rw [advance] at hadvance
  cases hcase : (s.processes pid).phase with
  | idle =>
      rw [hcase] at hadvance
      contradiction
  | reading c =>
      rw [hcase] at hadvance
      dsimp only at hadvance
      split at hadvance
      · rename_i existing hread
        rw [← Option.some.inj hadvance]
        exact keeps_reading h halive hcase hread
      · rw [← Option.some.inj hadvance]
        refine keeps_of_same_directory h halive ?_ rfl ?_ trivial
        · exact (h.planned pid).of_same rfl (.inl (by rw [hcase]; rfl))
        · rw [hcase]
          rfl
  | checking c existing =>
      rw [hcase] at hadvance
      dsimp only at hadvance
      split at hadvance
      · rw [← Option.some.inj hadvance]
        exact keeps_continue h halive (by rw [hcase]; rfl) (by rw [hcase]; rfl)
      · rename_i hdead
        rw [← Option.some.inj hadvance]
        exact keeps_stale h hpid halive hcase hdead
  | unlinking c =>
      rw [hcase] at hadvance
      dsimp only at hadvance
      split at hadvance
      · rw [← Option.some.inj hadvance]
        exact keeps_takeover h halive hcase (hfree c hcase)
      · rw [← Option.some.inj hadvance]
        exact keeps_continue h halive (by rw [hcase]; rfl) (by rw [hcase]; rfl)
  | testing c =>
      rw [hcase] at hadvance
      dsimp only at hadvance
      split at hadvance
      · rw [← Option.some.inj hadvance]
        exact keeps_continue h halive (by rw [hcase]; rfl) (by rw [hcase]; rfl)
      · rw [← Option.some.inj hadvance]
        refine keeps_of_same_directory h halive ?_ rfl ?_ trivial
        · exact (h.planned pid).of_same rfl (.inl (by rw [hcase]; rfl))
        · rw [hcase]
          rfl
  | creating c =>
      rw [hcase] at hadvance
      dsimp only at hadvance
      split at hadvance
      · rename_i htoken
        split at hadvance
        · rw [← Option.some.inj hadvance]
          exact keeps_continue h halive (by rw [hcase]; rfl) (by rw [hcase]; rfl)
        · rename_i hnone
          rw [← Option.some.inj hadvance]
          exact keeps_create h hpid halive hcase htoken hnone
      · contradiction
  | writing c id own =>
      rw [hcase] at hadvance
      rw [← Option.some.inj hadvance]
      exact keeps_write h halive hcase
  | probing c own =>
      rw [hcase] at hadvance
      dsimp only at hadvance
      split at hadvance
      · rw [← Option.some.inj hadvance]
        exact keeps_acquire h halive hcase
      · rw [← Option.some.inj hadvance]
        exact keeps_unavailable h halive hcase
  | cleaning c own =>
      rw [hcase] at hadvance
      rw [← Option.some.inj hadvance]
      exact keeps_clean h halive hcase
  | releasing lease =>
      have hlease : lease ∈ (s.processes pid).leases := h.phaseHolds halive hcase
      rw [hcase] at hadvance
      dsimp only at hadvance
      rw [h.readLease_eq halive hlease] at hadvance
      dsimp only at hadvance
      rw [if_pos ⟨rfl, rfl⟩] at hadvance
      rw [← Option.some.inj hadvance]
      refine keeps_of_same_directory h halive ?_ rfl ?_ hlease
      · exact (h.planned pid).of_same rfl (.inl (by rw [hcase]; rfl))
      · rw [hcase]
        rfl
  | removing lease =>
      rw [hcase] at hadvance
      rw [← Option.some.inj hadvance]
      exact keeps_remove h halive hcase

/-- No other live process has the port whose stale lease the step unlinks. -/
def Undisturbed (s : State) (e : Event) : Prop :=
  ∀ c token available, (s.processes e.pid).phase = .unlinking c →
    e.move = .advance token available → ∀ other, other ≠ e.pid → s.alive other = true →
      ¬ Occupies (s.processes other) c.port

variable {e : Event}

theorem keeps_act (h : LeaseInv rt s) (hpid : IsPid e.pid)
    (halive : s.alive e.pid = true) (hfits : Undisturbed s e)
    (hact : act rt s e.pid (s.processes e.pid) e.move = some after) : Keeps rt s e.pid after := by
  have hplanned := h.planned e.pid
  have hold := h.holds e.pid halive
  cases hmove : e.move with
  | reserve preferred =>
      rw [hmove, act] at hact
      split at hact
      · rename_i hidle
        rw [← Option.some.inj hact]
        refine keeps_of_same_directory h halive (planned_begin hidle) leases_begin ?_
          (phaseHolds_begin hidle)
        rw [created_begin hidle, hidle]
        rfl
      · contradiction
  | release lease =>
      rw [hmove, act] at hact
      split at hact
      · rename_i hheld
        obtain ⟨hidle, hlease⟩ := hheld
        rw [← Option.some.inj hact]
        refine keeps_of_same_directory h halive ?_ rfl ?_ hlease
        · exact hplanned.of_same rfl (.inr rfl)
        · rw [hidle]
          rfl
      · contradiction
  | advance token available =>
      rw [hmove] at hact
      exact keeps_advance h hpid halive
        (fun c hc other hne hother => hfits c token available hc hmove other hne hother) hact
  | die =>
      rw [hmove, act] at hact
      rw [← Option.some.inj hact]
      exact keeps_of_same_directory h halive (hplanned.of_same rfl (.inl rfl)) rfl rfl hold.phase

theorem exists_act_of_next {s' : State} (h : next rt s e = some s') :
    IsPid e.pid ∧ s.alive e.pid = true ∧ ∃ after,
      act rt s e.pid (s.processes e.pid) e.move = some after ∧
        s' = ⟨after.1, Function.update s.processes e.pid after.2⟩ := by
  rw [next] at h
  split at h
  · rename_i hready
    obtain ⟨after, hact, hs'⟩ := Option.map_eq_some_iff.mp h
    exact ⟨hready.1, hready.2, after, hact, hs'.symm⟩
  · contradiction

theorem leaseInv_step {s' : State} (h : LeaseInv rt s) (hnext : next rt s e = some s')
    (hfits : Undisturbed s e) : LeaseInv rt s' := by
  obtain ⟨hpid, halive, after, hact, rfl⟩ := exists_act_of_next hnext
  have hkeeps := keeps_act h hpid halive hfits hact
  have hself : Function.update s.processes e.pid after.2 e.pid = after.2 := Function.update_self _ _ _
  have hother : ∀ pid, pid ≠ e.pid →
      Function.update s.processes e.pid after.2 pid = s.processes pid :=
    fun pid hne => Function.update_of_ne hne _ _
  refine ⟨?_, ?_, ?_⟩
  · intro pid
    rcases Decidable.em (pid = e.pid) with rfl | hne
    · change Planned (Function.update s.processes e.pid after.2 e.pid)
      rw [hself]
      exact hkeeps.planned
    · change Planned (Function.update s.processes e.pid after.2 pid)
      rw [hother pid hne]
      exact h.planned pid
  · intro pid hlive
    change (Function.update s.processes e.pid after.2 pid).alive = true at hlive
    change Holds rt after.1 pid (Function.update s.processes e.pid after.2 pid)
    rcases Decidable.em (pid = e.pid) with rfl | hne
    · rw [hself] at hlive ⊢
      exact hkeeps.holds hlive
    · rw [hother pid hne] at hlive ⊢
      exact (h.holds pid hlive).of_frame (hkeeps.frame pid hne hlive)
  · intro port node pid hfile hcreator hlive
    change (Function.update s.processes e.pid after.2 pid).alive = true at hlive
    change Occupies (Function.update s.processes e.pid after.2 pid) port
    rcases hkeeps.files port node pid hfile hcreator with ⟨rfl, hown⟩ | ⟨hne, hbefore⟩
    · rw [hself] at hlive ⊢
      exact hown hlive
    · rw [hother pid hne] at hlive ⊢
      exact h.occupied port node pid hbefore hcreator hlive

theorem leaseInv_start (contents : Nat → Option Content) (alive : Nat → Bool) :
    LeaseInv rt (startState contents alive) where
  planned pid := by
    refine ⟨searchable_nil, ?_⟩
    intro c hc
    contradiction
  holds pid _ := ⟨List.nodup_nil, fun lease hlease => absurd hlease List.not_mem_nil, trivial⟩
  occupied port node pid hfile hcreator _ := by
    obtain ⟨content, -, rfl⟩ := Option.map_eq_some_iff.mp hfile
    contradiction

theorem leaseInv_of_run {contents : Nat → Option Content} {alive : Nat → Bool}
    {history : List Event}
    (hrun : Run ((leaseSystem rt contents alive).guarded Undisturbed) history s) :
    LeaseInv rt s := by
  refine hrun.state_invariant (P := LeaseInv rt) (leaseInv_start contents alive) ?_
  rintro before e after h ⟨hnext, hfits⟩
  exact leaseInv_step h hnext hfits

end Steps

section Progress

variable {rt : Runtime} {s : State} {pid : Nat}

/-- The call goes on, or it has thrown or returned a lease that its file shows. -/
def Answers (rt : Runtime) (pid : Nat) (directory : Directory) (process : Process) : Prop :=
  (candidateOf process.phase).isSome = true ∨ ∃ outcome, process.result = some outcome ∧
    ∀ lease, outcome = .ok lease →
      readLease rt (directory.files lease.port) = some ⟨pid, lease.port, lease.token⟩

theorem answers_continueAfter {directory : Directory} {process : Process} {c : Candidate} :
    Answers rt pid directory (process.continueAfter c) := by
  rw [Process.continueAfter]
  cases c.rest with
  | nil =>
      refine .inr ⟨.error .leaseExhausted, rfl, ?_⟩
      intro lease hlease
      contradiction
  | cons port rest => exact .inl rfl

variable {token : JsString} {available : Bool}

theorem exists_advance (h : LeaseInv rt s) (halive : s.alive pid = true)
    (htoken : isToken token = true) (hcall : (candidateOf (s.processes pid).phase).isSome = true) :
    ∃ after, advance rt s.alive pid token available s.directory (s.processes pid) = some after ∧
      stepsLeft after.2.phase < stepsLeft (s.processes pid).phase ∧
      Answers rt pid after.1 after.2 := by
  have hskip : ∀ {directory : Directory} {c : Candidate},
      8 * c.rest.length < stepsLeft (s.processes pid).phase →
        stepsLeft ((directory, (s.processes pid).continueAfter c).2).phase <
          stepsLeft (s.processes pid).phase ∧
        Answers rt pid directory ((s.processes pid).continueAfter c) :=
    fun hless => ⟨Nat.lt_of_le_of_lt stepsLeft_continueAfter hless, answers_continueAfter⟩
  rw [advance]
  cases hcase : (s.processes pid).phase with
  | idle =>
      rw [hcase] at hcall
      contradiction
  | releasing lease =>
      rw [hcase] at hcall
      contradiction
  | removing lease =>
      rw [hcase] at hcall
      contradiction
  | reading c =>
      dsimp only
      split
      · exact ⟨_, rfl, Nat.lt_succ_self _, .inl rfl⟩
      · refine ⟨_, rfl, ?_, .inl rfl⟩
        change 8 * c.rest.length + 6 < 8 * c.rest.length + 8
        omega
  | checking c existing =>
      rw [hcase] at hskip
      dsimp only
      split
      · exact ⟨_, rfl, hskip (Nat.lt_add_of_pos_right (by decide))⟩
      · exact ⟨_, rfl, Nat.lt_succ_self _, .inl rfl⟩
  | unlinking c =>
      rw [hcase] at hskip
      dsimp only
      split
      · exact ⟨_, rfl, Nat.lt_succ_self _, .inl rfl⟩
      · exact ⟨_, rfl, hskip (Nat.lt_add_of_pos_right (by decide))⟩
  | testing c =>
      rw [hcase] at hskip
      dsimp only
      split
      · exact ⟨_, rfl, hskip (Nat.lt_add_of_pos_right (by decide))⟩
      · exact ⟨_, rfl, Nat.lt_succ_self _, .inl rfl⟩
  | creating c =>
      rw [hcase] at hskip
      dsimp only
      rw [if_pos htoken]
      split
      · exact ⟨_, rfl, hskip (Nat.lt_add_of_pos_right (by decide))⟩
      · exact ⟨_, rfl, Nat.lt_succ_self _, .inl rfl⟩
  | writing c id own => exact ⟨_, rfl, Nat.lt_succ_self _, .inl rfl⟩
  | probing c own =>
      have hplanned := h.planned pid
      obtain ⟨hpid, hown, -, id, hfile⟩ := h.phaseHolds halive hcase
      have hport : IsPort c.port := by
        obtain ⟨htried, -⟩ := hplanned.rest c (by rw [hcase]; rfl)
        exact hplanned.searchable.valid c.port htried
      dsimp only
      split
      · refine ⟨_, rfl, Nat.succ_pos _, .inr ⟨_, rfl, ?_⟩⟩
        intro lease hlease
        obtain rfl := Except.ok.inj hlease
        change readLease rt (s.directory.files c.port) = _
        rw [hfile]
        exact readLease_recordText rt hpid hport hown
      · exact ⟨_, rfl, Nat.lt_succ_self _, .inl rfl⟩
  | cleaning c own =>
      rw [hcase] at hskip
      exact ⟨_, rfl, hskip (Nat.lt_add_of_pos_right (by decide))⟩

theorem exists_next (h : LeaseInv rt s) (hpid : IsPid pid) (halive : s.alive pid = true)
    (htoken : isToken token = true) (hcall : (candidateOf (s.processes pid).phase).isSome = true) :
    ∃ s', next rt s ⟨pid, .advance token available⟩ = some s' ∧
      stepsLeft (s'.processes pid).phase < stepsLeft (s.processes pid).phase ∧
      Answers rt pid s'.directory (s'.processes pid) := by
  obtain ⟨after, hact, hless, hanswers⟩ : ∃ after,
      act rt s pid (s.processes pid) (.advance token available) = some after ∧
        stepsLeft after.2.phase < stepsLeft (s.processes pid).phase ∧ Answers rt pid after.1 after.2 :=
    exists_advance h halive htoken hcall
  refine ⟨⟨after.1, Function.update s.processes pid after.2⟩, ?_, ?_, ?_⟩
  · rw [next, if_pos ⟨hpid, halive⟩, hact]
    rfl
  · change stepsLeft (Function.update s.processes pid after.2 pid).phase < _
    rw [Function.update_self]
    exact hless
  · change Answers rt pid after.1 (Function.update s.processes pid after.2 pid)
    rw [Function.update_self]
    exact hanswers

theorem stepsLeft_le (h : Planned (s.processes pid)) :
    (candidateOf (s.processes pid).phase).isSome = true →
      stepsLeft (s.processes pid).phase ≤ 8 * candidateCount := by
  intro hcall
  obtain ⟨c, hc⟩ := Option.isSome_iff_exists.mp hcall
  obtain ⟨htried, hall⟩ := h.rest c hc
  have hpositive := List.length_pos_of_mem htried
  have hlength := hall.bounded
  rw [List.length_append] at hlength
  have hsteps : stepsLeft (s.processes pid).phase ≤ 8 * c.rest.length + 8 := by
    cases hcase : (s.processes pid).phase with
    | idle | releasing _ | removing _ =>
        rw [hcase] at hc
        contradiction
    | _ =>
        rw [hcase] at hc
        obtain rfl := Option.some.inj hc
        simp only [stepsLeft]
        omega
  omega

end Progress

section Main

variable (rt : Runtime)

/-- What the leases promise: live holders of one port are one process, the file of a lease shows its
holder and token, and a call tries few ports, all valid and each once. -/
structure Exclusive (s : State) : Prop where
  holders : ∀ pid other lease lease', s.alive pid = true → s.alive other = true →
    lease ∈ (s.processes pid).leases → lease' ∈ (s.processes other).leases →
      lease.port = lease'.port → pid = other
  files : ∀ pid lease, s.alive pid = true → lease ∈ (s.processes pid).leases →
    readLease rt (s.directory.files lease.port) = some ⟨pid, lease.port, lease.token⟩
  tried : ∀ pid, Searchable (s.processes pid).tried

/-- The step removes no file that another live process has created. -/
def KeepsOthers (s : State) (e : Event) (s' : State) : Prop :=
  ∀ port node creator, s.directory.files port = some node → s'.directory.files port = none →
    node.creator = some creator → creator ≠ e.pid → s.alive creator = false

/-- A live process in a call can always go on, and ends it after at most eight operations for each
candidate. -/
def CallsEnd (s : State) : Prop :=
  ∀ pid token available, IsPid pid → s.alive pid = true → isToken token = true →
    (candidateOf (s.processes pid).phase).isSome = true →
      stepsLeft (s.processes pid).phase ≤ 8 * candidateCount ∧
      ∃ s', next rt s ⟨pid, .advance token available⟩ = some s' ∧
        stepsLeft (s'.processes pid).phase < stepsLeft (s.processes pid).phase ∧
        Answers rt pid s'.directory (s'.processes pid)

variable {rt}

theorem exclusive_of_leaseInv {s : State} (h : LeaseInv rt s) : Exclusive rt s where
  holders _ _ lease lease' halive hother hlease hlease' hport :=
    (h.exclusive halive hother (.inr ⟨lease, hlease, rfl⟩)
      (.inr ⟨lease', hlease', hport.symm⟩)).symm
  files _ _ halive hlease := h.readLease_eq halive hlease
  tried pid := (h.planned pid).searchable

theorem keepsOthers_iff {s s' : State} {e : Event} (h : LeaseInv rt s)
    (hnext : next rt s e = some s') : KeepsOthers s e s' ↔ Undisturbed s e := by
  constructor
  · intro hkeeps c token available hcase hmove other hne hother hport
    obtain ⟨node, hfile, hcreator⟩ := (h.holds other hother).file_of_occupies hport
    obtain ⟨-, -, after, hact, rfl⟩ := exists_act_of_next hnext
    rw [hmove, act, advance, hcase] at hact
    dsimp only at hact
    rw [hfile] at hact
    have hgone : after.1.files c.port = none := by
      rw [← Option.some.inj hact]
      exact Function.update_self _ _ _
    have hdead := hkeeps c.port node other hfile hgone hcreator hne
    rw [hother] at hdead
    contradiction
  · intro hfits port node creator hfile hgone hcreator hne
    rw [Bool.eq_false_iff]
    intro hother
    obtain ⟨hpid, halive, after, hact, rfl⟩ := exists_act_of_next hnext
    have hport := h.occupied port node creator hfile hcreator hother
    have hsame := (keeps_act h hpid halive hfits hact).frame creator hne hother port hport
    change after.1.files port = none at hgone
    rw [hsame, hfile] at hgone
    contradiction

variable (rt)

/-- In every run whose takeovers are undisturbed the leases are exclusive and every call ends;
the first disturbed takeover removes the file of another live process. -/
theorem leases_are_exclusive_iff (contents : Nat → Option Content) (alive : Nat → Bool)
    (history : List Event) (s : State)
    (hrun : Run ((leaseSystem rt contents alive).guarded Undisturbed) history s) :
    Exclusive rt s ∧ CallsEnd rt s ∧
      ∀ e s', next rt s e = some s' → (KeepsOthers s e s' ↔ Undisturbed s e) := by
  have hinv := leaseInv_of_run hrun
  refine ⟨exclusive_of_leaseInv hinv, ?_, fun e s' hnext => keepsOthers_iff hinv hnext⟩
  intro pid token available hpid halive htoken hcall
  exact ⟨stepsLeft_le (hinv.planned pid) hcall, exists_next hinv hpid halive htoken hcall⟩

section Alone

variable {rt} {contents : Nat → Option Content} {alive : Nat → Bool} {history : List Event}
  {s : State}

theorem alive_of_run (hrun : Run (leaseSystem rt contents alive) history s) :
    ∀ pid, s.alive pid = true → alive pid = true := by
  refine hrun.state_invariant (P := fun s => ∀ pid, s.alive pid = true → alive pid = true)
    (fun _ h => h) ?_
  intro before e after hbefore hnext pid hlive
  obtain ⟨-, halive, stepped, -, rfl⟩ := exists_act_of_next hnext
  rcases Decidable.em (pid = e.pid) with rfl | hne
  · exact hbefore e.pid halive
  · change (Function.update before.processes e.pid stepped.2 pid).alive = true at hlive
    rw [Function.update_of_ne hne] at hlive
    exact hbefore pid hlive

theorem guarded_run_alone {holder : Nat} (halone : ∀ pid, alive pid = true → pid = holder)
    (hrun : Run (leaseSystem rt contents alive) history s) :
    Run ((leaseSystem rt contents alive).guarded Undisturbed) history s := by
  induction hrun with
  | start => exact .start
  | step hrun hnext ih =>
      refine ih.step ⟨hnext, ?_⟩
      intro c token available _ _ other hne hother
      obtain ⟨-, halive, -⟩ := exists_act_of_next hnext
      have hsame := (halone other (alive_of_run hrun other hother)).trans
        (halone _ (alive_of_run hrun _ halive)).symm
      exact absurd hsame hne

end Alone

def sampleToken : JsString := "0123456789abcdef01234567".toList

def request (pid : Nat) : Event := ⟨pid, .reserve (.ofNat 65535)⟩

def operation (pid : Nat) : Event := ⟨pid, .advance sampleToken true⟩

def staleContents (port : Nat) : Option Content :=
  if port = 65535 then some (.text (recordText plainRuntime 3 65535 sampleToken)) else none

def heldPorts (s : State) (pid : Nat) : List Nat :=
  (s.processes pid).leases.map ProxyPortLease.port

theorem leases_are_exclusive_iff_takeover :
    ∃ s, Run ((leaseSystem plainRuntime staleContents fun pid => pid = 1).guarded Undisturbed)
        (request 1 :: List.replicate 6 (operation 1)) s ∧ heldPorts s 1 = [65535] ∧
      Exclusive plainRuntime s ∧ CallsEnd plainRuntime s ∧
      ∀ e s', next plainRuntime s e = some s' → (KeepsOthers s e s' ↔ Undisturbed s e) := by
  have hheld : ((evaluate (next plainRuntime) (startState staleContents fun pid => pid = 1)
      (request 1 :: List.replicate 6 (operation 1))).map fun s => heldPorts s 1) =
        some [65535] := by
    decide +kernel
  obtain ⟨s, hs, hports⟩ := Option.map_eq_some_iff.mp hheld
  have halone : ∀ pid, decide (pid = 1) = true → pid = 1 := fun pid h => of_decide_eq_true h
  have hrun := guarded_run_alone halone (run_of_evaluate hs)
  exact ⟨s, hrun, hports, leases_are_exclusive_iff plainRuntime _ _ _ s hrun⟩

/-- Both find the stale lease; one takes it over, and the other removes the new file for the old
one. -/
def race : List Event :=
  [request 1, request 2, operation 1, operation 2, operation 1, operation 2] ++
    List.replicate 4 (operation 1) ++ List.replicate 4 (operation 2)

theorem two_processes_hold_one_port :
    ∃ s, Run (leaseSystem plainRuntime staleContents fun pid => pid ≠ 3) race s ∧
      s.alive 1 = true ∧ s.alive 2 = true ∧ heldPorts s 1 = [65535] ∧ heldPorts s 2 = [65535] := by
  have hheld : ((evaluate (next plainRuntime) (startState staleContents fun pid => pid ≠ 3)
      race).map fun s => (s.alive 1, s.alive 2, heldPorts s 1, heldPorts s 2)) =
        some (true, true, [65535], [65535]) := by
    decide +kernel
  obtain ⟨s, hs, hvalues⟩ := Option.map_eq_some_iff.mp hheld
  simp only [Prod.mk.injEq] at hvalues
  exact ⟨s, run_of_evaluate hs, hvalues⟩

end Main

end NightWatch.Proxy.LeaseExclusion
