import NightWatch.Lib.JsRuntime
import NightWatch.Lib.UriDecode

namespace NightWatch.Safety.AdmissionTickets

open Lib.JsText Lib.JsRuntime Lib.UriDecode

def maxAdmissionTickets : Nat := 4096

def maxTunnelsPerHost : Nat := 8

structure AdmissionTicketInput where
  environment : JsString
  origin : JsString
  method : JsString
  matchPattern : JsString
  ruleId : JsString
  sourceProof : JsString
  generationId : JsString
  transport : JsString

inductive TicketPattern where
  | path (pathname : JsString)
  | expression (test : JsString → Bool)

def TicketPattern.covers : TicketPattern → JsString → Bool
  | path expected, pathname => expected = pathname
  | expression test, pathname => test pathname

def safePattern (rt : Runtime) (pattern : JsString) : Except JsString TicketPattern :=
  if startsWith pattern "^".toList then
    if !endsWith pattern "$".toList then .error "ADMISSION_TICKET_PATTERN_UNANCHORED".toList
    else
      match rt.regExp pattern with
      | some test => .ok (.expression test)
      | none => .error "SyntaxError".toList
  else if '?' ∈ pattern || '#' ∈ pattern || includes pattern "..".toList then
    .error "ADMISSION_TICKET_PATTERN_UNSAFE".toList
  else .ok (.path pattern)

structure TicketRecord (rt : Runtime) where
  input : AdmissionTicketInput
  consumed : Bool
  registered : ∃ pattern, safePattern rt input.matchPattern = .ok pattern

structure TicketRequest where
  origin : JsString
  method : JsString
  pathname : JsString

inductive TunnelAnswer where
  | admitted
  | capabilityMissing
  | budgetExceeded
  | threw

def patternCovers (rt : Runtime) (pattern pathname : JsString) : Bool :=
  match safePattern rt pattern with
  | .ok pattern => pattern.covers (decodeURIComponentSafe pathname)
  | .error _ => false

/-- Same origin, same upper-cased method, and a path the pattern covers. -/
def Covers (rt : Runtime) (input : AdmissionTicketInput) (request : TicketRequest) : Prop :=
  input.origin = request.origin ∧
    rt.toUpperCase input.method = rt.toUpperCase (trim request.method) ∧
      patternCovers rt input.matchPattern request.pathname = true

instance (rt : Runtime) (input : AdmissionTicketInput) (request : TicketRequest) :
    Decidable (Covers rt input request) :=
  inferInstanceAs (Decidable (_ ∧ _ ∧ _))

structure AdmissionTicketLedger (rt : Runtime) where
  tickets : List (TicketRecord rt)
  tunnels : JsString → Nat
  tickets_le : tickets.length ≤ maxAdmissionTickets
  tunnels_le : ∀ hostname, tunnels hostname ≤ maxTunnelsPerHost

namespace AdmissionTicketLedger

variable {rt : Runtime}

def empty (rt : Runtime) : AdmissionTicketLedger rt :=
  ⟨[], fun _ => 0, Nat.zero_le _, fun _ => Nat.zero_le _⟩

def makeRoom (tickets : List (TicketRecord rt)) : List (TicketRecord rt) :=
  if maxAdmissionTickets ≤ tickets.length then
    match tickets.findIdx? (·.consumed) with
    | some oldest => tickets.eraseIdx oldest
    | none => tickets
  else tickets

theorem makeRoom_length_le (tickets : List (TicketRecord rt)) :
    (makeRoom tickets).length ≤ tickets.length := by
  unfold makeRoom
  split
  · split
    · exact List.length_eraseIdx_le tickets _
    · exact le_rfl
  · exact le_rfl

def mint (ledger : AdmissionTicketLedger rt) (input : AdmissionTicketInput) :
    Except JsString Unit × AdmissionTicketLedger rt :=
  let kept := makeRoom ledger.tickets
  have kept_le : kept.length ≤ maxAdmissionTickets :=
    (makeRoom_length_le ledger.tickets).trans ledger.tickets_le
  if hroom : kept.length < maxAdmissionTickets then
    match hpattern : safePattern rt input.matchPattern with
    | .ok pattern =>
        (.ok (), { ledger with
          tickets := kept ++ [⟨input, false, pattern, hpattern⟩]
          tickets_le := by
            rw [List.length_append]
            exact hroom })
    | .error code => (.error code, { ledger with tickets := kept, tickets_le := kept_le })
  else
    (.error "ADMISSION_TICKET_BUDGET_EXCEEDED".toList,
      { ledger with tickets := kept, tickets_le := kept_le })

def consumable (rt : Runtime) (request : TicketRequest) (ticket : TicketRecord rt) : Bool :=
  !ticket.consumed && decide (Covers rt ticket.input request)

/-- The first ticket that fits is used up; `false` is `PROXY_ADMISSION_TICKET_MISSING`. -/
def consume (ledger : AdmissionTicketLedger rt) (request : TicketRequest) :
    Bool × AdmissionTicketLedger rt :=
  match ledger.tickets.findIdx? (consumable rt request) with
  | some first =>
      (true, { ledger with
        tickets := ledger.tickets.modify first fun ticket => { ticket with consumed := true }
        tickets_le := by simpa using ledger.tickets_le })
  | none => (false, ledger)

/-- Whether some ticket is for the host; `none` when an origin before it has no parse. -/
def hostHasAuthority (rt : Runtime) (hostname : JsString) : List (TicketRecord rt) → Option Bool
  | [] => some false
  | ticket :: rest =>
      match rt.parseUrl ticket.input.origin with
      | none => none
      | some url => if url.hostname = hostname then some true else hostHasAuthority rt hostname rest

def authorizeTunnel (ledger : AdmissionTicketLedger rt) (hostname : JsString) :
    TunnelAnswer × AdmissionTicketLedger rt :=
  match hostHasAuthority rt hostname ledger.tickets with
  | none => (.threw, ledger)
  | some false => (.capabilityMissing, ledger)
  | some true =>
      if hbudget : maxTunnelsPerHost ≤ ledger.tunnels hostname then (.budgetExceeded, ledger)
      else
        (.admitted, { ledger with
          tunnels := Function.update ledger.tunnels hostname (ledger.tunnels hostname + 1)
          tunnels_le := by
            intro other
            rcases eq_or_ne other hostname with rfl | hne
            · rw [Function.update_self]
              omega
            · rw [Function.update_of_ne hne]
              exact ledger.tunnels_le other })

def unconsumedCount (ledger : AdmissionTicketLedger rt) : Nat :=
  ledger.tickets.countP fun ticket => !ticket.consumed

def totalCount (ledger : AdmissionTicketLedger rt) : Nat := ledger.tickets.length

/-- A ticket in the ledger is for the host. -/
def HasAuthority (ledger : AdmissionTicketLedger rt) (hostname : JsString) : Prop :=
  ∃ ticket ∈ ledger.tickets, ∃ url, rt.parseUrl ticket.input.origin = some url ∧
    url.hostname = hostname

theorem exists_of_hostHasAuthority {hostname : JsString} {tickets : List (TicketRecord rt)}
    (h : hostHasAuthority rt hostname tickets = some true) :
    ∃ ticket ∈ tickets, ∃ url, rt.parseUrl ticket.input.origin = some url ∧
      url.hostname = hostname := by
  induction tickets with
  | nil => cases h
  | cons ticket rest ih =>
      rw [hostHasAuthority] at h
      split at h
      · contradiction
      · rename_i url hurl
        split at h
        · rename_i hhost
          exact ⟨ticket, by simp, url, hurl, hhost⟩
        · obtain ⟨found, hmem, hfound⟩ := ih h
          exact ⟨found, List.mem_cons_of_mem _ hmem, hfound⟩

end AdmissionTicketLedger

end NightWatch.Safety.AdmissionTickets
