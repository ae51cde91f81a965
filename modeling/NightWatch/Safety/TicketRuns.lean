import NightWatch.Lib.OneShot
import NightWatch.Safety.AdmissionTickets

namespace NightWatch.Safety.TicketRuns

open Lib.JsText Lib.JsRuntime Lib.Machine Lib.OneShot Safety.AdmissionTickets
  Safety.AdmissionTickets.AdmissionTicketLedger

inductive TicketEvent where
  | mint (input : AdmissionTicketInput) (result : Except JsString Unit)
  | consume (request : TicketRequest) (admitted : Bool)
  | authorizeTunnel (hostname : JsString) (answer : TunnelAnswer)
  | reset

def Called {rt : Runtime} (ledger : AdmissionTicketLedger rt) :
    TicketEvent → AdmissionTicketLedger rt → Prop
  | .mint input result, after => ledger.mint input = (result, after)
  | .consume request admitted, after => ledger.consume request = (admitted, after)
  | .authorizeTunnel hostname answer, after => ledger.authorizeTunnel hostname = (answer, after)
  | .reset, after => after = AdmissionTicketLedger.empty rt

def ledgerSystem (rt : Runtime) : System (AdmissionTicketLedger rt) TicketEvent where
  start := AdmissionTicketLedger.empty rt
  step := Called

/-! ## Refinement of the token store -/

def token {rt : Runtime} (ticket : TicketRecord rt) : Token AdmissionTicketInput :=
  ⟨ticket.input, ticket.consumed⟩

def tokens {rt : Runtime} (ledger : AdmissionTicketLedger rt) : List (Token AdmissionTicketInput) :=
  ledger.tickets.map token

/-- The move of the store that a call amounts to. -/
inductive Shows (rt : Runtime) : TicketEvent → Move AdmissionTicketInput → Prop
  | minted (input : AdmissionTicketInput) : Shows rt (.mint input (.ok ())) (.issue input)
  | mintRefused (input : AdmissionTicketInput) (code : JsString) :
      Shows rt (.mint input (.error code)) .skip
  | consumed (request : TicketRequest) (input : AdmissionTicketInput)
      (h : Covers rt input request) : Shows rt (.consume request true) (.spend input)
  | missing (request : TicketRequest) : Shows rt (.consume request false) .skip
  | tunnel (hostname : JsString) (answer : TunnelAnswer) :
      Shows rt (.authorizeTunnel hostname answer) .skip
  | reset : Shows rt .reset .clear

variable {rt : Runtime}

theorem forgets_makeRoom (tickets : List (TicketRecord rt)) :
    Forgets (tickets.map token) ((makeRoom tickets).map token) := by
  unfold makeRoom
  split
  · split
    · rename_i oldest hfind
      obtain ⟨hlt, hconsumed, -⟩ := List.findIdx?_eq_some_iff_getElem.mp hfind
      have hget : (tickets.map token)[oldest]? = some (token tickets[oldest]) := by
        rw [List.getElem?_map, List.getElem?_eq_getElem hlt, Option.map_some]
      rw [List.eraseIdx_eq_take_drop_succ, List.map_append, List.map_take, List.map_drop,
        ← List.eraseIdx_eq_take_drop_succ]
      exact .spent _ oldest _ hget hconsumed
    · exact .none _
  · exact .none _

variable {ledger after : AdmissionTicketLedger rt}

theorem mint_refines {input : AdmissionTicketInput}
    {result : Except JsString Unit} (h : ledger.mint input = (result, after)) :
    ∃ move, Step (tokens ledger) move (tokens after) ∧ Shows rt (.mint input result) move := by
  have hkept := forgets_makeRoom ledger.tickets
  simp only [mint] at h
  split at h
  · split at h
    · cases h
      refine ⟨.issue input, ?_, .minted input⟩
      simp only [tokens, List.map_append, List.map_singleton]
      exact .issue input hkept
    · cases h
      exact ⟨.skip, .skip hkept, .mintRefused input _⟩
  · cases h
    exact ⟨.skip, .skip hkept, .mintRefused input _⟩

theorem consume_refines {request : TicketRequest}
    {admitted : Bool} (h : ledger.consume request = (admitted, after)) :
    ∃ move, Step (tokens ledger) move (tokens after) ∧
      Shows rt (.consume request admitted) move := by
  unfold consume at h
  split at h
  · rename_i first hfind
    cases h
    obtain ⟨hlt, hfits, -⟩ := List.findIdx?_eq_some_iff_getElem.mp hfind
    simp only [consumable, Bool.and_eq_true, Bool.not_eq_true', decide_eq_true_eq] at hfits
    refine ⟨.spend ledger.tickets[first].input, ?_, .consumed request _ hfits.2⟩
    have hget : (tokens ledger)[first]? = some ⟨ledger.tickets[first].input, false⟩ := by
      rw [tokens, List.getElem?_map, List.getElem?_eq_getElem hlt, Option.map_some, token, hfits.1]
    have hset : (ledger.tickets.modify first fun ticket => { ticket with consumed := true }).map
        token = (tokens ledger).set first ⟨ledger.tickets[first].input, true⟩ := by
      apply List.ext_getElem?
      intro i
      rcases eq_or_ne first i with rfl | hne
      · rw [List.getElem?_map, List.getElem?_modify_eq, List.getElem?_eq_getElem hlt,
          List.getElem?_set_self (lt_of_getElem? hget)]
        rfl
      · rw [List.getElem?_map, List.getElem?_modify_ne _ _ hne, List.getElem?_set_ne hne, tokens,
          List.getElem?_map]
    change Step (tokens ledger) _ (List.map token _)
    rw [hset]
    exact .spend first _ hget
  · cases h
    exact ⟨.skip, .skip (.none _), .missing request⟩

variable {hostname : JsString}

theorem authorizeTunnel_tickets
    {answer : TunnelAnswer} (h : ledger.authorizeTunnel hostname = (answer, after)) :
    after.tickets = ledger.tickets := by
  unfold authorizeTunnel at h
  split at h
  · cases h
    rfl
  · cases h
    rfl
  · split at h
    · cases h
      rfl
    · cases h
      rfl

theorem called_refines {event : TicketEvent} (h : Called ledger event after) :
    ∃ move, Step (tokens ledger) move (tokens after) ∧ Shows rt event move := by
  cases event with
  | mint input result => exact mint_refines h
  | consume request admitted => exact consume_refines h
  | authorizeTunnel hostname answer =>
      refine ⟨.skip, ?_, .tunnel hostname answer⟩
      have hsame : tokens after = tokens ledger :=
        congrArg (List.map token) (authorizeTunnel_tickets h)
      rw [hsame]
      exact .skip (.none _)
  | reset =>
      cases h
      exact ⟨.clear, .clear _, .reset⟩

variable {history : List TicketEvent}

theorem store_run (hrun : Run (ledgerSystem rt) history ledger) :
    ∃ moves, Run (store AdmissionTicketInput) moves (tokens ledger) ∧
      List.Forall₂ (Shows rt) history moves := by
  have hstep : ∀ before held event after, tokens before = held →
      (ledgerSystem rt).step before event after → ∃ move held', (store AdmissionTicketInput).step
        held move held' ∧ Shows rt event move ∧ tokens after = held' := by
    rintro before held event after rfl hcalled
    obtain ⟨move, hstep, hshow⟩ := called_refines hcalled
    exact ⟨move, tokens after, hstep, hshow, rfl⟩
  obtain ⟨moves, held, hmoves, hshows, rfl⟩ := hrun.simulation (n := store AdmissionTicketInput)
    (R := fun ledger held => tokens ledger = held) rfl hstep
  exact ⟨moves, hmoves, hshows⟩

/-! ## Accounts of the calls -/

def NoResetAfter (history : List TicketEvent) (k : Nat) : Prop :=
  ∀ j, k < j → history[j]? ≠ some .reset

def ConsumedFrom (history : List TicketEvent) (mintOf : Nat → Nat) (k : Nat) : Prop :=
  ∃ i request, history[i]? = some (.consume request true) ∧ mintOf i = k

def isReset : TicketEvent → Bool
  | .reset => true
  | _ => false

def opensTunnel (hostname : JsString) : TicketEvent → Bool
  | .authorizeTunnel host .admitted => host = hostname
  | _ => false

def tunnelsSinceReset (history : List TicketEvent) (hostname : JsString) : Nat :=
  (history.rtakeWhile fun event => !isReset event).countP (opensTunnel hostname)

/-- What a sequence of calls did, with the mint that each admitted consumption uses up. -/
structure TicketAccounts (rt : Runtime) (history : List TicketEvent)
    (ledger : AdmissionTicketLedger rt) (mintOf : Nat → Nat) : Prop where
  matched : ∀ i request, history[i]? = some (.consume request true) → mintOf i < i ∧
    (∃ input, history[mintOf i]? = some (.mint input (.ok ())) ∧ Covers rt input request) ∧
      ∀ j, mintOf i < j → j < i → history[j]? ≠ some .reset
  injective : ∀ i i' request request', history[i]? = some (.consume request true) →
    history[i']? = some (.consume request' true) → mintOf i = mintOf i' → i = i'
  bounded : ledger.tickets.length ≤ maxAdmissionTickets
  /-- Each ticket has its own mint, and every mint that was not consumed has its ticket. -/
  retained : ∃ owners : List Nat, owners.Nodup ∧
    List.Forall₂ (fun k ticket => history[k]? = some (.mint ticket.input (.ok ())) ∧
      NoResetAfter history k ∧ (ticket.consumed = true ↔ ConsumedFrom history mintOf k))
      owners ledger.tickets ∧
    ∀ k input, history[k]? = some (.mint input (.ok ())) → NoResetAfter history k →
      ConsumedFrom history mintOf k ∨ k ∈ owners
  tunnels : ∀ hostname, tunnelsSinceReset history hostname ≤ maxTunnelsPerHost
  authority : ∀ i hostname, history[i]? = some (.authorizeTunnel hostname .admitted) →
    ∃ before, Run (ledgerSystem rt) (history.take i) before ∧ before.HasAuthority hostname

section Translation

variable {history : List TicketEvent} {moves : List (Move AdmissionTicketInput)} {i : Nat}

theorem spend_of_consume (h : List.Forall₂ (Shows rt) history moves)
    {request : TicketRequest} (hi : history[i]? = some (.consume request true)) :
    ∃ input, moves[i]? = some (.spend input) ∧ Covers rt input request := by
  obtain ⟨move, hmove, hshow⟩ := exists_getElem?_of_forall₂ h hi
  cases hshow with
  | consumed _ input hcovers => exact ⟨input, hmove, hcovers⟩

variable {input : AdmissionTicketInput}

section

variable (h : List.Forall₂ (Shows rt) history moves)

include h

theorem consume_of_spend (hi : moves[i]? = some (.spend input)) :
    ∃ request, history[i]? = some (.consume request true) := by
  obtain ⟨event, hevent, hshow⟩ := exists_getElem?_of_forall₂ h.flip hi
  cases hshow with
  | consumed request _ hcovers => exact ⟨request, hevent⟩

theorem issue_iff_mint :
    moves[i]? = some (.issue input) ↔ history[i]? = some (.mint input (.ok ())) := by
  constructor
  · intro hi
    obtain ⟨event, hevent, hshow⟩ := exists_getElem?_of_forall₂ h.flip hi
    cases hshow with
    | minted _ => exact hevent
  · intro hi
    obtain ⟨move, hmove, hshow⟩ := exists_getElem?_of_forall₂ h hi
    cases hshow with
    | minted _ => exact hmove

theorem clear_iff_reset : moves[i]? = some .clear ↔ history[i]? = some .reset := by
  constructor
  · intro hi
    obtain ⟨event, hevent, hshow⟩ := exists_getElem?_of_forall₂ h.flip hi
    cases hshow with
    | reset => exact hevent
  · intro hi
    obtain ⟨move, hmove, hshow⟩ := exists_getElem?_of_forall₂ h hi
    cases hshow with
    | reset => exact hmove

theorem open_iff_noResetAfter {k : Nat} : Open moves k ↔ NoResetAfter history k := by
  apply forall_congr'
  intro j
  rw [Ne, clear_iff_reset h]

theorem spentBy_iff_consumedFrom
    {mintOf : Nat → Nat} {k : Nat} : SpentBy moves mintOf k ↔ ConsumedFrom history mintOf k := by
  constructor
  · rintro ⟨i, input, hi, hk⟩
    obtain ⟨request, hrequest⟩ := consume_of_spend h hi
    exact ⟨i, request, hrequest, hk⟩
  · rintro ⟨i, request, hi, hk⟩
    obtain ⟨input, hinput, -⟩ := spend_of_consume h hi
    exact ⟨i, input, hinput, hk⟩

end

end Translation

theorem tunnels_eq_sinceReset (hrun : Run (ledgerSystem rt) history ledger) :
    ∀ hostname, ledger.tunnels hostname = tunnelsSinceReset history hostname := by
  refine hrun.invariant (P := fun history ledger =>
    ∀ hostname, ledger.tunnels hostname = tunnelsSinceReset history hostname) ?_ ?_
  · intro hostname
    rfl
  · intro past before event after ih hcalled hostname
    have hadd : isReset event = false → tunnelsSinceReset (past ++ [event]) hostname =
        tunnelsSinceReset past hostname + if opensTunnel hostname event then 1 else 0 := by
      intro hreset
      rw [tunnelsSinceReset, List.rtakeWhile_concat_pos _ _ _ (by simp [hreset]),
        List.countP_append, List.countP_singleton]
      rfl
    cases event with
    | mint input result =>
        rw [hadd rfl, ← ih]
        have hsame : after.tunnels = before.tunnels := by
          simp only [ledgerSystem, Called, mint] at hcalled
          split at hcalled
          · split at hcalled
            · cases hcalled
              rfl
            · cases hcalled
              rfl
          · cases hcalled
            rfl
        rw [hsame]
        rfl
    | consume request admitted =>
        rw [hadd rfl, ← ih]
        have hsame : after.tunnels = before.tunnels := by
          simp only [ledgerSystem, Called, consume] at hcalled
          split at hcalled
          · cases hcalled
            rfl
          · cases hcalled
            rfl
        rw [hsame]
        rfl
    | authorizeTunnel host answer =>
        rw [hadd rfl, ← ih]
        simp only [ledgerSystem, Called, authorizeTunnel] at hcalled
        split at hcalled
        · cases hcalled
          rfl
        · cases hcalled
          rfl
        · split at hcalled
          · cases hcalled
            rfl
          · cases hcalled
            rcases eq_or_ne hostname host with rfl | hne
            · simp [opensTunnel]
            · simp [opensTunnel, Function.update_of_ne hne, hne.symm]
    | reset =>
        cases hcalled
        rw [tunnelsSinceReset, List.rtakeWhile_concat_neg _ _ _ (by simp [isReset])]
        rfl

theorem hasAuthority_of_admitted
    (h : ledger.authorizeTunnel hostname = (.admitted, after)) : ledger.HasAuthority hostname := by
  unfold authorizeTunnel at h
  split at h
  · cases h
  · cases h
  · rename_i hauthority
    exact exists_of_hostHasAuthority hauthority

/-- Every sequence of calls on a ledger can be accounted for. -/
theorem ticket_accounts {history : List TicketEvent} {ledger : AdmissionTicketLedger rt}
    (hrun : Run (ledgerSystem rt) history ledger) :
    ∃ mintOf, TicketAccounts rt history ledger mintOf := by
  obtain ⟨moves, hmoves, hshows⟩ := store_run hrun
  obtain ⟨mintOf, owners, haccounts⟩ := exists_accounts hmoves
  refine ⟨mintOf, ?_, ?_, ledger.tickets_le, ⟨owners, haccounts.nodup, ?_, ?_⟩, ?_, ?_⟩
  · intro i request hi
    obtain ⟨input, hinput, hcovers⟩ := spend_of_consume hshows hi
    obtain ⟨hlt, hissue, hclear⟩ := haccounts.spend_issue i input hinput
    refine ⟨hlt, ⟨input, (issue_iff_mint hshows).mp hissue, hcovers⟩, fun j hij hji hj => ?_⟩
    exact hclear j hij hji ((clear_iff_reset hshows).mpr hj)
  · intro i i' request request' hi hi' heq
    obtain ⟨input, hinput, -⟩ := spend_of_consume hshows hi
    obtain ⟨input', hinput', -⟩ := spend_of_consume hshows hi'
    exact haccounts.injective i i' input input' hinput hinput' heq
  · have hheld := haccounts.held
    rw [tokens, List.forall₂_map_right_iff] at hheld
    refine hheld.imp fun k ticket ⟨hissue, hopen, hspent⟩ => ⟨(issue_iff_mint hshows).mp hissue,
      (open_iff_noResetAfter hshows).mp hopen, ?_⟩
    exact hspent.trans (spentBy_iff_consumedFrom hshows)
  · intro k input hk hopen
    rw [← spentBy_iff_consumedFrom hshows]
    exact haccounts.kept k input ((issue_iff_mint hshows).mpr hk)
      ((open_iff_noResetAfter hshows).mpr hopen)
  · intro hostname
    rw [← tunnels_eq_sinceReset hrun]
    exact ledger.tunnels_le hostname
  · intro i hostname hi
    obtain ⟨before, after, hbefore, hcalled⟩ := hrun.at hi
    exact ⟨before, hbefore, hasAuthority_of_admitted hcalled⟩

def itemsTicket : AdmissionTicketInput where
  environment := "dev".toList
  origin := "https://api.example".toList
  method := "GET".toList
  matchPattern := "/items".toList
  ruleId := "items.read".toList
  sourceProof := "contract".toList
  generationId := "gen:000001".toList
  transport := "PLAYWRIGHT_ROUTE".toList

def itemsTicketRequest : TicketRequest where
  origin := "https://api.example".toList
  method := "get".toList
  pathname := "/items".toList

def ticketRuntime : Runtime := tableRuntime [] (by decide)

def mintedLedger : AdmissionTicketLedger ticketRuntime :=
  ((AdmissionTicketLedger.empty ticketRuntime).mint itemsTicket).2

def consumedLedger : AdmissionTicketLedger ticketRuntime :=
  (mintedLedger.consume itemsTicketRequest).2

theorem run_consumed : Run (ledgerSystem ticketRuntime)
    [.mint itemsTicket (.ok ()), .consume itemsTicketRequest true] consumedLedger := by
  have hminted : Run (ledgerSystem ticketRuntime) ([] ++ [.mint itemsTicket (.ok ())])
      mintedLedger := .step .start (Prod.ext rfl rfl)
  have hconsumed : Run (ledgerSystem ticketRuntime)
      ([.mint itemsTicket (.ok ())] ++ [.consume itemsTicketRequest true]) consumedLedger :=
    .step hminted (Prod.ext rfl rfl)
  exact hconsumed

theorem ticket_accounts_items : ∃ mintOf, TicketAccounts ticketRuntime
      [.mint itemsTicket (.ok ()), .consume itemsTicketRequest true] consumedLedger mintOf :=
  ticket_accounts run_consumed

end NightWatch.Safety.TicketRuns
