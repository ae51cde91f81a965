import NightWatch.Lib.JsRuntime
import NightWatch.Lib.StepFunction

namespace NightWatch.Proxy.PortLease

open Lib.JsText Lib.JsData Lib.Json Lib.JsRuntime Lib.Machine Lib.StepFunction Lib.WebUrl

def proxyPortLeaseSchema : JsString := "nightwatch.proxy-port-lease.v1".toList

def candidateCount : Nat := 32

/-- `TOKEN_RE`. -/
def isToken (s : JsString) : Bool := s.length = 24 && s.all isHexDigit

structure LeaseRecord where
  pid : ℤ
  port : Nat
  token : JsString
  deriving DecidableEq

/-- `validPort(port)`, with the port as a whole number. -/
def validPort : JsValue → Option Nat
  | .num (.finite q) =>
      if q.den = 1 ∧ 1024 ≤ q.num ∧ q.num ≤ 65535 then some q.num.toNat else none
  | _ => none

/-- `Number.isInteger(pid)`, with the id as a whole number. -/
def integerOf : JsValue → Option ℤ
  | .num (.finite q) => if q.den = 1 then some q.num else none
  | _ => none

def leaseRecord : JsValue → Option LeaseRecord
  | .obj fields =>
      match JsValue.field fields "schemaVersion".toList, integerOf (JsValue.field fields "pid".toList),
        validPort (JsValue.field fields "port".toList), JsValue.field fields "token".toList with
      | .str schema, some pid, some port, .str token =>
          if schema = proxyPortLeaseSchema ∧ isToken token then some ⟨pid, port, token⟩ else none
      | _, _, _, _ => none
  | _ => none

def recordFields (pid port : Nat) (token : JsString) : List (JsString × JsValue) :=
  [("schemaVersion".toList, .str proxyPortLeaseSchema), ("pid".toList, .num (.ofNat pid)),
    ("port".toList, .num (.ofNat port)), ("token".toList, .str token)]

def recordText (rt : Runtime) (pid port : Nat) (token : JsString) : JsString :=
  rt.jsonStringify (.obj (recordFields pid port token))

inductive Content where
  | text (s : JsString)
  | other

/-- A file with its identity, which a descriptor keeps when the path is unlinked, and the process
that created it, if one did. -/
structure Node where
  id : Nat
  creator : Option Nat
  content : Content

structure Directory where
  files : Nat → Option Node
  fresh : Nat

namespace Directory

variable (directory : Directory)

def unlink (port : Nat) : Directory :=
  { directory with files := Function.update directory.files port none }

/-- `openSync(file, 'wx')` at a free path. -/
def create (port pid : Nat) : Directory where
  files := Function.update directory.files port (some ⟨directory.fresh, some pid, .text []⟩)
  fresh := directory.fresh + 1

def write (port id : Nat) (text : JsString) : Directory :=
  match directory.files port with
  | some node =>
      if node.id = id then
        { directory with
          files := Function.update directory.files port (some { node with content := .text text }) }
      else directory
  | none => directory

end Directory

def readLease (rt : Runtime) : Option Node → Option LeaseRecord
  | some ⟨_, _, .text s⟩ => (rt.jsonParse s).bind leaseRecord
  | _ => none

def processAlive (alive : Nat → Bool) (pid : ℤ) : Bool := decide (0 < pid) && alive pid.toNat

def candidatePort (preferred offset : Nat) : Nat :=
  if preferred + offset ≤ 65535 then preferred + offset
  else 1024 + (preferred + offset - 1024) % (65535 - 1024)

def proxyPortCandidates (preferred : JsNumber) : Option (List Nat) :=
  (validPort (.num preferred)).map fun port =>
    (List.range candidateCount).map (candidatePort port)

section Processes

inductive ProxyPortAllocationOutcome where
  | preferredReused
  | preferredUnavailableAdvanced
  deriving DecidableEq

structure ProxyPortLease where
  port : Nat
  token : JsString
  candidateOffset : Nat
  preferredOutcome : ProxyPortAllocationOutcome
  deriving DecidableEq

inductive Failure where
  | preferredInvalid
  | leaseExhausted

structure Candidate where
  offset : Nat
  port : Nat
  rest : List Nat
  deriving DecidableEq

inductive Phase where
  | idle
  | reading (c : Candidate)
  | checking (c : Candidate) (existing : LeaseRecord)
  | unlinking (c : Candidate)
  | testing (c : Candidate)
  | creating (c : Candidate)
  | writing (c : Candidate) (id : Nat) (token : JsString)
  | probing (c : Candidate) (token : JsString)
  | cleaning (c : Candidate) (token : JsString)
  | releasing (lease : ProxyPortLease)
  | removing (lease : ProxyPortLease)
  deriving DecidableEq

/-- A process: its unreleased leases, and what its last `reserveProxyPortLease` has tried and
answered. -/
structure Process where
  alive : Bool
  phase : Phase
  leases : List ProxyPortLease
  tried : List Nat
  result : Option (Except Failure ProxyPortLease)

namespace Process

variable (process : Process)

def advanceTo (offset : Nat) : List Nat → Process
  | [] => { process with phase := .idle, result := some (.error .leaseExhausted) }
  | port :: rest =>
      { process with phase := .reading ⟨offset, port, rest⟩, tried := process.tried ++ [port] }

/-- `continue`. -/
def continueAfter (c : Candidate) : Process := process.advanceTo (c.offset + 1) c.rest

def begin (preferred : JsNumber) : Process :=
  match proxyPortCandidates preferred with
  | none => { process with tried := [], result := some (.error .preferredInvalid) }
  | some candidates => { process with tried := [], result := none }.advanceTo 0 candidates

/-- `return` out of the loop. -/
def acquire (c : Candidate) (token : JsString) : Process :=
  let lease : ProxyPortLease := ⟨c.port, token, c.offset,
    if c.offset = 0 then .preferredReused else .preferredUnavailableAdvanced⟩
  { process with phase := .idle, leases := lease :: process.leases, result := some (.ok lease) }

/-- `release` is done with its lease, whatever it found. -/
def drop (lease : ProxyPortLease) : Process :=
  { process with phase := .idle, leases := process.leases.erase lease }

end Process

variable (rt : Runtime)

/-- The next file operation of a process. The random token and the answer about the port are given;
a phase that asks for neither ignores them. -/
def advance (alive : Nat → Bool) (pid : Nat) (token : JsString) (available : Bool)
    (directory : Directory) (process : Process) : Option (Directory × Process) :=
  match process.phase with
  | .idle => none
  | .reading c =>
      match readLease rt (directory.files c.port) with
      | some existing => some (directory, { process with phase := .checking c existing })
      | none => some (directory, { process with phase := .testing c })
  | .checking c existing =>
      if processAlive alive existing.pid then some (directory, process.continueAfter c)
      else some (directory, { process with phase := .unlinking c })
  | .unlinking c =>
      match directory.files c.port with
      | some _ => some (directory.unlink c.port, { process with phase := .creating c })
      | none => some (directory, process.continueAfter c)
  | .testing c =>
      match directory.files c.port with
      | some _ => some (directory, process.continueAfter c)
      | none => some (directory, { process with phase := .creating c })
  | .creating c =>
      if isToken token then
        match directory.files c.port with
        | some _ => some (directory, process.continueAfter c)
        | none => some (directory.create c.port pid,
            { process with phase := .writing c directory.fresh token })
      else none
  | .writing c id own =>
      some (directory.write c.port id (recordText rt pid c.port own),
        { process with phase := .probing c own })
  | .probing c own =>
      if available then some (directory, process.acquire c own)
      else some (directory, { process with phase := .cleaning c own })
  | .cleaning c _ => some (directory.unlink c.port, process.continueAfter c)
  | .releasing lease =>
      match readLease rt (directory.files lease.port) with
      | some current =>
          if current.token = lease.token ∧ current.pid = pid then
            some (directory, { process with phase := .removing lease })
          else some (directory, process.drop lease)
      | none => some (directory, process.drop lease)
  | .removing lease => some (directory.unlink lease.port, process.drop lease)

end Processes

section Runs

structure State where
  directory : Directory
  processes : Nat → Process

def State.alive (s : State) (pid : Nat) : Bool := (s.processes pid).alive

inductive Move where
  | reserve (preferred : JsNumber)
  | release (lease : ProxyPortLease)
  | advance (token : JsString) (available : Bool)
  | die

structure Event where
  pid : Nat
  move : Move

/-- What the operating system hands out as the id of a process. -/
def IsPid (pid : Nat) : Prop := 0 < pid ∧ pid < 2 ^ 31

instance (pid : Nat) : Decidable (IsPid pid) := inferInstanceAs (Decidable (_ ∧ _))

variable (rt : Runtime)

def act (s : State) (pid : Nat) (process : Process) : Move → Option (Directory × Process)
  | .reserve preferred =>
      if process.phase = .idle then some (s.directory, process.begin preferred) else none
  | .release lease =>
      if process.phase = .idle ∧ lease ∈ process.leases then
        some (s.directory, { process with phase := .releasing lease })
      else none
  | .advance token available => advance rt s.alive pid token available s.directory process
  | .die => some (s.directory, { process with alive := false })

def next (s : State) (e : Event) : Option State :=
  if IsPid e.pid ∧ s.alive e.pid then
    (act rt s e.pid (s.processes e.pid) e.move).map fun after =>
      ⟨after.1, Function.update s.processes e.pid after.2⟩
  else none

def startState (contents : Nat → Option Content) (alive : Nat → Bool) : State where
  directory := ⟨fun port => (contents port).map fun content => ⟨0, none, content⟩, 1⟩
  processes pid := ⟨alive pid, .idle, [], [], none⟩

def leaseSystem (contents : Nat → Option Content) (alive : Nat → Bool) : System State Event :=
  ofFunction (startState contents alive) (next rt)

end Runs

end NightWatch.Proxy.PortLease
