import NightWatch.Proxy.AddressPolicy
import NightWatch.Proxy.Types

namespace NightWatch.Proxy.Resolver

open Lib.JsText Lib.JsData Lib.JsRuntime Environment.Config Proxy.AddressPolicy Proxy.Types

inductive ResolverSettled where
  | answers (answers : List JsValue)
  | resolverError
  | timeout

inductive ProxyResolutionReason where
  | addressSetAccepted
  | literalAddress
  | localhostCanonicalized
  | refused (reason : AddressAdmissionReason)
  | resolverError
  | resolutionTimeout
  | resolutionCancelled

def ProxyResolutionReason.text : ProxyResolutionReason → JsString
  | addressSetAccepted => "ADDRESS_SET_ACCEPTED".toList
  | literalAddress => "LITERAL_ADDRESS".toList
  | localhostCanonicalized => "LOCALHOST_CANONICALIZED".toList
  | refused reason => reason.text
  | resolverError => "RESOLVER_ERROR".toList
  | resolutionTimeout => "RESOLUTION_TIMEOUT".toList
  | resolutionCancelled => "RESOLUTION_CANCELLED".toList

structure ProxyResolution where
  outcome : ProxyResolutionOutcome
  reason : ProxyResolutionReason
  answerCount : Nat
  selected : Option AdmittedResolvedAddress
  addresses : List AdmittedResolvedAddress

def RefusedOutcome.resolution : RefusedOutcome → ProxyResolutionOutcome
  | .denied => .denied
  | .failed => .failed

def fromAdmission (admission : ResolvedAddressAdmission)
    (literalReason : Option ProxyResolutionReason := none) : ProxyResolution :=
  match admission with
  | .admitted addresses selected answerCount => {
      outcome := .admitted
      reason := literalReason.getD .addressSetAccepted
      answerCount := answerCount
      selected := some selected
      addresses := addresses }
  | .refused outcome answerCount reason => {
      outcome := RefusedOutcome.resolution outcome
      reason := .refused reason
      answerCount := answerCount
      selected := none
      addresses := [] }

def failure (reason : ProxyResolutionReason) : ProxyResolution where
  outcome := .failed
  reason := reason
  answerCount := 0
  selected := none
  addresses := []

def answerRecord (address : JsString) (family : AddressFamily) : JsValue :=
  .obj [("address".toList, .str address), ("family".toList, .num (.ofNat family.number))]

def resolveAndAdmitTarget (rt : Runtime) (hostname : JsString) (environment : EnvironmentName)
    (settled : ResolverSettled) : ProxyResolution :=
  let normalized := rt.toLowerCase hostname
  match classifyResolvedAddress normalized with
  | some literal =>
      fromAdmission (admitResolvedAddressSet rt environment
        [answerRecord literal.canonicalAddress literal.family]) (some .literalAddress)
  | none =>
      if normalized = "localhost".toList then
        fromAdmission (admitResolvedAddressSet rt environment
          [answerRecord "127.0.0.1".toList .ipv4]) (some .localhostCanonicalized)
      else
        match settled with
        | .timeout => failure .resolutionTimeout
        | .resolverError => failure .resolverError
        | .answers answers => fromAdmission (admitResolvedAddressSet rt environment answers)

theorem fromAdmission_answerCount (admission : ResolvedAddressAdmission)
    (literalReason : Option ProxyResolutionReason) :
    (fromAdmission admission literalReason).answerCount = admission.answerCount := by
  cases admission with
  | admitted addresses selected answerCount => rfl
  | refused outcome answerCount reason => rfl

def asksResolver (rt : Runtime) (hostname : JsString) : Bool :=
  (classifyResolvedAddress (rt.toLowerCase hostname)).isNone &&
    rt.toLowerCase hostname ≠ "localhost".toList

theorem asksResolver_iff {rt : Runtime} {hostname : JsString} : asksResolver rt hostname = true ↔
      classifyResolvedAddress (rt.toLowerCase hostname) = none ∧
        rt.toLowerCase hostname ≠ "localhost".toList := by
  rw [asksResolver, Bool.and_eq_true, Option.isNone_iff_eq_none, decide_eq_true_eq]

theorem answerCount_le_iff (rt : Runtime) (hostname : JsString) (environment : EnvironmentName)
    {settled : ResolverSettled} {m : Nat} (hm : 1 ≤ m) :
    (resolveAndAdmitTarget rt hostname environment settled).answerCount ≤ m ↔
      (asksResolver rt hostname = true →
        ∀ answers, settled = .answers answers → answers.length ≤ m) := by
  rw [asksResolver_iff]
  unfold resolveAndAdmitTarget
  dsimp only
  split
  · rename_i hliteral
    rw [fromAdmission_answerCount, admitResolvedAddressSet_answerCount]
    refine iff_of_true hm fun hasks => ?_
    rw [hliteral] at hasks
    exact absurd hasks.1 nofun
  · rename_i hname
    split
    · rename_i hlocal
      rw [fromAdmission_answerCount, admitResolvedAddressSet_answerCount]
      exact iff_of_true hm fun hasks => absurd hlocal hasks.2
    · rename_i hremote
      rw [forall_prop_of_true ⟨hname, hremote⟩]
      split
      · exact iff_of_true (Nat.zero_le m) nofun
      · exact iff_of_true (Nat.zero_le m) nofun
      · rename_i answers
        rw [fromAdmission_answerCount, admitResolvedAddressSet_answerCount]
        constructor
        · rintro hle _ ⟨⟩
          exact hle
        · intro hall
          exact hall answers rfl

end NightWatch.Proxy.Resolver
