import NightWatch.Environment.Config

namespace NightWatch.Proxy.AddressPolicy

open Lib.JsText Lib.JsData Lib.JsRuntime Environment.Config

def maxResolvedAddressCount : Nat := 8

def maxResolvedAddressLength : Nat := 45

inductive AddressFamily where
  | ipv4
  | ipv6
  deriving DecidableEq

def AddressFamily.number : AddressFamily → Nat
  | ipv4 => 4
  | ipv6 => 6

inductive ResolvedAddressClass where
  | unspecified
  | loopback
  | privateUse
  | uniqueLocal
  | linkLocal
  | shared
  | documentation
  | benchmark
  | multicast
  | broadcast
  | reserved
  | specialUse
  | globalUnicast
  deriving DecidableEq

def ResolvedAddressClass.text : ResolvedAddressClass → JsString
  | unspecified => "unspecified".toList
  | loopback => "loopback".toList
  | privateUse => "private".toList
  | uniqueLocal => "unique-local".toList
  | linkLocal => "link-local".toList
  | shared => "shared".toList
  | documentation => "documentation".toList
  | benchmark => "benchmark".toList
  | multicast => "multicast".toList
  | broadcast => "broadcast".toList
  | reserved => "reserved".toList
  | specialUse => "special-use".toList
  | globalUnicast => "global-unicast".toList

structure ParsedResolvedAddress where
  canonicalAddress : JsString
  family : AddressFamily
  value : Nat
  mapped : Bool
  mappedIpv4 : Option JsString

structure ResolvedAddressClassification where
  canonicalAddress : JsString
  family : AddressFamily
  addressClass : ResolvedAddressClass
  mapped : Bool
  mappedIpv4 : Option JsString
  deriving DecidableEq

inductive AddressAdmissionReason where
  | emptyAnswer
  | answerSetOversized
  | answerAddressOversized
  | malformedAddress
  | addressFamilyMismatch
  | localAddressNotExact
  | addressPolicyDenied
  | mixedAnswerSet
  | mappedAddressUnsupported

def AddressAdmissionReason.text : AddressAdmissionReason → JsString
  | emptyAnswer => "EMPTY_ANSWER".toList
  | answerSetOversized => "ANSWER_SET_OVERSIZED".toList
  | answerAddressOversized => "ANSWER_ADDRESS_OVERSIZED".toList
  | malformedAddress => "MALFORMED_ADDRESS".toList
  | addressFamilyMismatch => "ADDRESS_FAMILY_MISMATCH".toList
  | localAddressNotExact => "LOCAL_ADDRESS_NOT_EXACT".toList
  | addressPolicyDenied => "ADDRESS_POLICY_DENIED".toList
  | mixedAnswerSet => "MIXED_ANSWER_SET".toList
  | mappedAddressUnsupported => "MAPPED_ADDRESS_UNSUPPORTED".toList

structure AdmittedResolvedAddress where
  address : JsString
  family : AddressFamily
  addressClass : ResolvedAddressClass
  mapped : Bool

inductive RefusedOutcome where
  | denied
  | failed

inductive ResolvedAddressAdmission where
  | admitted (addresses : List AdmittedResolvedAddress) (selected : AdmittedResolvedAddress)
      (answerCount : Nat)
  | refused (outcome : RefusedOutcome) (answerCount : Nat) (reason : AddressAdmissionReason)

def parseDecimalOctet (value : JsString) : Option Nat :=
  if !upTo 3 Char.isDigit value || (1 < value.length && startsWith value "0".toList) then none
  else if decimalValue value ≤ 255 then some (decimalValue value)
  else none

def octetsToValue (octets : List Nat) : Nat :=
  octets.foldl (fun value octet => value <<< 8 ||| octet) 0

def parseIpv4Value (address : JsString) : Option Nat :=
  let parts := address.splitOn '.'
  if parts.length ≠ 4 then none
  else (parts.mapM parseDecimalOctet).map octetsToValue

def formatIpv4Value (value : Nat) : JsString :=
  join '.' ([24, 16, 8, 0].map fun shift => decimal ((value >>> shift) &&& 255))

def parseHexGroup (value : JsString) : Option Nat :=
  if 1 ≤ value.length && value.length ≤ 4 then hexNumber value else none

def partGroups (part : JsString) : Option (List Nat) :=
  if '.' ∈ part then
    (parseIpv4Value part).map fun ipv4 => [(ipv4 >>> 16) &&& 0xffff, ipv4 &&& 0xffff]
  else (parseHexGroup part).map ([·])

def colonParts (text : JsString) : List JsString :=
  if text = [] then [] else text.splitOn ':'

def dottedMisplaced (parts : List JsString) : Bool :=
  let dotted := parts.filter fun part => decide ('.' ∈ part)
  1 < dotted.length || (dotted.length = 1 && parts.getLast? ≠ dotted.head?)

def parseIpv6Groups (address : JsString) : Option (List Nat) :=
  if address = [] || '%' ∈ address || !address.all isIpv6LiteralChar then none
  else
    match splitPair ':' address with
    | none =>
        let parts := colonParts address
        if [] ∈ parts || dottedMisplaced parts then none
        else do
          let groups ← parts.mapM partGroups
          if groups.flatten.length = 8 then some groups.flatten else none
    | some (leftText, rightText) =>
        if (splitPair ':' rightText).isSome then none
        else
          let left := colonParts leftText
          let right := colonParts rightText
          let parts := left ++ right
          if [] ∈ parts || dottedMisplaced parts then none
          -- `1.2.3.4::` would read an IPv4 value with zero groups behind it.
          else if parts.any (fun part => decide ('.' ∈ part)) && right = [] then none
          else do
            let groups ← parts.mapM partGroups
            if 8 ≤ groups.flatten.length then none
            else some (groups.flatten.take left.length ++
              List.replicate (8 - groups.flatten.length) 0 ++ groups.flatten.drop left.length)

def groupsToValue (groups : List Nat) : Nat :=
  groups.foldl (fun value group => value <<< 16 ||| group) 0

def valueToGroups (value : Nat) : List Nat :=
  [112, 96, 80, 64, 48, 32, 16, 0].map fun shift => (value >>> shift) &&& 0xffff

def zeroRunLength : List Nat → Nat
  | 0 :: rest => zeroRunLength rest + 1
  | _ => 0

/-- The first longest run of zeros from `index` on, as start and length; `skip` counts the groups
left of the run measured last. -/
def bestZeroRun (index skip : Nat) (best : Option Nat × Nat) : List Nat → Option Nat × Nat
  | [] => best
  | group :: rest =>
      match skip with
      | skip + 1 => bestZeroRun (index + 1) skip best rest
      | 0 =>
          if group ≠ 0 then bestZeroRun (index + 1) 0 best rest
          else
            let length := zeroRunLength (group :: rest)
            bestZeroRun (index + 1) (length - 1)
              (if best.2 < length then (some index, length) else best) rest

def hexGroups (groups : List Nat) : JsString :=
  join ':' (groups.map (Nat.toDigits 16))

def formatIpv6Value (value : Nat) : JsString :=
  let groups := valueToGroups value
  match bestZeroRun 0 0 (none, 1) groups with
  | (none, _) => hexGroups groups
  | (some start, length) =>
      hexGroups (groups.take start) ++ "::".toList ++ hexGroups (groups.drop (start + length))

def parseAddress (address : JsString) (family : Option AddressFamily := none) :
    Option ParsedResolvedAddress :=
  if address = [] || maxResolvedAddressLength < utf16Length address then none
  else if ':' ∈ address then
    if family = some .ipv4 || '[' ∈ address || ']' ∈ address then none
    else do
      let groups ← parseIpv6Groups address
      let value := groupsToValue groups
      let mapped : Bool := value >>> 32 = 0xffff
      some {
        canonicalAddress := formatIpv6Value value
        family := .ipv6
        value := value
        mapped := mapped
        mappedIpv4 := if mapped then some (formatIpv4Value (value &&& 0xffffffff)) else none }
  else if family = some .ipv6 then none
  else do
    let value ← parseIpv4Value address
    some {
      canonicalAddress := formatIpv4Value value
      family := .ipv4
      value := value
      mapped := false
      mappedIpv4 := none }

def ipv4InRange (value : Nat) (base : JsString) (bits : Nat) : Bool :=
  (parseIpv4Value base).any fun start => value >>> (32 - bits) = start >>> (32 - bits)

def ipv6InRange (value : Nat) (base : JsString) (bits : Nat) : Bool :=
  (parseAddress base (some .ipv6)).any fun parsed =>
    value >>> (128 - bits) = parsed.value >>> (128 - bits)

def classifyIpv4 (value : Nat) : ResolvedAddressClass :=
  if ipv4InRange value "0.0.0.0".toList 8 then .unspecified
  else if ipv4InRange value "127.0.0.0".toList 8 then .loopback
  else if ipv4InRange value "10.0.0.0".toList 8 || ipv4InRange value "172.16.0.0".toList 12 ||
      ipv4InRange value "192.168.0.0".toList 16 then .privateUse
  else if ipv4InRange value "169.254.0.0".toList 16 then .linkLocal
  else if ipv4InRange value "100.64.0.0".toList 10 then .shared
  else if ipv4InRange value "224.0.0.0".toList 4 then .multicast
  else if value = 0xffffffff then .broadcast
  else if ipv4InRange value "192.0.2.0".toList 24 || ipv4InRange value "198.51.100.0".toList 24 ||
      ipv4InRange value "203.0.113.0".toList 24 then .documentation
  else if ipv4InRange value "198.18.0.0".toList 15 then .benchmark
  else if ipv4InRange value "192.0.0.0".toList 24 || ipv4InRange value "192.31.196.0".toList 24 ||
      ipv4InRange value "192.52.193.0".toList 24 || ipv4InRange value "192.88.99.0".toList 24 then
    .specialUse
  else if ipv4InRange value "240.0.0.0".toList 4 then .reserved
  else .globalUnicast

def classifyIpv6 (value : Nat) : ResolvedAddressClass :=
  if value = 0 then .unspecified
  else if value = 1 then .loopback
  else if ipv6InRange value "fe80::".toList 10 then .linkLocal
  else if ipv6InRange value "fc00::".toList 7 then .uniqueLocal
  else if ipv6InRange value "ff00::".toList 8 then .multicast
  else if ipv6InRange value "2001:db8::".toList 32 then .documentation
  else if ipv6InRange value "2001:2::".toList 48 then .benchmark
  else if ipv6InRange value "100::".toList 64 || ipv6InRange value "64:ff9b::".toList 96 ||
      ipv6InRange value "64:ff9b:1::".toList 48 || ipv6InRange value "2001::".toList 32 ||
      ipv6InRange value "2001:1::".toList 32 || ipv6InRange value "2001:3::".toList 32 ||
      ipv6InRange value "2001:10::".toList 28 || ipv6InRange value "2001:20::".toList 28 ||
      ipv6InRange value "2002::".toList 16 then
    .specialUse
  else if 0x20000000000000000000000000000000 ≤ value &&
      value ≤ 0x3fffffffffffffffffffffffffffffff then
    .globalUnicast
  else .reserved

def classifyResolvedAddress (address : JsString) (family : Option AddressFamily := none) :
    Option ResolvedAddressClassification :=
  (parseAddress address family).map fun parsed => {
    canonicalAddress := parsed.canonicalAddress
    family := parsed.family
    addressClass :=
      if parsed.mapped then classifyIpv4 (parsed.value &&& 0xffffffff)
      else match parsed.family with
        | .ipv4 => classifyIpv4 parsed.value
        | .ipv6 => classifyIpv6 parsed.value
    mapped := parsed.mapped
    mappedIpv4 := parsed.mappedIpv4 }

def exactLocalLoopback (item : ResolvedAddressClassification) : Bool :=
  !item.mapped && ((item.family = .ipv4 && item.canonicalAddress = "127.0.0.1".toList) ||
    (item.family = .ipv6 && item.canonicalAddress = "::1".toList))

def acceptableForEnvironment (environment : EnvironmentName)
    (item : ResolvedAddressClassification) : Bool :=
  if item.mapped then false
  else if environment = .localEnv then exactLocalLoopback item
  else item.addressClass = .globalUnicast

def rejectedReason (environment : EnvironmentName) (items : List ResolvedAddressClassification) :
    AddressAdmissionReason :=
  if items.any (·.mapped) then .mappedAddressUnsupported
  else if environment = .localEnv then .localAddressNotExact
  else .addressPolicyDenied

def familyOf : JsValue → Option AddressFamily
  | .num n =>
      if n = .ofNat 4 then some .ipv4 else if n = .ofNat 6 then some .ipv6 else none
  | _ => none

def classifyAnswer : JsValue → Except AddressAdmissionReason ResolvedAddressClassification
  | .obj candidate =>
      let candidateKeys := candidate.map Prod.fst
      if candidateKeys.length ≠ 2 ||
          candidateKeys.any (fun key => key ≠ "address".toList && key ≠ "family".toList) then
        .error .malformedAddress
      else
        match JsValue.field candidate "address".toList with
        | .str address =>
            if maxResolvedAddressLength < utf16Length address then .error .answerAddressOversized
            else
              match familyOf (JsValue.field candidate "family".toList) with
              | none => .error .malformedAddress
              | some family =>
                  match classifyResolvedAddress address (some family) with
                  | some classification => .ok classification
                  | none =>
                      if (classifyResolvedAddress address).isSome then
                        .error .addressFamilyMismatch
                      else .error .malformedAddress
        | _ => .error .malformedAddress
  | _ => .error .malformedAddress

def answerKey (item : ResolvedAddressClassification) : JsString :=
  decimal item.family.number ++ ':' :: item.canonicalAddress

def uniqueAnswers (unique : List (JsString × ResolvedAddressClassification)) :
    List JsValue → Except AddressAdmissionReason (List ResolvedAddressClassification)
  | [] => .ok (unique.map Prod.snd)
  | answer :: rest => do
      let classification ← classifyAnswer answer
      uniqueAnswers (mapSet (answerKey classification) classification unique) rest

def addressLe (rt : Runtime) (left right : AdmittedResolvedAddress) : Bool :=
  left.family.number < right.family.number ||
    (left.family = right.family && rt.localeLe left.address right.address)

def sortAddresses (rt : Runtime) (addresses : List AdmittedResolvedAddress) :
    List AdmittedResolvedAddress :=
  addresses.insertionSort fun left right => addressLe rt left right = true

def admitClassified (rt : Runtime) (environment : EnvironmentName) (answerCount : Nat)
    (items : List ResolvedAddressClassification) : ResolvedAddressAdmission :=
  let accepted := items.filter (acceptableForEnvironment environment)
  if accepted.length ≠ items.length then
    .refused .denied answerCount
      (if accepted = [] then rejectedReason environment items else .mixedAnswerSet)
  else
    match sortAddresses rt (accepted.map fun item =>
        ⟨item.canonicalAddress, item.family, item.addressClass, item.mapped⟩) with
    | [] => .refused .failed answerCount .emptyAnswer
    | selected :: rest => .admitted (selected :: rest) selected answerCount

def admitResolvedAddressSet (rt : Runtime) (environment : EnvironmentName)
    (answers : List JsValue) : ResolvedAddressAdmission :=
  if answers = [] then .refused .failed 0 .emptyAnswer
  else if maxResolvedAddressCount < answers.length then
    .refused .failed answers.length .answerSetOversized
  else
    match uniqueAnswers [] answers with
    | .error reason => .refused .failed answers.length reason
    | .ok items => admitClassified rt environment answers.length items

def ResolvedAddressAdmission.answerCount : ResolvedAddressAdmission → Nat
  | admitted _ _ answerCount => answerCount
  | refused _ answerCount _ => answerCount

theorem admitClassified_answerCount (rt : Runtime) (environment : EnvironmentName)
    (answerCount : Nat) (items : List ResolvedAddressClassification) :
    (admitClassified rt environment answerCount items).answerCount = answerCount := by
  unfold admitClassified
  dsimp only
  split
  · rfl
  · split
    · rfl
    · rfl

theorem admitResolvedAddressSet_answerCount (rt : Runtime) (environment : EnvironmentName)
    (answers : List JsValue) :
    (admitResolvedAddressSet rt environment answers).answerCount = answers.length := by
  unfold admitResolvedAddressSet
  split
  · rename_i hempty
    rw [hempty]
    rfl
  · split
    · rfl
    · split
      · rfl
      · exact admitClassified_answerCount rt environment answers.length _

end NightWatch.Proxy.AddressPolicy
