import NightWatch.Proxy.AddressPolicy
import NightWatch.Lib.Radix

namespace NightWatch.Proxy.AddressTexts

open Lib.JsText Lib.Joined Lib.Radix Environment.Config Proxy.AddressPolicy

theorem octetsToValue_eq (octets : List Nat) : octetsToValue octets = assemble 8 octets := rfl

theorem formatIpv4Value_eq (value : Nat) :
    formatIpv4Value value = join '.' ((slices 8 4 value).map decimal) := rfl

theorem parseDecimalOctet_decimal {n : Nat} (h : n < 2 ^ 8) :
    parseDecimalOctet (decimal n) = some n := by
  have hall : ∀ n < 2 ^ 8, parseDecimalOctet (decimal n) = some n := by decide +kernel
  exact hall n h

theorem parseDecimalOctet_lt {text : JsString} {octet : Nat}
    (h : parseDecimalOctet text = some octet) : octet < 2 ^ 8 := by
  unfold parseDecimalOctet at h
  split at h
  · contradiction
  · split at h
    · rename_i hsmall
      rw [← Option.some.inj h]
      omega
    · contradiction

theorem dot_not_mem_decimal (n : Nat) : '.' ∉ decimal n := by
  intro h
  exact absurd (isDigit_of_mem_decimal h) (by decide)

variable {value : Nat} {c : Char}

theorem parseIpv4Value_formatIpv4Value (h : value < 2 ^ 32) :
    parseIpv4Value (formatIpv4Value value) = some value := by
  have hparts : (formatIpv4Value value).splitOn '.' = (slices 8 4 value).map decimal := by
    rw [formatIpv4Value_eq]
    refine splitOn_join ?_ (by simp [slices])
    intro part hpart
    obtain ⟨octet, -, rfl⟩ := List.mem_map.mp hpart
    exact dot_not_mem_decimal octet
  have hread : ((slices 8 4 value).map decimal).mapM parseDecimalOctet =
      some ((slices 8 4 value).map id) :=
    mapM_map fun octet hoctet => parseDecimalOctet_decimal (lt_of_mem_slices hoctet)
  have hvalue : assemble 8 (slices 8 4 value) = value := assemble_slices h
  unfold parseIpv4Value
  rw [hparts]
  simp [hread, octetsToValue_eq, hvalue]

variable {address : JsString}

theorem parseIpv4Value_lt (h : parseIpv4Value address = some value) : value < 2 ^ 32 := by
  unfold parseIpv4Value at h
  dsimp only at h
  split at h
  · contradiction
  · rename_i hfour
    obtain ⟨octets, hoctets, rfl⟩ := Option.map_eq_some_iff.mp h
    have hlength : octets.length = 4 := by
      rw [length_of_mapM hoctets]
      exact not_not.mp hfour
    have hsmall : ∀ octet ∈ octets, octet < 2 ^ 8 := by
      intro octet hoctet
      obtain ⟨part, -, hpart⟩ := exists_of_mem_mapM hoctets hoctet
      exact parseDecimalOctet_lt hpart
    have hlt := assemble_lt hsmall
    rwa [hlength] at hlt

theorem mem_formatIpv4Value (h : c ∈ formatIpv4Value value) : c = '.' ∨ c.isDigit = true := by
  rw [formatIpv4Value_eq] at h
  rcases mem_join h with h | ⟨part, hpart, hc⟩
  · exact .inl h
  · obtain ⟨octet, -, rfl⟩ := List.mem_map.mp hpart
    exact .inr (isDigit_of_mem_decimal hc)

theorem colon_not_mem_formatIpv4Value (value : Nat) : ':' ∉ formatIpv4Value value := by
  intro h
  rcases mem_formatIpv4Value h with h | h
  · exact absurd h (by decide)
  · exact absurd h (by decide)

theorem length_formatIpv4Value_le (value : Nat) : (formatIpv4Value value).length ≤ 16 := by
  have hpart : ∀ part ∈ (slices 8 4 value).map decimal, part.length ≤ 3 := by
    intro part hpart
    obtain ⟨octet, hoctet, rfl⟩ := List.mem_map.mp hpart
    have hlt := lt_of_mem_slices hoctet
    exact (Nat.length_toDigits_le_iff (by omega) (by omega)).mpr (by omega)
  have hlength := length_join_le (c := '.') hpart
  rw [← formatIpv4Value_eq] at hlength
  simpa using hlength

/-- The best run so far, if there is one, is a run of zeros of the groups. -/
def IsRun (groups : List Nat) (best : Option Nat × Nat) : Prop :=
  ∀ start, best.1 = some start → 0 < best.2 ∧ ∃ before after, before.length = start ∧
    groups = before ++ (List.replicate best.2 0 ++ after)

theorem replicate_zeroRunLength (groups : List Nat) :
    groups = List.replicate (zeroRunLength groups) 0 ++ groups.drop (zeroRunLength groups) := by
  induction groups with
  | nil => rfl
  | cons group groups ih =>
      cases group with
      | zero =>
          rw [zeroRunLength, List.replicate_succ, List.drop_succ_cons, List.cons_append, ← ih]
      | succ group => rfl

variable {groups : List Nat}

theorem isRun_measured {before rest : List Nat} (hgroups : groups = before ++ 0 :: rest)
    {best : Option Nat × Nat} (hbest : IsRun groups best) :
    IsRun groups (if best.2 < zeroRunLength (0 :: rest) then
      (some before.length, zeroRunLength (0 :: rest)) else best) := by
  split
  · intro start hstart
    obtain rfl := Option.some.inj hstart
    refine ⟨Nat.succ_pos _, before, (0 :: rest).drop (zeroRunLength (0 :: rest)), rfl, ?_⟩
    rw [← replicate_zeroRunLength]
    exact hgroups
  · exact hbest

theorem isRun_bestZeroRun {rest : List Nat} :
    ∀ {before : List Nat} {skip : Nat} {best : Option Nat × Nat}, groups = before ++ rest →
      IsRun groups best → IsRun groups (bestZeroRun before.length skip best rest) := by
  induction rest with
  | nil =>
      intro before skip best hgroups hbest
      exact hbest
  | cons group rest ih =>
      intro before skip best hgroups hbest
      have hnext : groups = (before ++ [group]) ++ rest := by simpa using hgroups
      have hlength : (before ++ [group]).length = before.length + 1 := by simp
      cases skip with
      | succ skip =>
          rw [bestZeroRun, ← hlength]
          exact ih hnext hbest
      | zero =>
          rw [bestZeroRun, ← hlength]
          split
          · exact ih hnext hbest
          · rename_i hzero
            obtain rfl := not_not.mp hzero
            exact ih hnext (isRun_measured hgroups hbest)

section Ipv6

theorem groupsToValue_eq (groups : List Nat) : groupsToValue groups = assemble 16 groups := rfl

theorem valueToGroups_eq (value : Nat) : valueToGroups value = slices 16 8 value := rfl

theorem formatIpv6Value_cases (value : Nat) :
    formatIpv6Value value = hexGroups (valueToGroups value) ∨ ∃ before after length, 0 < length ∧
      valueToGroups value = before ++ (List.replicate length 0 ++ after) ∧
      formatIpv6Value value = hexGroups before ++ ':' :: ':' :: hexGroups after := by
  have hrun : IsRun (valueToGroups value) (bestZeroRun 0 0 (none, 1) (valueToGroups value)) := by
    have hwhole : valueToGroups value = [] ++ valueToGroups value := rfl
    refine isRun_bestZeroRun hwhole ?_
    intro start hstart
    contradiction
  unfold formatIpv6Value
  dsimp only
  generalize bestZeroRun 0 0 (none, 1) (valueToGroups value) = best at hrun
  rcases best with ⟨_ | start, length⟩
  · exact .inl rfl
  · obtain ⟨hpos, before, after, hstart, hgroups⟩ := hrun start rfl
    refine .inr ⟨before, after, length, hpos, hgroups, ?_⟩
    have htake : (valueToGroups value).take start = before := by
      rw [hgroups, ← hstart, List.take_left]
    have hdrop : (valueToGroups value).drop (start + length) = after := by
      rw [hgroups, ← List.append_assoc]
      exact List.drop_left' (by simp [hstart])
    dsimp only
    rw [htake, hdrop]
    simp

variable {c : Char}

theorem groupChar {n : Nat} (h : c ∈ Nat.toDigits 16 n) :
    c ≠ ':' ∧ c ≠ '.' ∧ c ≠ '%' ∧ c ≠ '[' ∧ c ≠ ']' ∧
      isIpv6LiteralChar c = true ∧ c.toNat < 0x10000 := by
  have hall : ∀ c ∈ hexDigits, c ≠ ':' ∧ c ≠ '.' ∧ c ≠ '%' ∧ c ≠ '[' ∧ c ≠ ']' ∧
      isIpv6LiteralChar c = true ∧ c.toNat < 0x10000 := by decide
  exact hall c (mem_hexDigits_of_mem_toDigits h)

variable {groups before after : List Nat}

theorem groupTexts_free : ∀ part ∈ groups.map (Nat.toDigits 16), part ≠ [] ∧ ':' ∉ part := by
  intro part hpart
  obtain ⟨group, -, rfl⟩ := List.mem_map.mp hpart
  exact ⟨Nat.toDigits_ne_nil, fun h => (groupChar h).1 rfl⟩

theorem mem_hexGroups (h : c ∈ hexGroups groups) :
    c = ':' ∨ ∃ group, c ∈ Nat.toDigits 16 group := by
  rcases mem_join h with h | ⟨part, hpart, hc⟩
  · exact .inl h
  · obtain ⟨group, -, rfl⟩ := List.mem_map.mp hpart
    exact .inr ⟨group, hc⟩

theorem colonParts_hexGroups : colonParts (hexGroups groups) = groups.map (Nat.toDigits 16) := by
  unfold colonParts hexGroups
  split
  · rename_i hempty
    cases groups with
    | nil => rfl
    | cons group groups => exact absurd hempty (join_ne_nil Nat.toDigits_ne_nil)
  · rename_i hne
    refine splitOn_join (fun part hpart => (groupTexts_free part hpart).2) ?_
    intro hempty
    rw [hempty] at hne
    exact hne rfl

theorem dotted_groupTexts (groups : List Nat) :
    ∀ part ∈ groups.map (Nat.toDigits 16), '.' ∉ part := by
  intro part hpart
  obtain ⟨group, -, rfl⟩ := List.mem_map.mp hpart
  exact fun h => (groupChar h).2.1 rfl

theorem partGroups_toDigits {group : Nat} (h : group < 2 ^ 16) :
    partGroups (Nat.toDigits 16 group) = some [group] := by
  have hdot : '.' ∉ Nat.toDigits 16 group := fun h => (groupChar h).2.1 rfl
  have hlength : (Nat.toDigits 16 group).length ≤ 4 :=
    (Nat.length_toDigits_le_iff (by omega) (by omega)).mpr (by omega)
  have hpos : 1 ≤ (Nat.toDigits 16 group).length := Nat.length_toDigits_pos
  rw [partGroups, if_neg hdot, parseHexGroup, if_pos (by simp [hlength, hpos]), hexNumber_toDigits]
  rfl

theorem mapM_partGroups (h : ∀ group ∈ groups, group < 2 ^ 16) :
    (groups.map (Nat.toDigits 16)).mapM partGroups = some (groups.map ([·])) :=
  mapM_map fun group hgroup => partGroups_toDigits (h group hgroup)

variable {parts : List JsString}

theorem dottedMisplaced_of_free (h : ∀ part ∈ parts, '.' ∉ part) :
    dottedMisplaced parts = false := by
  have hnone : parts.filter (fun part => decide ('.' ∈ part)) = [] := by
    rw [List.filter_eq_nil_iff]
    intro part hpart
    simpa using h part hpart
  simp [dottedMisplaced, hnone]

theorem nil_not_mem_groupTexts : [] ∉ groups.map (Nat.toDigits 16) :=
  fun h => (groupTexts_free [] h).1 rfl

theorem flatten_singletons (groups : List Nat) : (groups.map ([·])).flatten = groups := by
  rw [← List.flatMap_def, List.flatMap_singleton']

theorem literal_hexGroups (h : c ∈ hexGroups groups) : c ≠ '%' ∧ isIpv6LiteralChar c = true := by
  rcases mem_hexGroups h with rfl | ⟨group, hc⟩
  · decide
  · exact ⟨(groupChar hc).2.2.1, (groupChar hc).2.2.2.2.2.1⟩

theorem literal_compressed (h : c ∈ hexGroups before ++ ':' :: ':' :: hexGroups after) :
    c ≠ '%' ∧ isIpv6LiteralChar c = true := by
  simp only [List.mem_append, List.mem_cons] at h
  rcases h with h | rfl | rfl | h
  · exact literal_hexGroups h
  · decide
  · decide
  · exact literal_hexGroups h

theorem literal_passes {text : JsString} (hne : text ≠ [])
    (h : ∀ c ∈ text, c ≠ '%' ∧ isIpv6LiteralChar c = true) :
    ¬ (text = [] || '%' ∈ text || !text.all isIpv6LiteralChar) = true := by
  have hpercent : '%' ∉ text := fun hc => (h _ hc).1 rfl
  have hall : text.all isIpv6LiteralChar = true := List.all_eq_true.mpr fun c hc => (h c hc).2
  simp [hne, hpercent, hall]

theorem parseIpv6Groups_hexGroups (h : ∀ group ∈ groups, group < 2 ^ 16)
    (hlength : groups.length = 8) : parseIpv6Groups (hexGroups groups) = some groups := by
  have hne : hexGroups groups ≠ [] := by
    intro hempty
    have hparts : colonParts (hexGroups groups) = groups.map (Nat.toDigits 16) :=
      colonParts_hexGroups
    rw [hempty] at hparts
    have hnil : groups = [] := by simpa [colonParts] using hparts.symm
    rw [hnil] at hlength
    contradiction
  have hpair : splitPair ':' (hexGroups groups) = none := splitPair_join groupTexts_free
  have hplaced := dottedMisplaced_of_free (dotted_groupTexts groups)
  unfold parseIpv6Groups
  rw [if_neg (literal_passes hne fun c => literal_hexGroups), hpair]
  dsimp only
  rw [colonParts_hexGroups, if_neg (by simp [nil_not_mem_groupTexts, hplaced]),
    mapM_partGroups h, Option.bind_eq_bind, Option.bind_some, flatten_singletons, if_pos hlength]

theorem parseIpv6Groups_compressed (hbefore : ∀ group ∈ before, group < 2 ^ 16)
    (hafter : ∀ group ∈ after, group < 2 ^ 16) (hlength : before.length + after.length < 8) :
    parseIpv6Groups (hexGroups before ++ ':' :: ':' :: hexGroups after) =
      some (before ++ (List.replicate (8 - (before.length + after.length)) 0 ++ after)) := by
  have hpair : splitPair ':' (hexGroups before ++ ':' :: ':' :: hexGroups after) =
      some (hexGroups before, hexGroups after) :=
    splitPair_append (splitPair_join groupTexts_free) (getLast?_join groupTexts_free)
  have hagain : splitPair ':' (hexGroups after) = none := splitPair_join groupTexts_free
  have hsmall : ∀ group ∈ before ++ after, group < 2 ^ 16 := by
    intro group hgroup
    rcases List.mem_append.mp hgroup with hgroup | hgroup
    · exact hbefore group hgroup
    · exact hafter group hgroup
  have hplaced := dottedMisplaced_of_free (dotted_groupTexts (before ++ after))
  have hdots : ((before ++ after).map (Nat.toDigits 16)).any
      (fun part => decide ('.' ∈ part)) = false := by
    rw [List.any_eq_false]
    intro part hpart
    simpa using dotted_groupTexts (before ++ after) part hpart
  unfold parseIpv6Groups
  rw [if_neg (literal_passes (by simp) fun c => literal_compressed), hpair]
  dsimp only
  rw [hagain, colonParts_hexGroups, colonParts_hexGroups, ← List.map_append]
  rw [if_neg (by simp), if_neg (by simp only [nil_not_mem_groupTexts, hplaced]; decide),
    if_neg (by rw [hdots, Bool.false_and]; exact Bool.false_ne_true), mapM_partGroups hsmall,
    Option.bind_eq_bind, Option.bind_some, flatten_singletons, if_neg (by rw [List.length_append]; omega)]
  rw [List.length_map, List.take_left, List.drop_left, List.length_append, List.append_assoc]

theorem parseIpv6Groups_formatIpv6Value (value : Nat) :
    parseIpv6Groups (formatIpv6Value value) = some (valueToGroups value) := by
  have hsmall : ∀ group ∈ valueToGroups value, group < 2 ^ 16 := by
    rw [valueToGroups_eq]
    exact fun group => lt_of_mem_slices
  have hlength : (valueToGroups value).length = 8 := by
    rw [valueToGroups_eq, length_slices]
  rcases formatIpv6Value_cases value with htext | ⟨before, after, length, hpos, hgroups, htext⟩
  · rw [htext]
    exact parseIpv6Groups_hexGroups hsmall hlength
  · rw [hgroups] at hsmall hlength
    simp only [List.length_append, List.length_replicate] at hlength
    have hmissing : 8 - (before.length + after.length) = length := by omega
    have hbefore : ∀ group ∈ before, group < 2 ^ 16 := fun group hgroup =>
      hsmall group (by simp [hgroup])
    have hafter : ∀ group ∈ after, group < 2 ^ 16 := fun group hgroup =>
      hsmall group (by simp [hgroup])
    have hread := parseIpv6Groups_compressed hbefore hafter (by omega)
    rw [htext, hread, hgroups, hmissing]

theorem partGroups_lt {part : JsString} {groups : List Nat} (h : partGroups part = some groups) :
    ∀ group ∈ groups, group < 2 ^ 16 := by
  unfold partGroups at h
  split at h
  · obtain ⟨ipv4, -, rfl⟩ := Option.map_eq_some_iff.mp h
    intro group hgroup
    have hmask : ∀ n, n &&& 0xffff < 2 ^ 16 := fun n => Nat.and_lt_two_pow n (by decide)
    simp only [List.mem_cons, List.not_mem_nil, or_false] at hgroup
    rcases hgroup with rfl | rfl
    · exact hmask _
    · exact hmask _
  · obtain ⟨group, hgroup, rfl⟩ := Option.map_eq_some_iff.mp h
    unfold parseHexGroup at hgroup
    split at hgroup
    · rename_i hbounds
      have hlt := hexNumber_lt hgroup
      have hpow : 16 ^ part.length ≤ 16 ^ 4 :=
        Nat.pow_le_pow_right (by omega) (by simp at hbounds; omega)
      intro other hother
      rw [List.mem_singleton.mp hother]
      omega
    · contradiction

theorem flatten_lt {groups : List (List Nat)}
    (h : parts.mapM partGroups = some groups) : ∀ group ∈ groups.flatten, group < 2 ^ 16 := by
  intro group hgroup
  obtain ⟨read, hread, hmem⟩ := List.mem_flatten.mp hgroup
  obtain ⟨part, -, hpart⟩ := exists_of_mem_mapM h hread
  exact partGroups_lt hpart group hmem

theorem parseIpv6Groups_bounds {address : JsString} (h : parseIpv6Groups address = some groups) :
    groups.length = 8 ∧ ∀ group ∈ groups, group < 2 ^ 16 := by
  unfold parseIpv6Groups at h
  split at h
  · contradiction
  · split at h
    · dsimp only at h
      split at h
      · contradiction
      · obtain ⟨read, hread, hgroups⟩ := Option.bind_eq_some_iff.mp h
        split at hgroups
        · rename_i hlength
          obtain rfl := Option.some.inj hgroups
          exact ⟨hlength, flatten_lt hread⟩
        · contradiction
    · split at h
      · contradiction
      · dsimp only at h
        split at h
        · contradiction
        · split at h
          · contradiction
          · obtain ⟨read, hread, hgroups⟩ := Option.bind_eq_some_iff.mp h
            split at hgroups
            · contradiction
            · obtain rfl := Option.some.inj hgroups
              constructor
              · simp only [List.length_append, List.length_take, List.length_replicate,
                  List.length_drop]
                omega
              · intro group hgroup
                simp only [List.mem_append, List.mem_replicate] at hgroup
                rcases hgroup with (hgroup | ⟨-, rfl⟩) | hgroup
                · exact flatten_lt hread group (List.mem_of_mem_take hgroup)
                · omega
                · exact flatten_lt hread group (List.mem_of_mem_drop hgroup)

end Ipv6

def ipv4Address (value : Nat) : ParsedResolvedAddress where
  canonicalAddress := formatIpv4Value value
  family := .ipv4
  value := value
  mapped := false
  mappedIpv4 := none

def ipv6Address (value : Nat) : ParsedResolvedAddress where
  canonicalAddress := formatIpv6Value value
  family := .ipv6
  value := value
  mapped := value >>> 32 = 0xffff
  mappedIpv4 :=
    if value >>> 32 = 0xffff then some (formatIpv4Value (value &&& 0xffffffff)) else none

def addressOf : AddressFamily → Nat → ParsedResolvedAddress
  | .ipv4 => ipv4Address
  | .ipv6 => ipv6Address

def bits : AddressFamily → Nat
  | .ipv4 => 32
  | .ipv6 => 128

theorem basic_formatIpv4Value (h : c ∈ formatIpv4Value value) : c.toNat < 0x10000 := by
  rcases mem_formatIpv4Value h with rfl | h
  · decide
  · have hrange := Char.isDigit_iff_toNat.mp h
    have hnine : '9'.toNat = 57 := rfl
    omega

variable {family : Option AddressFamily}

theorem parseAddress_formatIpv4Value (h : value < 2 ^ 32) (hfamily : family ≠ some .ipv6) :
    parseAddress (formatIpv4Value value) family = some (ipv4Address value) := by
  have hne : formatIpv4Value value ≠ [] := by
    intro hempty
    have hread := parseIpv4Value_formatIpv4Value h
    rw [hempty] at hread
    contradiction
  have hlength : ¬ maxResolvedAddressLength < utf16Length (formatIpv4Value value) := by
    have hle := length_formatIpv4Value_le value
    have hmax : maxResolvedAddressLength = 45 := rfl
    rw [utf16Length_of_basic fun c => basic_formatIpv4Value]
    omega
  unfold parseAddress
  rw [if_neg (by simp [hne, hlength]), if_neg (colon_not_mem_formatIpv4Value value),
    if_neg hfamily, parseIpv4Value_formatIpv4Value h]
  rfl

theorem valueToGroups_spec (value : Nat) :
    (valueToGroups value).length = 8 ∧ ∀ group ∈ valueToGroups value, group < 2 ^ 16 := by
  rw [valueToGroups_eq]
  exact ⟨length_slices 8 value, fun group => lt_of_mem_slices⟩

theorem length_hexGroups_le (h : ∀ group ∈ groups, group < 2 ^ 16) :
    (hexGroups groups).length ≤ 5 * groups.length := by
  have hpart : ∀ part ∈ groups.map (Nat.toDigits 16), part.length ≤ 4 := by
    intro part hpart
    obtain ⟨group, hgroup, rfl⟩ := List.mem_map.mp hpart
    have hlt := h group hgroup
    exact (Nat.length_toDigits_le_iff (by omega) (by omega)).mpr (by omega)
  have hlength := length_join_le (c := ':') hpart
  rw [List.length_map] at hlength
  exact hlength

theorem length_formatIpv6Value_le (value : Nat) :
    (formatIpv6Value value).length ≤ maxResolvedAddressLength := by
  obtain ⟨hlength, hsmall⟩ := valueToGroups_spec value
  have hmax : maxResolvedAddressLength = 45 := rfl
  rcases formatIpv6Value_cases value with htext | ⟨before, after, length, hpos, hgroups, htext⟩
  · have hle := length_hexGroups_le hsmall
    rw [htext]
    omega
  · rw [hgroups] at hsmall hlength
    have hbefore := length_hexGroups_le fun group hgroup =>
      hsmall group (List.mem_append_left _ hgroup)
    have hafter := length_hexGroups_le fun group hgroup =>
      hsmall group (List.mem_append_right _ (List.mem_append_right _ hgroup))
    simp only [List.length_append, List.length_replicate] at hlength
    rw [htext]
    simp only [List.length_append, List.length_cons]
    omega

theorem mem_formatIpv6Value (h : c ∈ formatIpv6Value value) : c = ':' ∨ c ∈ hexDigits := by
  have hgroups : ∀ groups : List Nat, c ∈ hexGroups groups → c = ':' ∨ c ∈ hexDigits := by
    intro groups hc
    rcases mem_hexGroups hc with rfl | ⟨group, hc⟩
    · exact .inl rfl
    · exact .inr (mem_hexDigits_of_mem_toDigits hc)
  rcases formatIpv6Value_cases value with htext | ⟨before, after, length, -, -, htext⟩
  · rw [htext] at h
    exact hgroups _ h
  · rw [htext] at h
    simp only [List.mem_append, List.mem_cons] at h
    rcases h with h | rfl | rfl | h
    · exact hgroups _ h
    · exact .inl rfl
    · exact .inl rfl
    · exact hgroups _ h

theorem colon_mem_formatIpv6Value (value : Nat) : ':' ∈ formatIpv6Value value := by
  rcases formatIpv6Value_cases value with htext | ⟨before, after, length, -, -, htext⟩
  · rw [htext, valueToGroups_eq, slices_succ, slices_succ, hexGroups, List.map_cons, List.map_cons,
      join_cons_cons]
    simp
  · rw [htext]
    simp

theorem parseAddress_formatIpv6Value (h : value < 2 ^ 128) (hfamily : family ≠ some .ipv4) :
    parseAddress (formatIpv6Value value) family = some (ipv6Address value) := by
  have hcolon := colon_mem_formatIpv6Value value
  have hne : formatIpv6Value value ≠ [] := List.ne_nil_of_mem hcolon
  have hchars : ∀ c ∈ ':' :: hexDigits, c ≠ '[' ∧ c ≠ ']' ∧ c.toNat < 0x10000 := by decide
  have hchar : ∀ c ∈ formatIpv6Value value, c ≠ '[' ∧ c ≠ ']' ∧ c.toNat < 0x10000 :=
    fun c hc => hchars c (List.mem_cons.mpr (mem_formatIpv6Value hc))
  have hopen : '[' ∉ formatIpv6Value value := fun hc => (hchar _ hc).1 rfl
  have hclose : ']' ∉ formatIpv6Value value := fun hc => (hchar _ hc).2.1 rfl
  have hlength : ¬ maxResolvedAddressLength < utf16Length (formatIpv6Value value) := by
    rw [utf16Length_of_basic fun c hc => (hchar c hc).2.2]
    exact Nat.not_lt.mpr (length_formatIpv6Value_le value)
  have hvalue : groupsToValue (valueToGroups value) = value := by
    rw [groupsToValue_eq, valueToGroups_eq]
    exact assemble_slices h
  unfold parseAddress
  rw [if_neg (by simp [hne, hlength]), if_pos hcolon, if_neg (by simp [hfamily, hopen, hclose]),
    parseIpv6Groups_formatIpv6Value, Option.bind_eq_bind, Option.bind_some, hvalue]
  simp [ipv6Address]

variable {asked : Option AddressFamily}

theorem parseAddress_canonical {family : AddressFamily} (h : value < 2 ^ bits family)
    (hasked : asked = none ∨ asked = some family) :
    parseAddress (addressOf family value).canonicalAddress asked =
      some (addressOf family value) := by
  cases family with
  | ipv4 =>
      refine parseAddress_formatIpv4Value h ?_
      rcases hasked with rfl | rfl
      · simp
      · simp
  | ipv6 =>
      refine parseAddress_formatIpv6Value h ?_
      rcases hasked with rfl | rfl
      · simp
      · simp

theorem parseAddress_eq_some
    {parsed : ParsedResolvedAddress} (h : parseAddress address asked = some parsed) :
    ∃ family value, value < 2 ^ bits family ∧ parsed = addressOf family value ∧
      (asked = none ∨ asked = some family) := by
  unfold parseAddress at h
  split at h
  · contradiction
  · split at h
    · split at h
      · contradiction
      · rename_i hasked
        obtain ⟨groups, hgroups, hparsed⟩ := Option.bind_eq_some_iff.mp h
        obtain ⟨hlength, hsmall⟩ := parseIpv6Groups_bounds hgroups
        have hlt := assemble_lt hsmall
        rw [hlength] at hlt
        refine ⟨.ipv6, groupsToValue groups, hlt, ?_, ?_⟩
        · rw [← Option.some.inj hparsed]
          simp [addressOf, ipv6Address]
        · simp only [Bool.or_eq_true, decide_eq_true_eq, not_or] at hasked
          rcases asked with _ | _ | _
          · exact .inl rfl
          · exact absurd rfl hasked.1.1
          · exact .inr rfl
    · split at h
      · contradiction
      · rename_i hasked
        obtain ⟨value, hvalue, hparsed⟩ := Option.bind_eq_some_iff.mp h
        refine ⟨.ipv4, value, parseIpv4Value_lt hvalue, (Option.some.inj hparsed).symm, ?_⟩
        rcases asked with _ | _ | _
        · exact .inl rfl
        · exact .inr rfl
        · exact absurd rfl hasked

theorem addressOf_injective {family family' : AddressFamily} {value' : Nat}
    (h : value < 2 ^ bits family) (h' : value' < 2 ^ bits family')
    (heq : (addressOf family value).canonicalAddress =
      (addressOf family' value').canonicalAddress) :
    addressOf family value = addressOf family' value' := by
  have hread := parseAddress_canonical h (.inl rfl)
  have hread' := parseAddress_canonical h' (.inl rfl)
  rw [heq, hread'] at hread
  exact (Option.some.inj hread).symm

@[simp] theorem family_addressOf (family : AddressFamily) (value : Nat) :
    (addressOf family value).family = family := by
  cases family <;> rfl

@[simp] theorem value_addressOf (family : AddressFamily) (value : Nat) :
    (addressOf family value).value = value := by
  cases family <;> rfl

/-- Formatted values are read back; a canonical text is accepted again as the same address;
and canonical texts are equal for equal addresses only. -/
theorem canonical_texts_are_exact : (∀ value < 2 ^ 128, ∃ parsed,
      parseAddress (formatIpv6Value value) (some .ipv6) = some parsed ∧ parsed.value = value) ∧
    (∀ value < 2 ^ 32, ∃ parsed,
      parseAddress (formatIpv4Value value) (some .ipv4) = some parsed ∧ parsed.value = value) ∧
    (∀ address asked parsed, parseAddress address asked = some parsed →
      ∀ again, again = none ∨ again = asked ∨ again = some parsed.family →
        ∃ reparsed, parseAddress parsed.canonicalAddress again = some reparsed ∧
          reparsed.family = parsed.family ∧ reparsed.value = parsed.value ∧
          reparsed.canonicalAddress = parsed.canonicalAddress) ∧
    (∀ address asked parsed address' asked' parsed', parseAddress address asked = some parsed →
      parseAddress address' asked' = some parsed' →
        (parsed.canonicalAddress = parsed'.canonicalAddress ↔
          parsed.family = parsed'.family ∧ parsed.value = parsed'.value)) := by
  refine ⟨?_, ?_, ?_, ?_⟩
  · intro value h
    exact ⟨_, parseAddress_formatIpv6Value h (by simp), rfl⟩
  · intro value h
    exact ⟨_, parseAddress_formatIpv4Value h (by simp), rfl⟩
  · intro address asked parsed hparsed again hagain
    obtain ⟨family, value, hlt, rfl, hasked⟩ := parseAddress_eq_some hparsed
    have hfamily : again = none ∨ again = some family := by
      rw [family_addressOf] at hagain
      rcases hagain with h | h | h
      · exact .inl h
      · rw [h]
        exact hasked
      · exact .inr h
    exact ⟨_, parseAddress_canonical hlt hfamily, rfl, rfl, rfl⟩
  · intro address asked parsed address' asked' parsed' hparsed hparsed'
    obtain ⟨family, value, hlt, rfl, -⟩ := parseAddress_eq_some hparsed
    obtain ⟨family', value', hlt', rfl, -⟩ := parseAddress_eq_some hparsed'
    constructor
    · intro heq
      rw [addressOf_injective hlt hlt' heq]
      exact ⟨rfl, rfl⟩
    · rintro ⟨hfamily, hvalue⟩
      rw [family_addressOf, family_addressOf] at hfamily
      rw [value_addressOf, value_addressOf] at hvalue
      rw [hfamily, hvalue]

end NightWatch.Proxy.AddressTexts
