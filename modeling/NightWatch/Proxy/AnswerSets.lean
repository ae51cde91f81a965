import NightWatch.Proxy.AddressTexts
import NightWatch.Lib.Grouping

namespace NightWatch.Proxy.AnswerSets

open Lib.JsText Lib.JsData Lib.JsRuntime Lib.Radix Lib.Grouping Lib.Guard Environment.Config
  Proxy.AddressPolicy Proxy.AddressTexts

/-- A record of an address text and a family number, and of nothing else. -/
def IsAnswer (answer : JsValue) (address : JsString) (family : AddressFamily) : Prop :=
  ∃ candidate, answer = .obj candidate ∧ candidate.Perm
    [("address".toList, .str address), ("family".toList, .num (.ofNat family.number))]

/-- 127.0.0.1 or ::1 for the local environment, a global unicast address for the others. -/
def Acceptable (environment : EnvironmentName) (parsed : ParsedResolvedAddress) : Prop :=
  parsed.mapped = false ∧
    if environment = .localEnv then
      parsed.family = .ipv4 ∧ parsed.value = 0x7f000001 ∨ parsed.family = .ipv6 ∧ parsed.value = 1
    else
      match parsed.family with
      | .ipv4 => classifyIpv4 parsed.value = .globalUnicast
      | .ipv6 => classifyIpv6 parsed.value = .globalUnicast

/-- The answer parses under its own family. -/
def Parses (answer : JsValue) (parsed : ParsedResolvedAddress) : Prop :=
  ∃ address family, IsAnswer answer address family ∧ parseAddress address (some family) = some parsed

def SafeAnswer (environment : EnvironmentName) (answer : JsValue) : Prop :=
  ∃ parsed, Parses answer parsed ∧ Acceptable environment parsed

def classificationOf (parsed : ParsedResolvedAddress) : ResolvedAddressClassification where
  canonicalAddress := parsed.canonicalAddress
  family := parsed.family
  addressClass :=
    if parsed.mapped then classifyIpv4 (parsed.value &&& 0xffffffff)
    else match parsed.family with
      | .ipv4 => classifyIpv4 parsed.value
      | .ipv6 => classifyIpv6 parsed.value
  mapped := parsed.mapped
  mappedIpv4 := parsed.mappedIpv4

def admittedOf (item : ResolvedAddressClassification) : AdmittedResolvedAddress :=
  ⟨item.canonicalAddress, item.family, item.addressClass, item.mapped⟩

section Answers

variable {answer : JsValue} {address : JsString} {family : AddressFamily}
  {parsed : ParsedResolvedAddress} {item : ResolvedAddressClassification}

theorem classifyResolvedAddress_eq (address : JsString) (asked : Option AddressFamily) :
    classifyResolvedAddress address asked = (parseAddress address asked).map classificationOf := rfl

theorem familyOf_eq_some {value : JsValue} :
    familyOf value = some family ↔ value = .num (.ofNat family.number) := by
  constructor
  · intro h
    unfold familyOf at h
    split at h
    · split at h
      · rename_i hfour
        rw [hfour, ← Option.some.inj h]
        rfl
      · split at h
        · rename_i hsix
          rw [hsix, ← Option.some.inj h]
          rfl
        · contradiction
    · contradiction
  · rintro rfl
    have hdiffer : JsNumber.ofNat 6 ≠ .ofNat 4 := fun heq => by
      have hnat := ofNat_injective heq
      omega
    cases family with
    | ipv4 => simp [familyOf, AddressFamily.number]
    | ipv6 => simp [familyOf, AddressFamily.number, hdiffer]

theorem parseAddress_length {asked : Option AddressFamily}
    (h : parseAddress address asked = some parsed) :
    ¬ maxResolvedAddressLength < utf16Length address := by
  unfold parseAddress at h
  split at h
  · contradiction
  · rename_i hshort
    simp only [Bool.or_eq_true, decide_eq_true_eq, not_or] at hshort
    exact hshort.2

variable {candidate : List (JsString × JsValue)} {name other : JsString}

theorem perm_of_fields (hne : name ≠ other) (hlength : candidate.length = 2)
    (hname : JsValue.field candidate name ≠ .undefined)
    (hother : JsValue.field candidate other ≠ .undefined) : candidate.Perm
      [(name, JsValue.field candidate name), (other, JsValue.field candidate other)] := by
  obtain ⟨⟨k, a⟩, ⟨k', b⟩, rfl⟩ := List.length_eq_two.mp hlength
  rw [JsValue.field_pair] at hname hother
  rw [JsValue.field_pair, JsValue.field_pair]
  by_cases hk : name = k
  · have hk' : other = k' := by
      by_contra hk'
      rw [if_neg (fun heq => hne (hk.trans heq.symm)), if_neg hk'] at hother
      exact hother rfl
    rw [if_pos hk, if_neg (fun heq => hne (hk.trans heq.symm)), if_pos hk', hk, hk']
  · have hk' : name = k' := by
      by_contra hk'
      rw [if_neg hk, if_neg hk'] at hname
      exact hname rfl
    have hother' : other = k := by
      by_contra hother'
      rw [if_neg hother', if_neg (fun heq => hne (hk'.trans heq.symm))] at hother
      exact hother rfl
    rw [if_neg hk, if_pos hk', if_pos hother', hk', hother']
    exact List.Perm.swap _ _ _

theorem field_of_perm
    {a b : JsValue} (hne : name ≠ other) (h : candidate.Perm [(name, a), (other, b)]) :
    JsValue.field candidate name = a ∧ JsValue.field candidate other = b := by
  have hcases : candidate = [(name, a), (other, b)] ∨ candidate = [(other, b), (name, a)] :=
    List.perm_pair.mp h
  rcases hcases with rfl | rfl
  · rw [JsValue.field_pair, JsValue.field_pair, if_pos rfl, if_neg (Ne.symm hne), if_pos rfl]
    exact ⟨rfl, rfl⟩
  · rw [JsValue.field_pair, JsValue.field_pair, if_neg hne, if_pos rfl, if_pos rfl]
    exact ⟨rfl, rfl⟩

theorem classifyAnswer_of_parses (h : Parses answer parsed) :
    classifyAnswer answer = .ok (classificationOf parsed) := by
  obtain ⟨address, family, ⟨candidate, rfl, hperm⟩, hparsed⟩ := h
  have hne : "address".toList ≠ "family".toList := by decide
  obtain ⟨haddress, hfamily⟩ := field_of_perm hne hperm
  have hkeys := (hperm.map Prod.fst).length_eq
  have hnames : (candidate.map Prod.fst).any
      (fun key => key ≠ "address".toList && key ≠ "family".toList) = false := by
    rw [(hperm.map Prod.fst).any_eq]
    rfl
  have hread := familyOf_eq_some.mpr (rfl : JsValue.num (.ofNat family.number) = _)
  unfold classifyAnswer
  dsimp only
  rw [if_neg (by rw [hkeys, hnames]; exact Bool.false_ne_true), haddress]
  dsimp only
  rw [if_neg (parseAddress_length hparsed), hfamily, hread]
  dsimp only
  rw [classifyResolvedAddress_eq, hparsed]
  rfl

theorem parses_of_classifyAnswer (h : classifyAnswer answer = .ok item) :
    ∃ parsed, Parses answer parsed ∧ item = classificationOf parsed := by
  unfold classifyAnswer at h
  split at h
  · rename_i candidate
    dsimp only at h
    split at h
    · contradiction
    · rename_i hkeys
      split at h
      · rename_i address haddress
        split at h
        · contradiction
        · split at h
          · contradiction
          · rename_i family hfamily
            split at h
            · rename_i classification hclassified
              rw [classifyResolvedAddress_eq] at hclassified
              obtain ⟨parsed, hparsed, rfl⟩ := Option.map_eq_some_iff.mp hclassified
              refine ⟨parsed, ⟨address, family, ⟨candidate, rfl, ?_⟩, hparsed⟩,
                (Except.ok.inj h).symm⟩
              have hnumber := familyOf_eq_some.mp hfamily
              have hlength : candidate.length = 2 := by
                simp only [Bool.or_eq_true, decide_eq_true_eq, not_or, not_not,
                  List.length_map] at hkeys
                exact hkeys.1
              have hdistinct : "address".toList ≠ "family".toList := by decide
              have hfields := perm_of_fields hdistinct hlength
                (fun hnone => by rw [haddress] at hnone; contradiction)
                fun hnone => by rw [hnumber] at hnone; contradiction
              rwa [haddress, hnumber] at hfields
            · split at h <;> contradiction
      · contradiction
  · contradiction

end Answers

section Items

variable {item : ResolvedAddressClassification} {items : List ResolvedAddressClassification}
  {unique : List (JsString × ResolvedAddressClassification)} {answers : List JsValue}

/-- The classification of the address of some value. -/
def Known (item : ResolvedAddressClassification) : Prop :=
  ∃ family value, value < 2 ^ bits family ∧ item = classificationOf (addressOf family value)

theorem known_of_classifyAnswer {answer : JsValue} (h : classifyAnswer answer = .ok item) :
    Known item := by
  obtain ⟨parsed, ⟨address, family, -, hparsed⟩, rfl⟩ := parses_of_classifyAnswer h
  obtain ⟨family', value, hlt, rfl, -⟩ := parseAddress_eq_some hparsed
  exact ⟨family', value, hlt, rfl⟩

variable {item' : ResolvedAddressClassification}

theorem Known.eq_of_canonicalAddress (h : Known item)
    (h' : Known item') (heq : item.canonicalAddress = item'.canonicalAddress) : item = item' := by
  obtain ⟨family, value, hlt, rfl⟩ := h
  obtain ⟨family', value', hlt', rfl⟩ := h'
  rw [addressOf_injective hlt hlt' heq]

theorem Known.eq_of_answerKey (h : Known item)
    (h' : Known item') (heq : answerKey item = answerKey item') : item = item' := by
  refine h.eq_of_canonicalAddress h' ?_
  have hdecimal : ∀ family : AddressFamily, ∃ c, decimal family.number = [c] := by
    rintro (_ | _)
    · exact ⟨'4', rfl⟩
    · exact ⟨'6', rfl⟩
  obtain ⟨c, hc⟩ := hdecimal item.family
  obtain ⟨c', hc'⟩ := hdecimal item'.family
  rw [answerKey, answerKey, hc, hc'] at heq
  exact (List.cons.inj (List.cons.inj heq).2).2

/-- Every entry is a known item under its own key, and no key stands twice. -/
structure Keyed (unique : List (JsString × ResolvedAddressClassification)) : Prop where
  nodup : (unique.map Prod.fst).Nodup
  key : ∀ entry ∈ unique, entry.1 = answerKey entry.2
  known : ∀ entry ∈ unique, Known entry.2

theorem keyed_nil : Keyed [] :=
  ⟨List.nodup_nil, fun _ h => absurd h List.not_mem_nil, fun _ h => absurd h List.not_mem_nil⟩

theorem Keyed.mem_mapSet (h : Keyed unique) {key : JsString} {entry : JsString × _} :
    entry ∈ mapSet key item unique ↔
      if entry.1 = key then item = entry.2 else entry ∈ unique := by
  rw [← Prod.mk.eta (p := entry), mem_iff_lookup (nodup_mapSet h.nodup), lookup_mapSet]
  split
  · exact Option.some_inj
  · exact (mem_iff_lookup h.nodup).symm

theorem Keyed.set (h : Keyed unique) (hitem : Known item) :
    Keyed (mapSet (answerKey item) item unique) where
  nodup := nodup_mapSet h.nodup
  key entry hentry := by
    rw [h.mem_mapSet] at hentry
    split at hentry
    · rename_i hkey
      rw [hkey, hentry]
    · exact h.key entry hentry
  known entry hentry := by
    rw [h.mem_mapSet] at hentry
    split at hentry
    · exact hentry ▸ hitem
    · exact h.known entry hentry

theorem Keyed.mem_values_set (h : Keyed unique) (hitem : Known item)
    {other : ResolvedAddressClassification} :
    other ∈ (mapSet (answerKey item) item unique).map Prod.snd ↔
      other = item ∨ other ∈ unique.map Prod.snd := by
  constructor
  · intro hother
    obtain ⟨entry, hentry, rfl⟩ := List.mem_map.mp hother
    rw [h.mem_mapSet] at hentry
    split at hentry
    · exact .inl hentry.symm
    · exact .inr (List.mem_map_of_mem hentry)
  · rintro (rfl | hother)
    · refine List.mem_map.mpr ⟨(answerKey other, other), ?_, rfl⟩
      rw [h.mem_mapSet, if_pos rfl]
    · obtain ⟨entry, hentry, rfl⟩ := List.mem_map.mp hother
      refine List.mem_map.mpr ⟨entry, ?_, rfl⟩
      rw [h.mem_mapSet]
      split
      · rename_i hkey
        rw [h.key entry hentry] at hkey
        exact (Known.eq_of_answerKey (h.known entry hentry) hitem hkey).symm
      · exact hentry

theorem Keyed.nodup_values (h : Keyed unique) : (unique.map Prod.snd).Nodup := by
  refine List.Nodup.of_map answerKey ?_
  have hkeys : (unique.map Prod.snd).map answerKey = unique.map Prod.fst := by
    rw [List.map_map]
    exact List.map_congr_left fun entry hentry => (h.key entry hentry).symm
  rw [hkeys]
  exact h.nodup

theorem uniqueAnswers_spec (h : Keyed unique) (hitems : uniqueAnswers unique answers = .ok items) :
    items.Nodup ∧ (∀ item ∈ items, Known item) ∧ ∀ item, item ∈ items ↔
        item ∈ unique.map Prod.snd ∨ ∃ answer ∈ answers, classifyAnswer answer = .ok item := by
  induction answers generalizing unique with
  | nil =>
      obtain rfl := Except.ok.inj hitems
      refine ⟨h.nodup_values, ?_, by simp⟩
      intro item hitem
      obtain ⟨entry, hentry, rfl⟩ := List.mem_map.mp hitem
      exact h.known entry hentry
  | cons answer answers ih =>
      rw [uniqueAnswers] at hitems
      obtain ⟨classification, hclassified, hrest⟩ := bind_eq_ok.mp hitems
      have hknown := known_of_classifyAnswer hclassified
      obtain ⟨hnodup, hall, hmem⟩ := ih (h.set hknown) hrest
      refine ⟨hnodup, hall, ?_⟩
      intro item
      rw [hmem, h.mem_values_set hknown]
      constructor
      · rintro ((rfl | hold) | ⟨other, hother, hok⟩)
        · exact .inr ⟨answer, by simp, hclassified⟩
        · exact .inl hold
        · exact .inr ⟨other, List.mem_cons_of_mem answer hother, hok⟩
      · rintro (hold | ⟨other, hother, hok⟩)
        · exact .inl (.inr hold)
        · rcases List.mem_cons.mp hother with rfl | hother
          · rw [hclassified] at hok
            exact .inl (.inl (Except.ok.inj hok).symm)
          · exact .inr ⟨other, hother, hok⟩

theorem exists_uniqueAnswers : (∃ items, uniqueAnswers unique answers = .ok items) ↔
      ∀ answer ∈ answers, ∃ item, classifyAnswer answer = .ok item := by
  induction answers generalizing unique with
  | nil => simp [uniqueAnswers]
  | cons answer answers ih =>
      rw [List.forall_mem_cons, uniqueAnswers]
      cases hclassified : classifyAnswer answer with
      | error reason =>
          constructor
          · rintro ⟨items, hitems⟩
            contradiction
          · rintro ⟨⟨item, hitem⟩, -⟩
            contradiction
      | ok item =>
          constructor
          · intro hitems
            exact ⟨⟨item, rfl⟩, ih.mp hitems⟩
          · rintro ⟨-, hrest⟩
            exact ih.mpr hrest

end Items

section Decisions

def addressChars : JsString := '.' :: ':' :: hexDigits

/-- `localeCompare` is an order, and it tells the texts of addresses apart. -/
structure Collates (rt : Runtime) : Prop where
  total : ∀ s t, rt.localeLe s t = true ∨ rt.localeLe t s = true
  trans : ∀ s t u, rt.localeLe s t = true → rt.localeLe t u = true → rt.localeLe s u = true
  separates : ∀ s t, (∀ c ∈ s, c ∈ addressChars) → (∀ c ∈ t, c ∈ addressChars) →
    rt.localeLe s t = true → rt.localeLe t s = true → s = t

variable {rt : Runtime} {environment : EnvironmentName} {count count' : Nat}
  {items items' : List ResolvedAddressClassification}

theorem mem_hexDigits_of_isDigit {c : Char} (h : c.isDigit = true) : c ∈ hexDigits := by
  have hrange : 48 ≤ c.toNat ∧ c.toNat ≤ 57 := Char.isDigit_iff_toNat.mp h
  obtain ⟨hlow, hhigh⟩ := hrange
  rw [← Char.ofNat_toNat c]
  interval_cases c.toNat <;> decide

theorem Known.chars {item : ResolvedAddressClassification} (h : Known item) :
    ∀ c ∈ item.canonicalAddress, c ∈ addressChars := by
  obtain ⟨_ | _, value, -, rfl⟩ := h
  · intro c hc
    rcases mem_formatIpv4Value hc with rfl | hdigit
    · decide
    · exact List.mem_cons_of_mem _ (List.mem_cons_of_mem _ (mem_hexDigits_of_isDigit hdigit))
  · intro c hc
    rcases mem_formatIpv6Value hc with rfl | hdigit
    · decide
    · exact List.mem_cons_of_mem _ (List.mem_cons_of_mem _ hdigit)

theorem addressLe_iff {left right : AdmittedResolvedAddress} :
    addressLe rt left right = true ↔ left.family.number < right.family.number ∨
      left.family = right.family ∧ rt.localeLe left.address right.address = true := by
  simp [addressLe]

theorem addressLe_total (h : Collates rt) (left right : AdmittedResolvedAddress) :
    addressLe rt left right = true ∨ addressLe rt right left = true := by
  rw [addressLe_iff, addressLe_iff]
  by_cases hfamily : left.family = right.family
  · rcases h.total left.address right.address with hle | hle
    · exact .inl (.inr ⟨hfamily, hle⟩)
    · exact .inr (.inr ⟨hfamily.symm, hle⟩)
  · have hnumber : left.family.number ≠ right.family.number := by
      intro heq
      revert hfamily heq
      cases left.family <;> cases right.family <;> decide
    rcases Nat.lt_or_gt_of_ne hnumber with hlt | hlt
    · exact .inl (.inl hlt)
    · exact .inr (.inl hlt)

theorem addressLe_trans (h : Collates rt) {a b c : AdmittedResolvedAddress}
    (hab : addressLe rt a b = true) (hbc : addressLe rt b c = true) : addressLe rt a c = true := by
  rw [addressLe_iff] at hab hbc ⊢
  rcases hab with hab | ⟨hab, hle⟩
  · rcases hbc with hbc | ⟨hbc, -⟩
    · exact .inl (hab.trans hbc)
    · exact .inl (hbc ▸ hab)
  · rcases hbc with hbc | ⟨hbc, hle'⟩
    · exact .inl (hab ▸ hbc)
    · exact .inr ⟨hab.trans hbc, h.trans _ _ _ hle hle'⟩

theorem addressLe_antisymm (h : Collates rt) {item item' : ResolvedAddressClassification}
    (hknown : Known item) (hknown' : Known item')
    (hle : addressLe rt (admittedOf item) (admittedOf item') = true)
    (hge : addressLe rt (admittedOf item') (admittedOf item) = true) : item = item' := by
  rw [addressLe_iff] at hle hge
  rcases hle with hlt | ⟨heq, hle⟩
  · rcases hge with hgt | ⟨heq, -⟩
    · omega
    · rw [heq] at hlt
      omega
  · rcases hge with hgt | ⟨-, hge⟩
    · rw [heq] at hgt
      omega
    · exact hknown.eq_of_canonicalAddress hknown'
        (h.separates _ _ hknown.chars hknown'.chars hle hge)

theorem sortAddresses_perm (h : Collates rt) (hknown : ∀ item ∈ items, Known item)
    (hperm : items.Perm items') :
    sortAddresses rt (items.map admittedOf) = sortAddresses rt (items'.map admittedOf) := by
  refine insertionSort_perm (addressLe_total h) (fun _ _ _ => addressLe_trans h) ?_
    (hperm.map admittedOf)
  intro left right hleft hright hle hge
  obtain ⟨item, hitem, rfl⟩ := List.mem_map.mp hleft
  obtain ⟨item', hitem', rfl⟩ := List.mem_map.mp hright
  rw [addressLe_antisymm h (hknown item hitem) (hknown item' hitem') hle hge]

inductive Verdict where
  | admitted (addresses : List AdmittedResolvedAddress) (selected : AdmittedResolvedAddress)
  | refused (outcome : RefusedOutcome)

def verdict : ResolvedAddressAdmission → Verdict
  | .admitted addresses selected _ => .admitted addresses selected
  | .refused outcome _ _ => .refused outcome

theorem admitClassified_denied
    (h : ¬ ∀ item ∈ items, acceptableForEnvironment environment item = true) :
    verdict (admitClassified rt environment count items) = .refused .denied := by
  unfold admitClassified
  dsimp only
  rw [if_pos (fun heq => h (List.length_filter_eq_length_iff.mp heq))]
  rfl

theorem admitClassified_accepted
    (h : ∀ item ∈ items, acceptableForEnvironment environment item = true) :
    admitClassified rt environment count items =
      match sortAddresses rt (items.map admittedOf) with
      | [] => .refused .failed count .emptyAnswer
      | selected :: rest => .admitted (selected :: rest) selected count := by
  unfold admitClassified
  dsimp only
  rw [List.filter_eq_self.mpr h, if_neg (not_not.mpr rfl)]
  rfl

theorem verdict_admitClassified_perm (h : Collates rt) (hknown : ∀ item ∈ items, Known item)
    (hperm : items.Perm items') : verdict (admitClassified rt environment count items) =
      verdict (admitClassified rt environment count' items') := by
  by_cases hall : ∀ item ∈ items, acceptableForEnvironment environment item = true
  · rw [admitClassified_accepted hall,
      admitClassified_accepted fun item hitem => hall item (hperm.mem_iff.mpr hitem),
      sortAddresses_perm h hknown hperm]
    cases sortAddresses rt (items'.map admittedOf) with
    | nil => rfl
    | cons selected rest => rfl
  · rw [admitClassified_denied hall, admitClassified_denied fun hall' =>
      hall fun item hitem => hall' item (hperm.mem_iff.mp hitem)]

variable {value : Nat}

theorem canonicalAddress_eq_iff {family : AddressFamily} {other : Nat}
    (hvalue : value < 2 ^ bits family) (hother : other < 2 ^ bits family) :
    (addressOf family value).canonicalAddress = (addressOf family other).canonicalAddress ↔
      value = other := by
  constructor
  · intro heq
    have hsame := addressOf_injective hvalue hother heq
    rw [← value_addressOf family value, hsame, value_addressOf]
  · intro heq
    rw [heq]

theorem exactLocalLoopback_iff {family : AddressFamily} (hvalue : value < 2 ^ bits family) :
    exactLocalLoopback (classificationOf (addressOf family value)) = true ↔
      (addressOf family value).mapped = false ∧
        (family = .ipv4 ∧ value = 0x7f000001 ∨ family = .ipv6 ∧ value = 1) := by
  have hfour : (addressOf .ipv4 0x7f000001).canonicalAddress = "127.0.0.1".toList := by
    decide +kernel
  have hsix : (addressOf .ipv6 1).canonicalAddress = "::1".toList := by decide +kernel
  cases family with
  | ipv4 =>
      have hloopback : 0x7f000001 < 2 ^ bits .ipv4 := by decide
      have hiff := canonicalAddress_eq_iff hvalue hloopback
      rw [hfour] at hiff
      simp only [exactLocalLoopback, classificationOf, family_addressOf, Bool.and_eq_true,
        Bool.not_eq_true', Bool.or_eq_true, decide_eq_true_eq, hiff, reduceCtorEq, true_and,
        false_and, or_false, decide_false, decide_true, Bool.false_eq_true]
  | ipv6 =>
      have hloopback : 1 < 2 ^ bits .ipv6 := by decide
      have hiff := canonicalAddress_eq_iff hvalue hloopback
      rw [hsix] at hiff
      simp only [exactLocalLoopback, classificationOf, family_addressOf, Bool.and_eq_true,
        Bool.not_eq_true', Bool.or_eq_true, decide_eq_true_eq, hiff, reduceCtorEq, true_and,
        false_and, false_or, decide_false, decide_true, Bool.false_eq_true]

theorem acceptableForEnvironment_iff {family : AddressFamily} (hvalue : value < 2 ^ bits family) :
    acceptableForEnvironment environment (classificationOf (addressOf family value)) = true ↔
      Acceptable environment (addressOf family value) := by
  have hloopback := exactLocalLoopback_iff hvalue
  have hmapped : (classificationOf (addressOf family value)).mapped =
      (addressOf family value).mapped := rfl
  unfold acceptableForEnvironment Acceptable
  rw [hmapped, family_addressOf, value_addressOf]
  cases hm : (addressOf family value).mapped with
  | true => simp
  | false =>
      rw [if_neg Bool.false_ne_true]
      split
      · rw [hloopback, hm]
      · cases family with
        | ipv4 => simp [classificationOf, hm]
        | ipv6 => simp [classificationOf, hm]

theorem acceptable_of_parses {answer : JsValue} {parsed : ParsedResolvedAddress}
    (h : Parses answer parsed) :
    acceptableForEnvironment environment (classificationOf parsed) = true ↔
      Acceptable environment parsed := by
  obtain ⟨address, asked, -, hparsed⟩ := h
  obtain ⟨family, value, hlt, rfl, -⟩ := parseAddress_eq_some hparsed
  exact acceptableForEnvironment_iff hlt

variable {answers answers' : List JsValue}

theorem acceptable_items_iff (hitems : uniqueAnswers [] answers = .ok items) :
    (∀ item ∈ items, acceptableForEnvironment environment item = true) ↔
      ∀ answer ∈ answers, SafeAnswer environment answer := by
  obtain ⟨-, -, hmem⟩ := uniqueAnswers_spec keyed_nil hitems
  have hok := exists_uniqueAnswers.mp ⟨items, hitems⟩
  constructor
  · intro hall answer hanswer
    obtain ⟨item, hitem⟩ := hok answer hanswer
    have haccepted := hall item ((hmem item).mpr (.inr ⟨answer, hanswer, hitem⟩))
    obtain ⟨parsed, hparses, rfl⟩ := parses_of_classifyAnswer hitem
    exact ⟨parsed, hparses, (acceptable_of_parses hparses).mp haccepted⟩
  · intro hall item hitem
    rcases (hmem item).mp hitem with hitem | ⟨answer, hanswer, hitem⟩
    · contradiction
    · obtain ⟨parsed, hparses, hsafe⟩ := hall answer hanswer
      rw [classifyAnswer_of_parses hparses] at hitem
      rw [← Except.ok.inj hitem]
      exact (acceptable_of_parses hparses).mpr hsafe

theorem items_ne_nil (hne : answers ≠ []) (hitems : uniqueAnswers [] answers = .ok items) :
    items ≠ [] := by
  obtain ⟨answer, hanswer⟩ := List.exists_mem_of_ne_nil answers hne
  obtain ⟨item, hitem⟩ := exists_uniqueAnswers.mp ⟨items, hitems⟩ answer hanswer
  have hmem := (uniqueAnswers_spec keyed_nil hitems).2.2 item
  exact List.ne_nil_of_mem (hmem.mpr (.inr ⟨answer, hanswer, hitem⟩))

variable (rt) in
theorem sortAddresses_ne_nil (hne : items ≠ []) : sortAddresses rt (items.map admittedOf) ≠ [] := by
  intro hnil
  have hlength := (List.perm_insertionSort (fun left right => addressLe rt left right = true)
    (items.map admittedOf)).length_eq
  rw [sortAddresses] at hnil
  rw [hnil, List.length_map] at hlength
  exact hne (List.length_eq_zero_iff.mp hlength.symm)

variable (rt environment) in
theorem admitResolvedAddressSet_cases (hne : answers ≠ [])
    (hlength : answers.length ≤ maxResolvedAddressCount) :
    (∃ items, uniqueAnswers [] answers = .ok items ∧
      admitResolvedAddressSet rt environment answers =
        admitClassified rt environment answers.length items) ∨
    (¬ ∀ answer ∈ answers, ∃ item, classifyAnswer answer = .ok item) ∧
      verdict (admitResolvedAddressSet rt environment answers) = .refused .failed := by
  unfold admitResolvedAddressSet
  rw [if_neg hne, if_neg (Nat.not_lt.mpr hlength)]
  cases hitems : uniqueAnswers [] answers with
  | error reason =>
      refine .inr ⟨?_, rfl⟩
      intro hall
      obtain ⟨items, hok⟩ := exists_uniqueAnswers.mpr hall
      rw [hitems] at hok
      contradiction
  | ok items => exact .inl ⟨items, rfl, rfl⟩

theorem verdict_unbounded (h : answers = [] ∨ maxResolvedAddressCount < answers.length) :
    verdict (admitResolvedAddressSet rt environment answers) = .refused .failed := by
  unfold admitResolvedAddressSet
  split
  · rfl
  · rename_i hne
    rw [if_pos (h.resolve_left hne)]
    rfl

theorem admits_iff :
    (∃ addresses selected, verdict (admitResolvedAddressSet rt environment answers) =
      .admitted addresses selected) ↔
    1 ≤ answers.length ∧ answers.length ≤ maxResolvedAddressCount ∧
      ∀ answer ∈ answers, SafeAnswer environment answer := by
  constructor
  · rintro ⟨addresses, selected, hadmitted⟩
    by_cases hbound : answers = [] ∨ maxResolvedAddressCount < answers.length
    · rw [verdict_unbounded hbound] at hadmitted
      contradiction
    · obtain ⟨hne, hlength⟩ := not_or.mp hbound
      refine ⟨List.length_pos_of_ne_nil hne, Nat.not_lt.mp hlength, ?_⟩
      rcases admitResolvedAddressSet_cases rt environment hne
        (Nat.not_lt.mp hlength) with ⟨items, hitems, heq⟩ | ⟨-, hfailed⟩
      · rw [← acceptable_items_iff hitems]
        by_contra hdanger
        rw [heq, admitClassified_denied hdanger] at hadmitted
        contradiction
      · rw [hfailed] at hadmitted
        contradiction
  · rintro ⟨hpos, hlength, hsafe⟩
    have hne : answers ≠ [] := List.ne_nil_of_length_pos hpos
    rcases admitResolvedAddressSet_cases rt environment hne hlength with
      ⟨items, hitems, heq⟩ | ⟨hrefused, -⟩
    · rw [heq, admitClassified_accepted ((acceptable_items_iff hitems).mpr hsafe)]
      obtain ⟨selected, rest, hsorted⟩ :=
        List.exists_cons_of_ne_nil (sortAddresses_ne_nil rt (items_ne_nil hne hitems))
      rw [hsorted]
      exact ⟨_, _, rfl⟩
    · refine absurd ?_ hrefused
      intro answer hanswer
      obtain ⟨parsed, hparses, -⟩ := hsafe answer hanswer
      exact ⟨_, classifyAnswer_of_parses hparses⟩

theorem mem_addresses {addresses : List AdmittedResolvedAddress}
    {selected : AdmittedResolvedAddress}
    (hadmitted : verdict (admitResolvedAddressSet rt environment answers) =
      .admitted addresses selected) :
    selected ∈ addresses ∧ ∀ address, address ∈ addresses ↔ ∃ answer ∈ answers, ∃ parsed,
      Parses answer parsed ∧ address = admittedOf (classificationOf parsed) := by
  have hadmits := admits_iff.mp ⟨addresses, selected, hadmitted⟩
  obtain ⟨hpos, hlength, hsafe⟩ := hadmits
  have hne : answers ≠ [] := List.ne_nil_of_length_pos hpos
  rcases admitResolvedAddressSet_cases rt environment hne hlength with
    ⟨items, hitems, heq⟩ | ⟨-, hfailed⟩
  · rw [heq, admitClassified_accepted ((acceptable_items_iff hitems).mpr hsafe)] at hadmitted
    obtain ⟨first, rest, hsorted⟩ :=
      List.exists_cons_of_ne_nil (sortAddresses_ne_nil rt (items_ne_nil hne hitems))
    rw [hsorted] at hadmitted
    obtain ⟨rfl, rfl⟩ := Verdict.admitted.inj hadmitted
    refine ⟨by simp, ?_⟩
    intro address
    have hmem := (uniqueAnswers_spec keyed_nil hitems).2.2
    rw [← hsorted, sortAddresses, List.mem_insertionSort, List.mem_map]
    constructor
    · rintro ⟨item, hitem, rfl⟩
      rcases (hmem item).mp hitem with hnone | ⟨answer, hanswer, hok⟩
      · contradiction
      · obtain ⟨parsed, hparses, rfl⟩ := parses_of_classifyAnswer hok
        exact ⟨answer, hanswer, parsed, hparses, rfl⟩
    · rintro ⟨answer, hanswer, parsed, hparses, rfl⟩
      refine ⟨classificationOf parsed, ?_, rfl⟩
      exact (hmem _).mpr (.inr ⟨answer, hanswer, classifyAnswer_of_parses hparses⟩)
  · rw [hfailed] at hadmitted
    contradiction

theorem verdict_congr (h : Collates rt) (hsame : ∀ answer, answer ∈ answers ↔ answer ∈ answers')
    (hbound : answers.length ≤ maxResolvedAddressCount ↔
      answers'.length ≤ maxResolvedAddressCount) :
    verdict (admitResolvedAddressSet rt environment answers) =
      verdict (admitResolvedAddressSet rt environment answers') := by
  have hnil : answers = [] ↔ answers' = [] := by
    rw [List.eq_nil_iff_forall_not_mem, List.eq_nil_iff_forall_not_mem]
    exact forall_congr' fun answer => not_congr (hsame answer)
  by_cases hout : answers = [] ∨ maxResolvedAddressCount < answers.length
  · rw [verdict_unbounded hout, verdict_unbounded]
    rwa [← hnil, ← Nat.not_le, ← hbound, Nat.not_le]
  · obtain ⟨hne, hlength⟩ := not_or.mp hout
    have hlength := Nat.not_lt.mp hlength
    rcases admitResolvedAddressSet_cases rt environment hne hlength with
      ⟨items, hitems, heq⟩ | ⟨hrefused, hfailed⟩
    · rcases admitResolvedAddressSet_cases rt environment
        (fun hempty => hne (hnil.mpr hempty)) (hbound.mp hlength) with
        ⟨items', hitems', heq'⟩ | ⟨hrefused, -⟩
      · obtain ⟨hnodup, hknown, hmem⟩ := uniqueAnswers_spec keyed_nil hitems
        obtain ⟨hnodup', -, hmem'⟩ := uniqueAnswers_spec keyed_nil hitems'
        have hperm : items.Perm items' := by
          refine (List.perm_ext_iff_of_nodup hnodup hnodup').mpr ?_
          intro item
          rw [hmem, hmem']
          simp only [hsame]
        rw [heq, heq']
        exact verdict_admitClassified_perm h hknown hperm
      · refine absurd ?_ hrefused
        intro answer hanswer
        exact exists_uniqueAnswers.mp ⟨items, hitems⟩ answer ((hsame answer).mpr hanswer)
    · rcases admitResolvedAddressSet_cases rt environment
        (fun hempty => hne (hnil.mpr hempty)) (hbound.mp hlength) with
        ⟨items', hitems', -⟩ | ⟨-, hfailed'⟩
      · refine absurd ?_ hrefused
        intro answer hanswer
        exact exists_uniqueAnswers.mp ⟨items', hitems'⟩ answer ((hsame answer).mp hanswer)
      · rw [hfailed, hfailed']

/-- A set is admitted exactly when all of one to eight answers are safe, an admitted set
selects one of its answers, and the order and the repetitions of the answers do not matter. -/
theorem answer_sets_are_judged_whole (rt : Runtime) (h : Collates rt)
    (environment : EnvironmentName) : (∀ answers, (∃ addresses selected,
        verdict (admitResolvedAddressSet rt environment answers) = .admitted addresses selected) ↔
      1 ≤ answers.length ∧ answers.length ≤ 8 ∧ ∀ answer ∈ answers, SafeAnswer environment answer) ∧
    (∀ answers addresses selected,
      verdict (admitResolvedAddressSet rt environment answers) = .admitted addresses selected →
        ∃ answer ∈ answers, ∃ parsed, Parses answer parsed ∧
          selected.address = parsed.canonicalAddress ∧ selected.family = parsed.family) ∧
    (∀ answers answers', (∀ answer, answer ∈ answers ↔ answer ∈ answers') →
      (answers.length ≤ 8 ↔ answers'.length ≤ 8) →
        verdict (admitResolvedAddressSet rt environment answers) =
          verdict (admitResolvedAddressSet rt environment answers')) := by
  refine ⟨fun answers => admits_iff, ?_, fun answers answers' => verdict_congr h⟩
  intro answers addresses selected hadmitted
  obtain ⟨hselected, hmem⟩ := mem_addresses hadmitted
  obtain ⟨answer, hanswer, parsed, hparses, rfl⟩ := (hmem selected).mp hselected
  exact ⟨answer, hanswer, parsed, hparses, rfl, rfl⟩

theorem collates_plainRuntime : Collates plainRuntime where
  total s t := by
    rcases le_total s t with h | h
    · exact .inl (decide_eq_true h)
    · exact .inr (decide_eq_true h)
  trans s t u hst htu :=
    decide_eq_true (le_trans (of_decide_eq_true hst) (of_decide_eq_true htu))
  separates s t _ _ hst hts := le_antisymm (of_decide_eq_true hst) (of_decide_eq_true hts)

theorem answer_sets_are_judged_whole_plain : (∀ answers, (∃ addresses selected,
        verdict (admitResolvedAddressSet plainRuntime .dev answers) =
          .admitted addresses selected) ↔
      1 ≤ answers.length ∧ answers.length ≤ 8 ∧ ∀ answer ∈ answers, SafeAnswer .dev answer) ∧
    (∀ answers addresses selected,
      verdict (admitResolvedAddressSet plainRuntime .dev answers) = .admitted addresses selected →
        ∃ answer ∈ answers, ∃ parsed, Parses answer parsed ∧
          selected.address = parsed.canonicalAddress ∧ selected.family = parsed.family) ∧
    (∀ answers answers', (∀ answer, answer ∈ answers ↔ answer ∈ answers') →
      (answers.length ≤ 8 ↔ answers'.length ≤ 8) →
        verdict (admitResolvedAddressSet plainRuntime .dev answers) =
          verdict (admitResolvedAddressSet plainRuntime .dev answers')) :=
  answer_sets_are_judged_whole plainRuntime collates_plainRuntime .dev

end Decisions

end NightWatch.Proxy.AnswerSets
