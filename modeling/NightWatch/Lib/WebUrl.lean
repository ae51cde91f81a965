import NightWatch.Lib.JsText

/-!
Parsed web addresses. A host of a network scheme is a domain, an IPv4 address or
an IPv6 address, and its text is the serialization of one of them; a parser is
any function that delivers records of this shape.
-/

namespace NightWatch.Lib.WebUrl

open Lib.JsText

def forbiddenDomain (c : Char) : Bool :=
  c.toNat ≤ 0x20 || 0x7f ≤ c.toNat || c ∈ "#%/:<>?@[\\]^|".toList

def isHexDigit (c : Char) : Bool := c.isDigit || ('a' ≤ c && c ≤ 'f')

def endsInNumber (s : JsString) : Bool :=
  let labels := s.splitOn '.'
  let labels := if labels.getLast? = some [] && 1 < labels.length then labels.dropLast else labels
  match labels.getLast? with
  | some ('0' :: 'x' :: digits) => digits.all isHexDigit
  | some last => allOf Char.isDigit last
  | none => false

def isDomain (s : JsString) : Bool :=
  allOf (fun c => !forbiddenDomain c && !c.isUpper) s && !endsInNumber s

structure Domain where
  name : JsString
  valid : isDomain name = true

def hexPiece (p : Fin 65536) : JsString := Nat.toDigits 16 p.val

structure Ipv6Address where
  pieces : List (Fin 65536)
  length_eq : pieces.length = 8

def joinPieces : List (Fin 65536) → JsString
  | [] => []
  | [p] => hexPiece p
  | p :: rest => hexPiece p ++ ':' :: joinPieces rest

def windows : List (Nat × Nat) :=
  (List.range 7).flatMap fun k => (List.range (k + 1)).map fun start => (start, 8 - k)

def zeroRun (pieces : List (Fin 65536)) : Option (Nat × Nat) :=
  windows.find? fun w => ((pieces.drop w.1).take w.2).all (· = 0)

def Ipv6Address.serialize (a : Ipv6Address) : JsString :=
  match zeroRun a.pieces with
  | none => joinPieces a.pieces
  | some (start, count) =>
      joinPieces (a.pieces.take start) ++ "::".toList ++
        joinPieces (a.pieces.drop (start + count))

inductive Host where
  | domain (d : Domain)
  | ipv4 (a b c d : Fin 256)
  | ipv6 (address : Ipv6Address)

def dotted (a b c d : Nat) : JsString :=
  decimal a ++ '.' :: decimal b ++ '.' :: decimal c ++ '.' :: decimal d

/-- The host serializer: the text a parsed address carries as its `hostname`. -/
def Host.serialize : Host → JsString
  | domain d => d.name
  | ipv4 a b c d => dotted a b c d
  | ipv6 address => '[' :: address.serialize ++ [']']

/-- The characters of a serialized host: printable, no capital, and none of the
delimiters of the address around it. -/
def isHostChar (c : Char) : Bool :=
  0x20 < c.toNat && c.toNat < 0x7f && !c.isUpper && !"#%/<>?@\\^|".toList.contains c

variable {c : Char} {p : Fin 65536} {pieces : List (Fin 65536)}

theorem mem_digits (hc : c.isDigit = true) : c ∈ "0123456789".toList := by
  simp only [Char.isDigit, Bool.and_eq_true, decide_eq_true_eq] at hc
  have hlo : 48 ≤ c.toNat := hc.1
  have hhi : c.toNat ≤ 57 := hc.2
  rw [← Char.ofNat_toNat c]
  interval_cases c.toNat <;> decide

theorem mem_hexDigits (hc : isHexDigit c = true) : c ∈ "0123456789abcdef".toList := by
  simp only [isHexDigit, Bool.or_eq_true, Bool.and_eq_true, decide_eq_true_eq] at hc
  rcases hc with hc | ⟨hlo, hhi⟩
  · have hmem := mem_digits hc
    simp only [String.reduceToList, List.mem_cons] at hmem ⊢
    tauto
  · have hlo : 97 ≤ c.toNat := hlo
    have hhi : c.toNat ≤ 102 := hhi
    rw [← Char.ofNat_toNat c]
    interval_cases c.toNat <;> decide

theorem isHostChar_of_isHexDigit (hc : isHexDigit c = true) : isHostChar c = true := by
  have hall : ∀ d ∈ "0123456789abcdef".toList, isHostChar d = true := by decide
  exact hall c (mem_hexDigits hc)

theorem isHostChar_of_isDigit (hc : c.isDigit = true) : isHostChar c = true :=
  isHostChar_of_isHexDigit (by simp [isHexDigit, hc])

variable {d : Nat} {a : Ipv6Address} {host : Host}

theorem isHexDigit_of_digitChar (hd : d < 16) : isHexDigit d.digitChar = true := by
  have hall : ∀ d : Fin 16, isHexDigit d.val.digitChar = true := by decide
  exact hall ⟨d, hd⟩

theorem toDigits_sixteen_spec (n : Nat) : (∀ c ∈ Nat.toDigits 16 n, isHexDigit c = true) ∧
      (n ≠ 0 → ∃ d rest, Nat.toDigits 16 n = d :: rest ∧ d ≠ '0') := by
  have hhead : ∀ d : Fin 16, d.val ≠ 0 → d.val.digitChar ≠ '0' := by decide
  induction n using Nat.strongRecOn with
  | ind n ih =>
      rw [Nat.toDigits_eq_if (by decide)]
      split
      · rename_i hn
        refine ⟨fun c hc => ?_, fun hne => ⟨n.digitChar, [], rfl, hhead ⟨n, hn⟩ hne⟩⟩
        rw [List.mem_singleton.mp hc]
        exact isHexDigit_of_digitChar hn
      · rename_i hn
        obtain ⟨hdigits, hlead⟩ := ih (n / 16) (by omega)
        refine ⟨fun c hc => ?_, fun _ => ?_⟩
        · rcases List.mem_append.mp hc with hc | hc
          · exact hdigits c hc
          · rw [List.mem_singleton.mp hc]
            exact isHexDigit_of_digitChar (Nat.mod_lt n (by decide))
        · obtain ⟨d, rest, heq, hd⟩ := hlead (by omega)
          exact ⟨d, rest ++ [(n % 16).digitChar], by rw [heq]; rfl, hd⟩

theorem isHexDigit_of_mem_hexPiece (hc : c ∈ hexPiece p) : isHexDigit c = true :=
  (toDigits_sixteen_spec p.val).1 c hc

theorem hexPiece_head (hp : p ≠ 0) : ∃ d rest, hexPiece p = d :: rest ∧ d ≠ '0' ∧ d ≠ ':' := by
  have hval : p.val ≠ 0 := fun h => hp (Fin.ext h)
  obtain ⟨d, rest, heq, hd⟩ := (toDigits_sixteen_spec p.val).2 hval
  refine ⟨d, rest, heq, hd, ?_⟩
  rintro rfl
  have hcolon := isHexDigit_of_mem_hexPiece (p := p) (c := ':') (by rw [hexPiece, heq]; simp)
  exact absurd hcolon (by decide)

theorem mem_joinPieces (hc : c ∈ joinPieces pieces) : isHexDigit c = true ∨ c = ':' := by
  induction pieces with
  | nil => simp [joinPieces] at hc
  | cons p rest ih =>
      cases rest with
      | nil => exact Or.inl (isHexDigit_of_mem_hexPiece hc)
      | cons q rest =>
          simp only [joinPieces, List.mem_append, List.mem_cons] at hc
          rcases hc with hc | rfl | hc
          · exact Or.inl (isHexDigit_of_mem_hexPiece hc)
          · exact Or.inr rfl
          · exact ih hc

theorem mem_joinPieces_of_mem (hp : p ∈ pieces) (hc : c ∈ hexPiece p) : c ∈ joinPieces pieces := by
  induction pieces with
  | nil => contradiction
  | cons q rest ih =>
      cases rest with
      | nil => rwa [List.mem_singleton.mp hp] at hc
      | cons r rest =>
          simp only [joinPieces, List.mem_append, List.mem_cons]
          rcases List.mem_cons.mp hp with rfl | hp
          · exact Or.inl hc
          · exact Or.inr (Or.inr (ih hp))

theorem mem_serialize (hc : c ∈ a.serialize) : isHexDigit c = true ∨ c = ':' := by
  unfold Ipv6Address.serialize at hc
  split at hc
  · exact mem_joinPieces hc
  · rcases List.mem_append.mp hc with hc | hc
    · rcases List.mem_append.mp hc with hc | hc
      · exact mem_joinPieces hc
      · exact Or.inr (by simpa using hc)
    · exact mem_joinPieces hc

theorem joinPieces_concat (init : List (Fin 65536)) (last : Fin 65536) :
    ∃ before, joinPieces (init ++ [last]) = before ++ hexPiece last ∧
      ∀ p ∈ init, ∀ c ∈ hexPiece p, c ∈ before := by
  induction init with
  | nil => exact ⟨[], by simp [joinPieces]⟩
  | cons p init ih =>
      obtain ⟨before, heq, hmem⟩ := ih
      refine ⟨hexPiece p ++ ':' :: before, ?_, ?_⟩
      · have hne : init ++ [last] ≠ [] := by simp
        obtain ⟨q, rest, hq⟩ := List.exists_cons_of_ne_nil hne
        rw [List.cons_append, hq, joinPieces]
        · rw [← hq, heq]
          simp
        · simp
      · intro q hq c hc
        rcases List.mem_cons.mp hq with rfl | hq
        · simp [hc]
        · simp [hmem q hq c hc]

theorem zeroRun_zero {start count : Nat}
    (h : zeroRun pieces = some (start, count)) : ∀ p ∈ (pieces.drop start).take count, p = 0 := by
  have hall := List.find?_some h
  simpa using hall

theorem serialize_last (a : Ipv6Address) : ':' ∈ a.serialize.getLast? ∨
      ∃ init last before, a.pieces = init ++ [last] ∧ a.serialize = before ++ hexPiece last ∧
        ∀ p ∈ init, p = 0 ∨ ∀ c ∈ hexPiece p, c ∈ before := by
  unfold Ipv6Address.serialize
  split
  · have hne : a.pieces ≠ [] := fun h => by simpa [h] using a.length_eq
    obtain ⟨before, heq, hmem⟩ := joinPieces_concat a.pieces.dropLast (a.pieces.getLast hne)
    rw [List.dropLast_append_getLast] at heq
    exact Or.inr ⟨_, _, before, (List.dropLast_append_getLast hne).symm, heq,
      fun p hp => Or.inr (hmem p hp)⟩
  · rename_i start count hrun
    by_cases htail : a.pieces.drop (start + count) = []
    · left
      simp [htail, joinPieces]
    · right
      let tail := a.pieces.drop (start + count)
      let window := (a.pieces.drop start).take count
      obtain ⟨before, heq, hmem⟩ := joinPieces_concat tail.dropLast (tail.getLast htail)
      rw [List.dropLast_append_getLast] at heq
      have hsplit : a.pieces = a.pieces.take start ++ (window ++ tail) := by
        have htail : tail = (a.pieces.drop start).drop count := by
          simp [tail, List.drop_drop]
        rw [htail, List.take_append_drop, List.take_append_drop]
      refine ⟨a.pieces.take start ++ (window ++ tail.dropLast), tail.getLast htail,
        joinPieces (a.pieces.take start) ++ "::".toList ++ before, ?_, ?_, ?_⟩
      · rw [List.append_assoc, List.append_assoc, List.dropLast_append_getLast]
        exact hsplit
      · rw [List.append_assoc _ before, ← heq]
      · intro p hp
        rcases List.mem_append.mp hp with hp | hp
        · right
          intro c hc
          have hin := mem_joinPieces_of_mem hp hc
          simp [hin]
        · rcases List.mem_append.mp hp with hp | hp
          · exact Or.inl (zeroRun_zero hrun p hp)
          · exact Or.inr fun c hc => by simp [hmem p hp c hc]

theorem eq_one_of_hexPiece (hp : hexPiece p = ['1']) : p = 1 := by
  have hsmall : ∀ d : Fin 16, d.val.digitChar = '1' → d.val = 1 := by decide
  rw [hexPiece, Nat.toDigits_eq_if (by decide)] at hp
  split at hp
  · rename_i hlt
    exact Fin.ext (hsmall ⟨p.val, hlt⟩ (by simpa using hp))
  · have hlen := congrArg List.length hp
    simp at hlen

theorem pieces_of_serialize_eq {body : JsString}
    (h : a.serialize = body ++ ['1']) (hbody : ∀ c ∈ body, c = '0' ∨ c = ':') :
    a.pieces = [0, 0, 0, 0, 0, 0, 0, 1] := by
  rcases serialize_last a with hcolon | ⟨init, last, before, hpieces, hserialize, hinit⟩
  · simp [h] at hcolon
  · rw [h] at hserialize
    have hne : hexPiece last ≠ [] := Nat.toDigits_ne_nil
    have hlast : hexPiece last = (hexPiece last).dropLast ++ ['1'] := by
      have hget := congrArg List.getLast? hserialize
      rw [List.getLast?_append_of_ne_nil _ hne] at hget
      simp only [List.getLast?_append, List.getLast?_singleton, Option.some_or] at hget
      exact (List.dropLast_append_getLast? '1' hget.symm).symm
    have hsplit : body = before ++ (hexPiece last).dropLast := by
      rw [hlast, ← List.append_assoc] at hserialize
      exact List.append_cancel_right hserialize
    have hzero : ∀ p ∈ init, p = 0 := by
      intro p hp
      rcases hinit p hp with hp | hmem
      · exact hp
      · by_contra hne
        obtain ⟨d, rest, hd, hzero, hcolon⟩ := hexPiece_head hne
        have hmem := hmem d (by simp [hd])
        rcases hbody d (by simp [hsplit, hmem]) with h | h
        · exact hzero h
        · exact hcolon h
    have hone : last = 1 := by
      have hlast0 : last ≠ 0 := by
        rintro rfl
        exact absurd hlast (by decide)
      obtain ⟨d, rest, hd, hzero, hcolon⟩ := hexPiece_head hlast0
      cases hrest : (hexPiece last).dropLast with
      | nil =>
          rw [hrest] at hlast
          exact eq_one_of_hexPiece hlast
      | cons e more =>
          have he : e = d := by
            rw [hlast, hrest] at hd
            simpa using congrArg List.head? hd
          rcases hbody e (by simp [hsplit, hrest]) with h | h
          · exact absurd (he ▸ h) hzero
          · exact absurd (he ▸ h) hcolon
    have hlen : init.length = 7 := by
      have := a.length_eq
      rw [hpieces] at this
      simpa using this
    rw [hpieces, hone, List.eq_replicate_of_mem hzero, hlen]
    rfl

theorem mem_dotted {a b c : Nat} {x : Char} (hx : x ∈ dotted a b c d) :
    x.isDigit = true ∨ x = '.' := by
  simp only [dotted, List.append_assoc, List.cons_append, List.mem_append, List.mem_cons] at hx
  rcases hx with h | rfl | h | rfl | h | rfl | h
  all_goals first | exact Or.inl (isDigit_of_mem_decimal h) | exact Or.inr rfl

theorem Domain.mem_spec (d : Domain) {c : Char} (hc : c ∈ d.name) :
    forbiddenDomain c = false ∧ c.isUpper = false := by
  have hvalid := d.valid
  simp only [isDomain, Bool.and_eq_true, allOf_iff] at hvalid
  simpa using hvalid.1.2 c hc

theorem isHostChar_of_mem_serialize (hc : c ∈ host.serialize) : isHostChar c = true := by
  cases host with
  | domain d =>
      obtain ⟨hforbidden, hupper⟩ := d.mem_spec hc
      simp only [forbiddenDomain, Bool.or_eq_false_iff, decide_eq_false_iff_not] at hforbidden
      obtain ⟨⟨hlo, hhi⟩, hlist⟩ := hforbidden
      simp only [isHostChar, hupper]
      simp at hlist ⊢
      refine ⟨⟨by omega, by omega⟩, ?_⟩
      tauto
  | ipv4 a b c d =>
      rcases mem_dotted hc with h | rfl
      · exact isHostChar_of_isDigit h
      · decide
  | ipv6 address =>
      simp only [Host.serialize, List.cons_append, List.mem_cons, List.mem_append,
        List.not_mem_nil, or_false] at hc
      rcases hc with rfl | hc | rfl
      · decide
      · rcases mem_serialize hc with h | rfl
        · exact isHostChar_of_isHexDigit h
        · decide
      · decide

theorem serialize_ne_nil (host : Host) : host.serialize ≠ [] := by
  cases host with
  | domain d =>
      have hvalid := d.valid
      simp only [isDomain, Bool.and_eq_true, allOf_iff] at hvalid
      exact hvalid.1.1
  | ipv4 a b c d => simp [Host.serialize, dotted]
  | ipv6 address => simp [Host.serialize]

theorem isLowerAscii_serialize (host : Host) : IsLowerAscii host.serialize := by
  intro c hc
  have hchar := isHostChar_of_mem_serialize hc
  simp only [isHostChar, Bool.and_eq_true, decide_eq_true_eq, Bool.not_eq_true'] at hchar
  exact ⟨by omega, hchar.1.2⟩

theorem ipv6_of_mem_serialize (hc : c ∈ host.serialize)
    (hforbidden : forbiddenDomain c = true) (hdigit : c.isDigit = false) (hdot : c ≠ '.') :
    ∃ address, host = .ipv6 address := by
  cases host with
  | domain d => simp [(d.mem_spec hc).1] at hforbidden
  | ipv4 a b c d =>
      rcases mem_dotted hc with h | h
      · simp [h] at hdigit
      · exact absurd h hdot
  | ipv6 address => exact ⟨address, rfl⟩

theorem dot_not_mem_ipv6 (address : Ipv6Address) : '.' ∉ (Host.ipv6 address).serialize := by
  intro hc
  simp only [Host.serialize, List.cons_append, List.mem_cons, List.mem_append,
    List.not_mem_nil, or_false] at hc
  rcases hc with h | h | h
  · exact absurd h (by decide)
  · rcases mem_serialize h with h | h
    · exact absurd h (by decide)
    · exact absurd h (by decide)
  · exact absurd h (by decide)

def networkProtocols : List JsString :=
  ["http:".toList, "https:".toList, "ws:".toList, "wss:".toList]

/-- A parsed address. `port` is `none` for the empty port text: an absent port or
the default one of the scheme. -/
structure Url where
  protocol : JsString
  username : JsString
  password : JsString
  hostname : JsString
  port : Option Nat
  pathname : JsString
  search : JsString
  hash : JsString
  origin : JsString
  protocol_lower : IsLowerAscii protocol
  host_serialized : protocol ∈ networkProtocols → ∃ host : Host, hostname = host.serialize
  port_le : ∀ p, port = some p → p ≤ 65535

theorem isLowerAscii_http : IsLowerAscii "http:".toList := by decide

theorem isLowerAscii_https : IsLowerAscii "https:".toList := by decide

/-- The address `protocol//name[:port]pathname`. -/
def Url.ofDomain (protocol : JsString) (d : Domain) (port : Option (Fin 65536))
    (pathname : JsString) (hprotocol : IsLowerAscii protocol) : Url where
  protocol := protocol
  username := []
  password := []
  hostname := d.name
  port := port.map Fin.val
  pathname := pathname
  search := []
  hash := []
  origin := protocol ++ "//".toList ++ d.name ++ (port.map fun p => ':' :: decimal p).getD []
  protocol_lower := hprotocol
  host_serialized _ := ⟨.domain d, rfl⟩
  port_le p hp := by
    obtain ⟨q, -, hq⟩ := Option.map_eq_some_iff.mp hp
    omega

end NightWatch.Lib.WebUrl
