import NightWatch.Environment.Config

namespace NightWatch.Environment.Loopback

open Lib.JsText Lib.WebUrl Environment.Config

/-- `localhost` or a name under it, an address of `127.0.0.0/8`, or `::1`. -/
def LoopbackHostname (hostname : JsString) : Prop :=
  hostname = "localhost".toList ∨ ".localhost".toList <:+ hostname ∨
    hostname = "[::1]".toList ∨ ∃ b c d : Fin 256, hostname = dotted 127 b c d

/-- What an accepted loopback entry names once its wildcard and port are gone. -/
inductive LoopbackBase : JsString → Prop
  | localhost : LoopbackBase "localhost".toList
  | quad (base : JsString) (hquad : dottedQuad base = true) (hhead : "127.".toList <+: base) :
      LoopbackBase base
  | bracketed (literal : JsString) (hliteral : loopbackLiteral literal = true) :
      LoopbackBase ('[' :: literal ++ [']'])

theorem stripPort_spec (s : JsString) :
    s = stripPort s ∨ ∃ port, allOf Char.isDigit port = true ∧ s = stripPort s ++ ':' :: port := by
  unfold stripPort
  split
  · rename_i host port hsplit
    split
    · rename_i hport
      exact Or.inr ⟨port, hport, (splitLast_eq_some hsplit).1⟩
    · exact Or.inl rfl
  · exact Or.inl rfl

variable {bare base s : JsString} {c : Char} {host : Host}

theorem stripPort_append {port : JsString} (hport : allOf Char.isDigit port = true) :
    stripPort (s ++ ':' :: port) = s := by
  have hcolon : ':' ∉ port := fun h => absurd ((allOf_iff.mp hport).2 _ h) (by decide)
  simp [stripPort, splitLast_append hcolon, hport]

theorem stripPort_of_not_mem (hs : ':' ∉ s) : stripPort s = s := by
  rcases stripPort_spec s with h | ⟨port, -, h⟩
  · exact h.symm
  · exact absurd (by rw [h]; simp) hs

theorem stripPort_bracketed (s : JsString) : stripPort (s ++ [']']) = s ++ [']'] := by
  rcases stripPort_spec (s ++ [']']) with h | ⟨port, hport, h⟩
  · exact h.symm
  · obtain ⟨hne, hdigits⟩ := allOf_iff.mp hport
    have hlast := congrArg List.getLast? h
    rw [List.getLast?_concat, List.append_cons, List.getLast?_append_of_ne_nil _ hne] at hlast
    have hmem : ']' ∈ port := List.mem_of_getLast? hlast.symm
    exact absurd (hdigits _ hmem) (by decide)

theorem allOf_isDigit_decimal (n : Nat) : allOf Char.isDigit (decimal n) = true :=
  allOf_iff.mpr ⟨Nat.toDigits_ne_nil, fun _ hc => isDigit_of_mem_decimal hc⟩

theorem stripPort_serialize (host : Host) : stripPort host.serialize = host.serialize := by
  by_cases hcolon : ':' ∈ host.serialize
  · obtain ⟨address, rfl⟩ := ipv6_of_mem_serialize hcolon (by decide) (by decide) (by decide)
    exact stripPort_bracketed ('[' :: address.serialize)
  · exact stripPort_of_not_mem hcolon

theorem mem_of_dottedQuad (hquad : dottedQuad base = true)
    (hc : c ∈ base) : c.isDigit = true ∨ c = '.' := by
  by_cases hdot : c = '.'
  · exact Or.inr hdot
  · left
    simp only [dottedQuad, Bool.and_eq_true, List.all_eq_true] at hquad
    obtain ⟨part, hpart, hmem⟩ := exists_mem_splitOn hc hdot
    exact (upTo_iff.mp (hquad.2 part hpart)).2.1 c hmem

theorem endsInNumber_append_dottedQuad (front : JsString) {base : JsString}
    (hquad : dottedQuad base = true) (hfront : front = [] ∨ ∃ before, front = before ++ ['.']) :
    endsInNumber (front ++ base) = true := by
  simp only [dottedQuad, Bool.and_eq_true, List.all_eq_true, decide_eq_true_eq] at hquad
  obtain ⟨hlength, hdigits⟩ := hquad
  have hne := List.splitOn_ne_nil '.' base
  have hlast : ((front ++ base).splitOn '.').getLast? = some ((base.splitOn '.').getLast hne) := by
    rcases hfront with rfl | ⟨before, rfl⟩
    · exact List.getLast?_eq_some_getLast hne
    · rw [List.append_assoc, List.singleton_append, List.splitOn_append_cons_self,
        List.getLast?_append_of_ne_nil _ hne]
      exact List.getLast?_eq_some_getLast hne
  obtain ⟨hpart, hall, -⟩ := upTo_iff.mp (hdigits _ (List.getLast_mem hne))
  unfold endsInNumber
  simp only [hlast, Option.some.injEq, hpart, decide_false, Bool.false_and, Bool.false_eq_true,
    if_false]
  split
  · rename_i digits heq
    rw [Option.some.inj heq] at hall
    exact absurd (hall 'x' (by simp)) (by decide)
  · rename_i last _ heq
    rw [← Option.some.inj heq]
    exact allOf_iff.mpr ⟨hpart, hall⟩
  · contradiction

theorem splitOn_dotted (a b c d : Nat) :
    (dotted a b c d).splitOn '.' = [decimal a, decimal b, decimal c, decimal d] := by
  have hdot : ∀ n, '.' ∉ decimal n := fun n h => absurd (isDigit_of_mem_decimal h) (by decide)
  simp only [dotted, List.append_assoc, List.cons_append, List.splitOn_append_cons_self,
    List.splitOn_eq_singleton (hdot _), List.nil_append]

theorem loopbackBase_of_loopbackHost {host : JsString} (hcolon : ':' ∉ host)
    (h : loopbackHost host = true) : LoopbackBase host := by
  simp only [loopbackHost, Bool.or_eq_true, Bool.and_eq_true, decide_eq_true_eq,
    startsWith_iff] at h
  rcases h with (rfl | rfl) | ⟨hquad, hhead⟩
  · exact .localhost
  · exact absurd (by decide) hcolon
  · exact .quad host hquad hhead

theorem loopbackBase_of_bare (hvalid : invalidBare bare = none)
    (hloopback : isLoopbackBare bare = true) : LoopbackBase (stripPort bare) := by
  unfold isLoopbackBare at hloopback
  split at hloopback
  · simp only [bracketedLoopback] at hloopback
    split at hloopback
    · rename_i rest hrest
      simp only [Bool.and_eq_true, decide_eq_true_eq] at hloopback
      obtain ⟨hlast, hliteral⟩ := hloopback
      rw [hrest, ← List.dropLast_append_getLast? _ hlast]
      exact .bracketed _ hliteral
    · contradiction
  · rename_i hbracket
    unfold invalidBare at hvalid
    split at hvalid
    · exact absurd (by simp) hbracket
    · split at hvalid
      · rename_i hsplit
        rw [hsplit] at hloopback
        have hcolon := splitLast_eq_none hsplit
        rw [stripPort_of_not_mem hcolon]
        exact loopbackBase_of_loopbackHost hcolon hloopback
      · rename_i host port hsplit
        rw [hsplit] at hloopback
        split at hvalid
        · contradiction
        · rename_i hcolon
          split at hvalid
          · contradiction
          · rename_i hport
            simp only [Bool.or_eq_true, Bool.not_eq_true', not_or, Bool.not_eq_false] at hport
            have hdigits : allOf Char.isDigit port = true := by
              have := hport.1
              simp only [upTo, Bool.and_eq_true] at this
              exact this.1
            rw [(splitLast_eq_some hsplit).1, stripPort_append hdigits]
            exact loopbackBase_of_loopbackHost hcolon hloopback

theorem bare_of_entry {entry : JsString} (hvalid : invalidHostEntry entry = none)
    (hloopback : isLoopbackEntry entry = true) : ∃ bare, LoopbackBase (stripPort bare) ∧
      (entry = bare ∧ ¬ "*.".toList <+: entry ∨ entry = '*' :: '.' :: bare) := by
  unfold invalidHostEntry at hvalid
  split at hvalid
  · contradiction
  · split at hvalid
    · rename_i bare _
      split at hvalid
      · contradiction
      · split at hvalid
        · contradiction
        · refine ⟨bare, loopbackBase_of_bare hvalid ?_, Or.inr rfl⟩
          simpa [isLoopbackEntry] using hloopback
    · rename_i hwildcard
      have hhead : ¬ "*.".toList <+: entry := by
        rintro ⟨bare, hbare⟩
        exact hwildcard bare hbare.symm
      split at hvalid
      · contradiction
      · refine ⟨entry, loopbackBase_of_bare hvalid ?_, Or.inl ⟨rfl, hhead⟩⟩
        rwa [isLoopbackEntry, if_neg (by simpa using hhead)] at hloopback

theorem isLowerAscii_of_isDigit (hc : c.isDigit = true) : c.toNat < 128 ∧ c.isUpper = false := by
  have hall : ∀ d ∈ "0123456789".toList, d.toNat < 128 ∧ d.isUpper = false := by decide
  exact hall c (mem_digits hc)

theorem mem_of_loopbackLiteral {literal : JsString} (h : loopbackLiteral literal = true) :
    ∃ body, literal = body ++ ['1'] ∧ ∀ c ∈ body, c = '0' ∨ c = ':' := by
  unfold loopbackLiteral at h
  split at h
  · rename_i before hrev
    simp only [Bool.and_eq_true, List.all_eq_true, Bool.or_eq_true, decide_eq_true_eq] at h
    refine ⟨before.reverse, by simpa using congrArg List.reverse hrev, fun c hc => ?_⟩
    exact h.1 c (by simpa using hc)
  · contradiction

theorem LoopbackBase.isLowerAscii (h : LoopbackBase base) : IsLowerAscii base := by
  cases h with
  | localhost => decide
  | quad _ hquad hhead =>
      intro c hc
      rcases mem_of_dottedQuad hquad hc with h | rfl
      · exact isLowerAscii_of_isDigit h
      · decide
  | bracketed literal hliteral =>
      obtain ⟨body, rfl, hbody⟩ := mem_of_loopbackLiteral hliteral
      intro c hc
      simp only [List.cons_append, List.append_assoc, List.mem_cons, List.mem_append,
        List.not_mem_nil, false_or, or_false] at hc
      rcases hc with rfl | hc | rfl | rfl
      · decide
      · rcases hbody c hc with rfl | rfl
        · decide
        · decide
      · decide
      · decide

theorem isLowerAscii_of_stripPort (h : IsLowerAscii (stripPort bare)) : IsLowerAscii bare := by
  rcases stripPort_spec bare with hbare | ⟨port, hport, hbare⟩
  · rwa [hbare]
  · rw [hbare]
    intro c hc
    rcases List.mem_append.mp hc with hc | hc
    · exact h c hc
    · rcases List.mem_cons.mp hc with rfl | hc
      · decide
      · exact isLowerAscii_of_isDigit ((allOf_iff.mp hport).2 c hc)

theorem loopbackHostname_of_base (h : LoopbackBase host.serialize) :
    LoopbackHostname host.serialize := by
  generalize hname : host.serialize = hostname at h
  cases h with
  | localhost => exact Or.inl rfl
  | quad _ hquad hhead =>
      right; right; right
      cases host with
      | domain d =>
          have hnumber := endsInNumber_append_dottedQuad [] hquad (Or.inl rfl)
          have hvalid := d.valid
          rw [← hname] at hnumber
          simp only [isDomain, Bool.and_eq_true, Bool.not_eq_true'] at hvalid
          exact absurd hnumber (by simp [Host.serialize, hvalid.2])
      | ipv4 a b c d =>
          obtain ⟨rest, hrest⟩ := hhead
          have hsplit := splitOn_dotted a b c d
          change dotted a b c d = hostname at hname
          have h127 : hostname = "127".toList ++ '.' :: rest := by simpa using hrest.symm
          rw [hname, h127, List.splitOn_append_cons_self] at hsplit
          have ha : "127".toList = decimal a := List.head_eq_of_cons_eq hsplit
          have ha : (a : Nat) = 127 := by
            rw [← decimalValue_decimal a, ← ha]
            decide
          exact ⟨b, c, d, by rw [← hname, ha]⟩
      | ipv6 address =>
          have hbracket : '[' ∈ hostname := by rw [← hname]; simp [Host.serialize]
          rcases mem_of_dottedQuad hquad hbracket with h | h
          · exact absurd h (by decide)
          · exact absurd h (by decide)
  | bracketed literal hliteral =>
      right; right; left
      obtain ⟨body, hbody, hchars⟩ := mem_of_loopbackLiteral hliteral
      have hmem : '[' ∈ host.serialize := by rw [hname]; simp
      obtain ⟨address, rfl⟩ := ipv6_of_mem_serialize hmem (by decide) (by decide) (by decide)
      have hserialize : address.serialize = literal := by
        simpa [Host.serialize] using hname
      have hpieces := pieces_of_serialize_eq (hserialize.trans hbody) hchars
      rw [← hserialize, Ipv6Address.serialize, hpieces]
      decide

theorem wildcard_loopback (hbase : LoopbackBase (stripPort bare))
    (hsuffix : '.' :: bare <:+ host.serialize) : LoopbackHostname host.serialize := by
  have hdot : '.' ∈ host.serialize := hsuffix.subset (by simp)
  have hplain : ∀ c, forbiddenDomain c = true → c.isDigit = false → c ≠ '.' → c ∉ bare := by
    intro c hforbidden hdigit hc hmem
    have hin : c ∈ host.serialize := hsuffix.subset (by simp [hmem])
    obtain ⟨address, rfl⟩ := ipv6_of_mem_serialize hin hforbidden hdigit hc
    exact dot_not_mem_ipv6 address hdot
  have hcolon : ':' ∉ bare := hplain ':' (by decide) (by decide) (by decide)
  rw [stripPort_of_not_mem hcolon] at hbase
  cases hbase with
  | localhost => exact Or.inr (Or.inl hsuffix)
  | quad _ hquad hhead =>
      obtain ⟨front, hfront⟩ := hsuffix
      exfalso
      cases host with
      | domain d =>
          have hnumber := endsInNumber_append_dottedQuad (front ++ ['.']) hquad
            (Or.inr ⟨front, rfl⟩)
          have hvalid := d.valid
          rw [List.append_assoc, List.singleton_append, hfront] at hnumber
          simp only [isDomain, Bool.and_eq_true, Bool.not_eq_true'] at hvalid
          exact absurd hnumber (by simp [Host.serialize, hvalid.2])
      | ipv4 a b c d =>
          have hsplit := congrArg List.length (splitOn_dotted a b c d)
          change front ++ '.' :: bare = dotted a b c d at hfront
          simp only [dottedQuad, Bool.and_eq_true, decide_eq_true_eq] at hquad
          have hne := List.length_pos_iff.mpr (List.splitOn_ne_nil '.' front)
          rw [← hfront, List.splitOn_append_cons_self, List.length_append, hquad.1] at hsplit
          simp only [List.length_cons, List.length_nil] at hsplit
          omega
      | ipv6 address => exact dot_not_mem_ipv6 address hdot
  | bracketed literal hliteral =>
      exact absurd (by simp) (hplain '[' (by decide) (by decide) (by decide))

end NightWatch.Environment.Loopback
