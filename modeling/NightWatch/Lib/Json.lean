import NightWatch.Lib.JsData

/-!
JSON texts of plain data: the writer without blanks, a reader for what it writes, and
the round trip. Numbers are the safe integers.
-/

namespace NightWatch.Lib.Json

open Lib.JsText Lib.JsData

/-- A name that no array index spells, so that objects keep it in writing order. -/
def IsName (name : JsString) : Prop := ∃ c ∈ name, c.isDigit = false

instance (name : JsString) : Decidable (IsName name) :=
  inferInstanceAs (Decidable (∃ c ∈ name, _))

/-- Values without parts. -/
inductive IsScalar : JsValue → Prop
  | null : IsScalar .null
  | bool (b : Bool) : IsScalar (.bool b)
  | num (z : ℤ) (hz : z.natAbs ≤ 2 ^ 53 - 1) : IsScalar (.num (.finite z))
  | str (s : JsString) : IsScalar (.str s)

/-- Data that a JSON text stands for. -/
inductive IsJson : JsValue → Prop
  | scalar {v : JsValue} (hv : IsScalar v) : IsJson v
  | arr {items : List JsValue} (hitems : ∀ v ∈ items, IsJson v) : IsJson (.arr items)
  | obj {fields : List (JsString × JsValue)} (hnodup : (fields.map Prod.fst).Nodup)
      (hnames : ∀ name ∈ fields.map Prod.fst, IsName name)
      (hvalues : ∀ v ∈ fields.map Prod.snd, IsJson v) : IsJson (.obj fields)

def hexDigit (n : Nat) : Char := n.digitChar

def escape (c : Char) : JsString :=
  if c = '"' then "\\\"".toList
  else if c = '\\' then "\\\\".toList
  else if c.toNat < 0x20 then
    "\\u00".toList ++ [hexDigit (c.toNat / 16), hexDigit (c.toNat % 16)]
  else [c]

def quoted (s : JsString) : JsString := '"' :: s.flatMap escape ++ ['"']

def numberText : JsNumber → JsString
  | .finite q => if q.num < 0 then '-' :: decimal q.num.natAbs else decimal q.num.natAbs
  | _ => "null".toList

mutual

/-- `JSON.stringify(value)`. -/
def text : JsValue → JsString
  | .undefined | .null => "null".toList
  | .bool true => "true".toList
  | .bool false => "false".toList
  | .num n => numberText n
  | .str s => quoted s
  | .arr [] => "[]".toList
  | .arr (v :: rest) => '[' :: text v ++ itemsText rest
  | .obj [] => "\x7b\x7d".toList
  | .obj ((name, v) :: rest) => '\x7b' :: quoted name ++ ':' :: text v ++ fieldsText rest

def itemsText : List JsValue → JsString
  | [] => [']']
  | v :: rest => ',' :: text v ++ itemsText rest

def fieldsText : List (JsString × JsValue) → JsString
  | [] => ['\x7d']
  | (name, v) :: rest => ',' :: quoted name ++ ':' :: text v ++ fieldsText rest

end

def readString : JsString → Option (JsString × JsString)
  | [] => none
  | c :: rest =>
      if c = '"' then some ([], rest)
      else if c = '\\' then
        match rest with
        | 'u' :: '0' :: '0' :: high :: low :: rest =>
            match hexValue high, hexValue low with
            | some high, some low =>
                (readString rest).map fun p => (Char.ofNat (16 * high + low) :: p.1, p.2)
            | _, _ => none
        | c :: rest => (readString rest).map fun p => (c :: p.1, p.2)
        | [] => none
      else (readString rest).map fun p => (c :: p.1, p.2)

def readNumber (s : JsString) : Option (Nat × JsString) :=
  let digits := s.takeWhile Char.isDigit
  if digits = [] then none else some (decimalValue digits, s.dropWhile Char.isDigit)

def readLiteral (s : JsString) : Option (JsValue × JsString) :=
  if startsWith s "null".toList then some (.null, s.drop 4)
  else if startsWith s "true".toList then some (.bool true, s.drop 4)
  else if startsWith s "false".toList then some (.bool false, s.drop 5)
  else none

def readName : JsString → Option (JsString × JsString)
  | '"' :: s =>
      match readString s with
      | some (name, ':' :: rest) => some (name, rest)
      | _ => none
  | _ => none

mutual

def readValue : Nat → JsString → Option (JsValue × JsString)
  | 0, _ | _ + 1, [] => none
  | fuel + 1, c :: rest =>
      if c = '"' then (readString rest).map fun p => (.str p.1, p.2)
      else if c = '[' then
        if startsWith rest "]".toList then some (.arr [], rest.tail)
        else do
          let (v, rest) ← readValue fuel rest
          let (items, rest) ← readItems fuel rest
          some (.arr (v :: items), rest)
      else if c = '\x7b' then
        if startsWith rest "\x7d".toList then some (.obj [], rest.tail)
        else do
          let (name, rest) ← readName rest
          let (v, rest) ← readValue fuel rest
          let (fields, rest) ← readFields fuel rest
          some (.obj ((name, v) :: fields), rest)
      else if c = '-' then
        (readNumber rest).map fun p => (.num (.finite (-(p.1 : ℤ) : ℤ)), p.2)
      else if c.isDigit then
        (readNumber (c :: rest)).map fun p => (.num (.finite (p.1 : ℤ)), p.2)
      else readLiteral (c :: rest)

def readItems : Nat → JsString → Option (List JsValue × JsString)
  | 0, _ => none
  | fuel + 1, s =>
      match s with
      | ']' :: rest => some ([], rest)
      | ',' :: rest => do
          let (v, rest) ← readValue fuel rest
          let (items, rest) ← readItems fuel rest
          some (v :: items, rest)
      | _ => none

def readFields : Nat → JsString → Option (List (JsString × JsValue) × JsString)
  | 0, _ => none
  | fuel + 1, s =>
      match s with
      | '\x7d' :: rest => some ([], rest)
      | ',' :: rest => do
          let (name, rest) ← readName rest
          let (v, rest) ← readValue fuel rest
          let (fields, rest) ← readFields fuel rest
          some ((name, v) :: fields, rest)
      | _ => none

end

/-- `JSON.parse(s)` on texts of the writer. -/
def parse (s : JsString) : Option JsValue :=
  match readValue (s.length + 1) s with
  | some (v, []) => some v
  | _ => none

-- The equations of the writer and the reader, made here once for all the proofs below.
section

attribute [local simp] text itemsText fieldsText readString readName readNumber
  readLiteral readValue readItems readFields

end

theorem hexValue_hexDigit {n : Nat} (hn : n < 16) : hexValue (hexDigit n) = some n := by
  have hall : ∀ d : Fin 16, hexValue (hexDigit d.val) = some d.val := by decide
  exact hall ⟨n, hn⟩

theorem readString_close (rest : JsString) : readString ('"' :: rest) = some ([], rest) := by
  rw [readString.eq_def]
  exact if_pos rfl

theorem readString_escape (c : Char) (rest : JsString) :
    readString (escape c ++ rest) = (readString rest).map fun p => (c :: p.1, p.2) := by
  unfold escape
  split
  · rename_i hc
    subst hc
    rfl
  · rename_i hquote
    split
    · rename_i hc
      subst hc
      rfl
    · rename_i hslash
      split
      · rename_i hcontrol
        have hhigh := hexValue_hexDigit (n := c.toNat / 16) (by omega)
        have hlow := hexValue_hexDigit (n := c.toNat % 16) (by omega)
        have hchar : Char.ofNat (16 * (c.toNat / 16) + c.toNat % 16) = c := by
          rw [Nat.div_add_mod]
          exact Char.ofNat_toNat c
        rw [List.append_assoc, readString.eq_def]
        simp [hhigh, hlow, hchar]
      · rw [List.singleton_append, readString.eq_def]
        dsimp only
        rw [if_neg hquote, if_neg hslash]

theorem readString_quoted (s rest : JsString) :
    readString (s.flatMap escape ++ '"' :: rest) = some (s, rest) := by
  induction s with
  | nil => exact readString_close rest
  | cons c s ih =>
      rw [List.flatMap_cons, List.append_assoc, readString_escape, ih]
      rfl

theorem readName_quoted (name rest : JsString) :
    readName (quoted name ++ ':' :: rest) = some (name, rest) := by
  have hquoted :
      quoted name ++ ':' :: rest = '"' :: (name.flatMap escape ++ '"' :: ':' :: rest) := by
    simp [quoted]
  rw [hquoted, readName, readString_quoted]
  rfl

/-- What may follow a number. -/
def Stops (rest : JsString) : Prop := ∀ c ∈ rest.head?, c.isDigit = false

theorem stops_nil : Stops [] := by
  intro c hc
  contradiction

theorem stops_cons {c : Char} {rest : JsString} (hc : c.isDigit = false) : Stops (c :: rest) := by
  intro d hd
  rw [← Option.mem_some_iff.mp hd]
  exact hc

theorem readNumber_decimal (n : Nat) {rest : JsString} (hrest : Stops rest) :
    readNumber (decimal n ++ rest) = some (n, rest) := by
  have hdigits : ∀ c ∈ decimal n, c.isDigit = true := fun c => isDigit_of_mem_decimal
  have htake : rest.takeWhile Char.isDigit = [] := by
    cases rest with
    | nil => rfl
    | cons c rest => simp [hrest c rfl]
  have hdrop : rest.dropWhile Char.isDigit = rest := by
    cases rest with
    | nil => rfl
    | cons c rest => simp [hrest c rfl]
  have hne : decimal n ≠ [] := Nat.toDigits_ne_nil
  unfold readNumber
  dsimp only
  rw [List.takeWhile_append_of_pos hdigits, List.dropWhile_append_of_pos hdigits, htake, hdrop,
    List.append_nil, if_neg hne, decimalValue_decimal]

theorem stops_itemsText (items : List JsValue) (rest : JsString) :
    Stops (itemsText items ++ rest) := by
  cases items with
  | nil => exact stops_cons rfl
  | cons v items => exact stops_cons rfl

theorem stops_fieldsText (fields : List (JsString × JsValue)) (rest : JsString) :
    Stops (fieldsText fields ++ rest) := by
  cases fields with
  | nil => exact stops_cons rfl
  | cons field fields => exact stops_cons rfl

/-- The reader takes back the text of a value, given fuel for its length. -/
def ReadsBack (v : JsValue) : Prop :=
  ∀ fuel rest, (text v).length ≤ fuel → Stops rest →
    readValue fuel (text v ++ rest) = some (v, rest)

theorem readsBack_str (s : JsString) : ReadsBack (.str s) := by
  intro fuel rest hfuel hrest
  have htext : text (.str s) ++ rest = '"' :: (s.flatMap escape ++ '"' :: rest) := by
    simp [text, quoted]
  cases fuel with
  | zero => simp [text, quoted] at hfuel
  | succ fuel =>
      rw [htext, readValue, if_pos rfl, readString_quoted]
      rfl

theorem digit_ne {c d : Char} (hc : c.isDigit = true) (hd : d.isDigit = false) : c ≠ d := by
  rintro rfl
  rw [hc] at hd
  contradiction

theorem text_neg {z : ℤ} (hz : z < 0) : text (.num (.finite z)) = '-' :: decimal z.natAbs := by
  simp only [text, numberText, Rat.num_intCast]
  exact if_pos hz

theorem text_nonneg {z : ℤ} (hz : 0 ≤ z) : text (.num (.finite z)) = decimal z.natAbs := by
  simp only [text, numberText, Rat.num_intCast]
  exact if_neg (by omega)

theorem readsBack_num (z : ℤ) : ReadsBack (.num (.finite z)) := by
  intro fuel rest hfuel hrest
  have hne : decimal z.natAbs ≠ [] := Nat.toDigits_ne_nil
  obtain ⟨c, digits, hdecimal⟩ := List.exists_cons_of_ne_nil hne
  have hread := readNumber_decimal z.natAbs hrest
  rcases lt_or_ge z 0 with hneg | hnonneg
  · rw [text_neg hneg] at hfuel ⊢
    cases fuel with
    | zero => simp at hfuel
    | succ fuel =>
        rw [List.cons_append, readValue, if_neg (by decide), if_neg (by decide),
          if_neg (by decide), if_pos rfl, hread]
        have hz : -(z.natAbs : ℤ) = z := by omega
        simp only [hz, Option.map_some]
  · rw [text_nonneg hnonneg, hdecimal] at hfuel ⊢
    rw [hdecimal] at hread
    have hc : c.isDigit = true := isDigit_of_mem_decimal (n := z.natAbs) (by simp [hdecimal])
    cases fuel with
    | zero => simp at hfuel
    | succ fuel =>
        rw [List.cons_append] at hread ⊢
        rw [readValue, if_neg (digit_ne hc rfl), if_neg (digit_ne hc rfl),
          if_neg (digit_ne hc rfl), if_neg (digit_ne hc rfl), if_pos hc, hread]
        have hz : (z.natAbs : ℤ) = z := by omega
        simp only [hz, Option.map_some]

variable {v : JsValue} {items : List JsValue} {fields : List (JsString × JsValue)}

theorem readsBack_scalar (hv : IsScalar v) : ReadsBack v := by
  cases hv with
  | str s => exact readsBack_str s
  | num z => exact readsBack_num z
  | null =>
      intro fuel rest hfuel hrest
      cases fuel with
      | zero => simp [text] at hfuel
      | succ fuel => rfl
  | bool b =>
      intro fuel rest hfuel hrest
      cases fuel with
      | zero => cases b <;> simp [text] at hfuel
      | succ fuel => cases b <;> rfl

theorem readValue_bracket (fuel : Nat) (rest : JsString) : readValue fuel (']' :: rest) = none := by
  cases fuel with
  | zero => rfl
  | succ fuel => rfl

theorem readItems_itemsText (hitems : ∀ v ∈ items, ReadsBack v)
    (fuel : Nat) (rest : JsString) (hfuel : (itemsText items).length ≤ fuel) :
    readItems fuel (itemsText items ++ rest) = some (items, rest) := by
  induction items generalizing fuel with
  | nil =>
      cases fuel with
      | zero => simp [itemsText] at hfuel
      | succ fuel => rfl
  | cons v items ih =>
      cases fuel with
      | zero => simp [itemsText] at hfuel
      | succ fuel =>
          simp only [itemsText, List.cons_append, List.append_assoc, List.length_cons,
            List.length_append] at hfuel ⊢
          have hvalue := hitems v (by simp) fuel (itemsText items ++ rest) (by omega)
            (stops_itemsText items rest)
          have hrest := ih (fun w hw => hitems w (by simp [hw])) fuel (by omega)
          rw [readItems]
          simp [hvalue, hrest]

theorem readFields_fieldsText
    (hfields : ∀ v ∈ fields.map Prod.snd, ReadsBack v) (fuel : Nat) (rest : JsString)
    (hfuel : (fieldsText fields).length ≤ fuel) :
    readFields fuel (fieldsText fields ++ rest) = some (fields, rest) := by
  induction fields generalizing fuel with
  | nil =>
      cases fuel with
      | zero => simp [fieldsText] at hfuel
      | succ fuel => rfl
  | cons field fields ih =>
      obtain ⟨name, v⟩ := field
      cases fuel with
      | zero => simp [fieldsText] at hfuel
      | succ fuel =>
          simp only [fieldsText, List.cons_append, List.append_assoc, List.length_cons,
            List.length_append] at hfuel ⊢
          have hvalue := hfields v (by simp) fuel (fieldsText fields ++ rest) (by omega)
            (stops_fieldsText fields rest)
          have hrest := ih (fun w hw => hfields w (by simp [hw])) fuel (by omega)
          rw [readFields, readName_quoted]
          simp [hvalue, hrest]

theorem readsBack_arr (hitems : ∀ v ∈ items, ReadsBack v) : ReadsBack (.arr items) := by
  intro fuel rest hfuel hrest
  cases items with
  | nil =>
      cases fuel with
      | zero => simp [text] at hfuel
      | succ fuel => rfl
  | cons v items =>
      cases fuel with
      | zero => simp [text] at hfuel
      | succ fuel =>
          simp only [text, List.cons_append, List.append_assoc, List.length_cons,
            List.length_append] at hfuel ⊢
          have hvalue := hitems v (by simp) fuel (itemsText items ++ rest) (by omega)
            (stops_itemsText items rest)
          have htail : ∀ w ∈ items, ReadsBack w := fun w hw => hitems w (by simp [hw])
          have hread := readItems_itemsText htail fuel rest (by omega)
          have hclose : ¬startsWith (text v ++ (itemsText items ++ rest)) "]".toList = true := by
            rw [startsWith_iff]
            rintro ⟨tail, htail⟩
            rw [← htail] at hvalue
            exact absurd (readValue_bracket fuel tail ▸ hvalue) (by simp)
          rw [readValue, if_neg (by decide), if_pos rfl, if_neg hclose]
          simp [hvalue, hread]

theorem readsBack_obj
    (hfields : ∀ v ∈ fields.map Prod.snd, ReadsBack v) : ReadsBack (.obj fields) := by
  intro fuel rest hfuel hrest
  cases fields with
  | nil =>
      cases fuel with
      | zero => simp [text] at hfuel
      | succ fuel => rfl
  | cons field fields =>
      obtain ⟨name, v⟩ := field
      cases fuel with
      | zero => simp [text] at hfuel
      | succ fuel =>
          simp only [text, List.cons_append, List.append_assoc, List.length_cons,
            List.length_append] at hfuel ⊢
          have hvalue := hfields v (by simp) fuel (fieldsText fields ++ rest) (by omega)
            (stops_fieldsText fields rest)
          have htail : ∀ w ∈ fields.map Prod.snd, ReadsBack w := by
            intro w hw
            exact hfields w (List.mem_cons_of_mem v hw)
          have hread := readFields_fieldsText htail fuel rest (by omega)
          have hclose : ¬startsWith (quoted name ++ ':' :: (text v ++ (fieldsText fields ++ rest)))
              "\x7d".toList = true := by
            rw [startsWith_iff]
            rintro ⟨tail, htail⟩
            simp [quoted] at htail
          rw [readValue, if_neg (by decide), if_neg (by decide), if_pos rfl, if_neg hclose,
            readName_quoted]
          simp [hvalue, hread]

theorem readsBack_of_isJson (hv : IsJson v) : ReadsBack v := by
  induction hv with
  | scalar hv => exact readsBack_scalar hv
  | arr _ ih => exact readsBack_arr ih
  | obj _ _ _ ih => exact readsBack_obj ih

theorem parse_text (hv : IsJson v) : parse (text v) = some v := by
  have hread := readsBack_of_isJson hv ((text v).length + 1) [] (by omega) stops_nil
  rw [List.append_nil] at hread
  rw [parse, hread]

theorem printable_decimal (n : Nat) : Printable (decimal n) := by
  intro c hc
  have hdigit := isDigit_of_mem_decimal hc
  simp only [Char.isDigit, Bool.and_eq_true, decide_eq_true_eq] at hdigit
  have hlo : 48 ≤ c.toNat := hdigit.1
  omega

theorem printable_escape (c : Char) : Printable (escape c) := by
  have hdigit : ∀ d : Fin 32, 0x20 ≤ (hexDigit (d.val / 16)).toNat ∧
      0x20 ≤ (hexDigit (d.val % 16)).toNat := by decide
  unfold escape
  split
  · decide
  · split
    · decide
    · split
      · rename_i hcontrol
        obtain ⟨hhigh, hlow⟩ := hdigit ⟨c.toNat, hcontrol⟩
        exact Printable.append (by decide) (.cons hhigh (.cons hlow nofun))
      · rename_i hplain
        exact .cons (by omega) nofun

theorem printable_quoted (s : JsString) : Printable (quoted s) := by
  refine .append (.cons (by decide) ?_) (by decide)
  intro c hc
  obtain ⟨d, -, hd⟩ := List.mem_flatMap.mp hc
  exact printable_escape d c hd

theorem printable_number (z : ℤ) : Printable (text (.num (.finite z))) := by
  rcases lt_or_ge z 0 with hneg | hnonneg
  · rw [text_neg hneg]
    exact .cons (by decide) (printable_decimal _)
  · rw [text_nonneg hnonneg]
    exact printable_decimal _

theorem printable_scalar (hv : IsScalar v) : Printable (text v) := by
  cases hv with
  | null => exact (by decide : Printable "null".toList)
  | bool b => cases b <;> decide
  | num z => exact printable_number z
  | str s => exact printable_quoted s

theorem printable_itemsText (h : ∀ v ∈ items, Printable (text v)) :
    Printable (itemsText items) := by
  induction items with
  | nil => decide
  | cons v items ih =>
      rw [itemsText]
      exact .append (.cons (by decide) (h v (by simp))) (ih fun w hw => h w (by simp [hw]))

theorem printable_fieldsText
    (h : ∀ v ∈ fields.map Prod.snd, Printable (text v)) : Printable (fieldsText fields) := by
  induction fields with
  | nil => decide
  | cons field fields ih =>
      obtain ⟨name, v⟩ := field
      rw [fieldsText]
      refine .append (.append (.cons (by decide) (printable_quoted name)) ?_) ?_
      · exact .cons (by decide) (h v (by simp))
      · exact ih fun w hw => h w (List.mem_cons_of_mem v hw)

theorem printable_text (hv : IsJson v) : Printable (text v) := by
  induction hv with
  | scalar hv => exact printable_scalar hv
  | @arr items _ ih =>
      cases items with
      | nil => decide
      | cons v items =>
          rw [text]
          exact .append (.cons (by decide) (ih v (by simp)))
            (printable_itemsText fun w hw => ih w (by simp [hw]))
  | @obj fields _ _ _ ih =>
      cases fields with
      | nil => decide
      | cons field fields =>
          obtain ⟨name, v⟩ := field
          rw [text]
          refine .append (.append (.cons (by decide) (printable_quoted name)) ?_) ?_
          · exact .cons (by decide) (ih v (by simp))
          · exact printable_fieldsText fun w hw => ih w (List.mem_cons_of_mem v hw)

theorem text_ne_nil (hv : IsJson v) : text v ≠ [] := by
  intro hnil
  have hread := parse_text hv
  rw [hnil] at hread
  change none = some v at hread
  contradiction

end NightWatch.Lib.Json
