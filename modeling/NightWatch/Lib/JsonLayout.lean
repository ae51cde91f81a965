import NightWatch.Lib.Json

/-!
JSON texts laid out over lines, as `JSON.stringify(value, null, 2)` writes them. Blank
space outside string literals means nothing, so the compact reader reads them too.
-/

namespace NightWatch.Lib.JsonLayout

open Lib.JsText Lib.JsData Lib.Json

/-- Data whose numbers are whole. -/
inductive IsData : JsValue → Prop
  | null : IsData .null
  | bool (b : Bool) : IsData (.bool b)
  | num (z : ℤ) : IsData (.num (.finite z))
  | str (s : JsString) : IsData (.str s)
  | arr {items : List JsValue} (hitems : ∀ v ∈ items, IsData v) : IsData (.arr items)
  | obj {fields : List (JsString × JsValue)} (hvalues : ∀ v ∈ fields.map Prod.snd, IsData v) :
      IsData (.obj fields)

variable {v : JsValue} {c : Char} {items : List JsValue} {fields : List (JsString × JsValue)}

theorem readsBack_of_isData (hv : IsData v) : ReadsBack v := by
  induction hv with
  | null => exact readsBack_scalar .null
  | bool b => exact readsBack_scalar (.bool b)
  | num z => exact readsBack_num z
  | str s => exact readsBack_str s
  | arr _ ih => exact readsBack_arr ih
  | obj _ ih => exact readsBack_obj ih

def blank (c : Char) : Bool := c = ' ' || c = '\n' || c = '\r' || c = '\t'

/-- A text without the blanks outside its string literals; the flag says whether it
starts within one. -/
def withoutBlanks : Bool → JsString → JsString
  | _, [] => []
  | false, c :: rest =>
      if blank c then withoutBlanks false rest
      else if c = '"' then c :: withoutBlanks true rest
      else c :: withoutBlanks false rest
  | true, '\\' :: c :: rest => '\\' :: c :: withoutBlanks true rest
  | true, c :: rest =>
      if c = '"' then c :: withoutBlanks false rest else c :: withoutBlanks true rest

/-- `JSON.parse(s)` on texts of either writer. -/
def parseLaidOut (s : JsString) : Option JsValue := parse (withoutBlanks false s)

def lineBreak (indent : Nat) : JsString := '\n' :: List.replicate (2 * indent) ' '

mutual

def laidOut (indent : Nat) : JsValue → JsString
  | .arr (v :: rest) =>
      '[' :: lineBreak (indent + 1) ++ laidOut (indent + 1) v ++ laidOutItems indent rest
  | .obj ((name, v) :: rest) =>
      '\x7b' :: lineBreak (indent + 1) ++ quoted name ++ ": ".toList ++ laidOut (indent + 1) v ++
        laidOutFields indent rest
  | v => text v

def laidOutItems (indent : Nat) : List JsValue → JsString
  | [] => lineBreak indent ++ [']']
  | v :: rest => ',' :: lineBreak (indent + 1) ++ laidOut (indent + 1) v ++ laidOutItems indent rest

def laidOutFields (indent : Nat) : List (JsString × JsValue) → JsString
  | [] => lineBreak indent ++ ['\x7d']
  | (name, v) :: rest =>
      ',' :: lineBreak (indent + 1) ++ quoted name ++ ": ".toList ++ laidOut (indent + 1) v ++
        laidOutFields indent rest

end

/-- `JSON.stringify(value, null, 2)`. -/
def stringifyLines (v : JsValue) : JsString := laidOut 0 v

-- The equations of the layout, made here once for all the proofs below.
section

attribute [local simp] withoutBlanks laidOut laidOutItems laidOutFields

end

theorem withoutBlanks_lineBreak (indent : Nat) (rest : JsString) :
    withoutBlanks false (lineBreak indent ++ rest) = withoutBlanks false rest := by
  have hspaces : ∀ n, withoutBlanks false (List.replicate n ' ' ++ rest) =
      withoutBlanks false rest := by
    intro n
    induction n with
    | zero => rfl
    | succ n ih =>
        rw [List.replicate_succ, List.cons_append, withoutBlanks, if_pos (by decide), ih]
  rw [lineBreak, List.cons_append, withoutBlanks, if_pos (by decide), hspaces]

theorem withoutBlanks_cons (hblank : blank c = false) (hquote : c ≠ '"')
    (rest : JsString) : withoutBlanks false (c :: rest) = c :: withoutBlanks false rest := by
  rw [withoutBlanks, if_neg (by simp [hblank]), if_neg hquote]

theorem withoutBlanks_colon (rest : JsString) :
    withoutBlanks false (": ".toList ++ rest) = ':' :: withoutBlanks false rest := by
  show withoutBlanks false (':' :: ' ' :: rest) = _
  rw [withoutBlanks_cons (by decide) (by decide), withoutBlanks, if_pos (by decide)]

theorem withoutBlanks_append {s : JsString} (hs : ∀ c ∈ s, blank c = false ∧ c ≠ '"')
    (rest : JsString) : withoutBlanks false (s ++ rest) = s ++ withoutBlanks false rest := by
  induction s with
  | nil => rfl
  | cons c s ih =>
      obtain ⟨hblank, hquote⟩ := hs c (by simp)
      rw [List.cons_append, withoutBlanks_cons hblank hquote, ih fun d hd => hs d (by simp [hd])]
      rfl

theorem withoutBlanks_escape (c : Char) (rest : JsString) :
    withoutBlanks true (escape c ++ rest) = escape c ++ withoutBlanks true rest := by
  rw [escape]
  by_cases hquote : c = '"'
  · rw [if_pos hquote]
    rfl
  · rw [if_neg hquote]
    by_cases hslash : c = '\\'
    · rw [if_pos hslash]
      rfl
    · rw [if_neg hslash]
      by_cases hcontrol : c.toNat < 0x20
      · have hhigh : hexDigit (c.toNat / 16) ≠ '"' ∧ hexDigit (c.toNat / 16) ≠ '\\' := by
          have : c.toNat / 16 < 2 := by omega
          generalize c.toNat / 16 = n at this
          interval_cases n <;> decide
        have hlow : hexDigit (c.toNat % 16) ≠ '"' ∧ hexDigit (c.toNat % 16) ≠ '\\' := by
          have : c.toNat % 16 < 16 := by omega
          generalize c.toNat % 16 = n at this
          interval_cases n <;> decide
        rw [if_pos hcontrol]
        show withoutBlanks true ('\\' :: 'u' :: '0' :: '0' :: hexDigit (c.toNat / 16) ::
          hexDigit (c.toNat % 16) :: rest) = _
        simp [withoutBlanks, hhigh, hlow]
      · rw [if_neg hcontrol]
        show withoutBlanks true (c :: rest) = _
        simp [withoutBlanks, hquote, hslash]

theorem withoutBlanks_quoted (s rest : JsString) :
    withoutBlanks false (quoted s ++ rest) = quoted s ++ withoutBlanks false rest := by
  have hbody : ∀ s : JsString, withoutBlanks true (s.flatMap escape ++ ('"' :: rest)) =
      s.flatMap escape ++ ('"' :: withoutBlanks false rest) := by
    intro s
    induction s with
    | nil => simp [withoutBlanks]
    | cons c s ih =>
        rw [List.flatMap_cons, List.append_assoc, withoutBlanks_escape, ih, List.append_assoc]
  rw [quoted]
  show withoutBlanks false ('"' :: (s.flatMap escape ++ ['"'] ++ rest)) = _
  rw [withoutBlanks, if_neg (by decide), if_pos rfl, List.append_assoc, List.singleton_append,
    hbody]
  simp

/-- Taking out the blanks leaves the compact text of a value. -/
def LaysOut (v : JsValue) : Prop :=
  ∀ indent rest, withoutBlanks false (laidOut indent v ++ rest) = text v ++ withoutBlanks false rest

theorem laysOut_items (hitems : ∀ v ∈ items, LaysOut v) (indent : Nat)
    (rest : JsString) : withoutBlanks false (laidOutItems indent items ++ rest) =
      itemsText items ++ withoutBlanks false rest := by
  induction items with
  | nil =>
      rw [laidOutItems, List.append_assoc, withoutBlanks_lineBreak, List.singleton_append,
        withoutBlanks_cons (by decide) (by decide)]
      rfl
  | cons v items ih =>
      simp only [laidOutItems, itemsText, List.cons_append, List.append_assoc]
      rw [withoutBlanks_cons (by decide) (by decide), withoutBlanks_lineBreak,
        hitems v (by simp), ih fun w hw => hitems w (by simp [hw])]

theorem laysOut_fields
    (hfields : ∀ v ∈ fields.map Prod.snd, LaysOut v) (indent : Nat) (rest : JsString) :
    withoutBlanks false (laidOutFields indent fields ++ rest) =
      fieldsText fields ++ withoutBlanks false rest := by
  induction fields with
  | nil =>
      rw [laidOutFields, List.append_assoc, withoutBlanks_lineBreak, List.singleton_append,
        withoutBlanks_cons (by decide) (by decide)]
      rfl
  | cons field fields ih =>
      obtain ⟨name, v⟩ := field
      have hrest : ∀ w ∈ fields.map Prod.snd, LaysOut w := by
        intro w hw
        exact hfields w (List.mem_cons_of_mem v hw)
      simp only [laidOutFields, fieldsText, List.cons_append, List.append_assoc]
      rw [withoutBlanks_cons (by decide) (by decide), withoutBlanks_lineBreak,
        withoutBlanks_quoted, withoutBlanks_colon, hfields v (by simp), ih hrest]

theorem laysOut_arr (hitems : ∀ v ∈ items, LaysOut v) : LaysOut (.arr items) := by
  intro indent rest
  cases items with
  | nil =>
      exact withoutBlanks_append (s := "[]".toList) (by decide) rest
  | cons v items =>
      simp only [laidOut, text, List.cons_append, List.append_assoc]
      rw [withoutBlanks_cons (by decide) (by decide), withoutBlanks_lineBreak,
        hitems v (by simp), laysOut_items fun w hw => hitems w (by simp [hw])]

theorem laysOut_obj (hfields : ∀ v ∈ fields.map Prod.snd, LaysOut v) : LaysOut (.obj fields) := by
  intro indent rest
  cases fields with
  | nil =>
      exact withoutBlanks_append (s := "\x7b\x7d".toList) (by decide) rest
  | cons field fields =>
      obtain ⟨name, v⟩ := field
      have hrest : ∀ w ∈ fields.map Prod.snd, LaysOut w := by
        intro w hw
        exact hfields w (List.mem_cons_of_mem v hw)
      simp only [laidOut, text, List.cons_append, List.append_assoc]
      rw [withoutBlanks_cons (by decide) (by decide), withoutBlanks_lineBreak,
        withoutBlanks_quoted, withoutBlanks_colon, hfields v (by simp), laysOut_fields hrest]

theorem blank_decimal {n : Nat} (hc : c ∈ decimal n) : blank c = false ∧ c ≠ '"' := by
  have hdigit := isDigit_of_mem_decimal hc
  have hne : ∀ d : Char, d.isDigit = false → c ≠ d := by
    rintro d hd rfl
    rw [hd] at hdigit
    cases hdigit
  refine ⟨?_, hne '"' (by decide)⟩
  simp [blank, hne ' ' (by decide), hne '\n' (by decide), hne '\r' (by decide),
    hne '\t' (by decide)]

theorem laysOut_num (z : ℤ) : LaysOut (.num (.finite z)) := by
  intro indent rest
  refine withoutBlanks_append (s := text (.num (.finite z))) ?_ rest
  intro c hc
  rcases lt_or_ge z 0 with hz | hz
  · rw [text_neg hz] at hc
    rcases List.mem_cons.mp hc with rfl | hc
    · decide
    · exact blank_decimal hc
  · rw [text_nonneg hz] at hc
    exact blank_decimal hc

theorem laysOut_of_isData (hv : IsData v) : LaysOut v := by
  induction hv with
  | null => exact fun _ rest => withoutBlanks_append (s := "null".toList) (by decide) rest
  | bool b =>
      rcases b with _ | _
      · exact fun _ rest => withoutBlanks_append (s := "false".toList) (by decide) rest
      · exact fun _ rest => withoutBlanks_append (s := "true".toList) (by decide) rest
  | num z => exact laysOut_num z
  | str s => exact fun _ rest => withoutBlanks_quoted s rest
  | arr _ ih => exact laysOut_arr ih
  | obj _ ih => exact laysOut_obj ih

theorem parseLaidOut_stringifyLines (hv : IsData v) :
    parseLaidOut (stringifyLines v ++ ['\n']) = some v := by
  have hstrip := laysOut_of_isData hv 0 ['\n']
  have hnone : withoutBlanks false ['\n'] = [] := by
    rw [withoutBlanks, if_pos (by decide), withoutBlanks]
  rw [hnone, List.append_nil] at hstrip
  have hread := readsBack_of_isData hv ((text v).length + 1) [] (by omega) stops_nil
  rw [List.append_nil] at hread
  rw [parseLaidOut, stringifyLines, hstrip, parse, hread]

end NightWatch.Lib.JsonLayout
