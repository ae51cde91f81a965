import NightWatch.Lib.Framed
import NightWatch.Lib.Grouping
import NightWatch.Lib.JsRuntime
import NightWatch.Lib.Slots

/-!
Texts of plain data with the fields of every object in an order of their names, and what
such a text says of the data: everything but the order the fields had.
-/

namespace NightWatch.Lib.CanonicalText

open Lib.JsText Lib.JsData
open Lib.JsData.JsValue (field)

open Lib.Json (quoted)
open Lib.Framed Lib.Slots

/-- Equality of data: neither the order of fields nor a field without a value means
anything. -/
inductive Same : JsValue → JsValue → Prop
  | undefined : Same .undefined .undefined
  | null : Same .null .null
  | bool (b : Bool) : Same (.bool b) (.bool b)
  | num (n : JsNumber) : Same (.num n) (.num n)
  | str (s : JsString) : Same (.str s) (.str s)
  | arr {items items' : List JsValue} (hlength : items.length = items'.length)
      (hitems : ∀ i (h : i < items.length) (h' : i < items'.length), Same items[i] items'[i]) :
      Same (.arr items) (.arr items')
  | obj {fields fields' : List (JsString × JsValue)}
      (hfields : ∀ name, Same (field fields name) (field fields' name)) :
      Same (.obj fields) (.obj fields')

variable {v w : JsValue}

theorem Same.symm (h : Same v w) : Same w v := by
  induction h with
  | undefined => exact .undefined
  | null => exact .null
  | bool b => exact .bool b
  | num n => exact .num n
  | str s => exact .str s
  | arr hlength _ ih => exact .arr hlength.symm fun i h h' => ih i h' h
  | obj _ ih => exact .obj ih

theorem Same.trans {u : JsValue} (h : Same u v) (h' : Same v w) : Same u w := by
  induction h generalizing w with
  | arr hlength _ ih =>
      cases h' with
      | arr hlength' hitems' =>
          refine .arr (hlength.trans hlength') fun i hi hi' => ?_
          exact ih i hi (by omega) (hitems' i (by omega) hi')
  | obj _ ih =>
      cases h' with
      | obj hfields' => exact .obj fun name => ih name (hfields' name)
  | _ => exact h'

theorem same_undefined (h : Same .undefined v) : v = .undefined := by
  cases h
  rfl

theorem same_arr_of_forall₂ {items items' : List JsValue} (h : List.Forall₂ Same items items') :
    Same (.arr items) (.arr items') := by
  refine .arr h.length_eq fun i hi hi' => ?_
  exact List.forall₂_iff_get.mp h |>.2 i hi hi'

mutual

theorem same_refl : ∀ v : JsValue, Same v v
  | .undefined => .undefined
  | .null => .null
  | .bool b => .bool b
  | .num n => .num n
  | .str s => .str s
  | .arr items => same_arr_of_forall₂ (same_items items)
  | .obj fields => .obj (same_fields fields)

theorem same_items : ∀ items : List JsValue, List.Forall₂ Same items items
  | [] => .nil
  | item :: rest => .cons (same_refl item) (same_items rest)

theorem same_fields : ∀ (fields : List (JsString × JsValue)) (name : JsString),
    Same (field fields name) (field fields name)
  | [], _ => .undefined
  | (key, v) :: rest, name => by
      have hv := same_refl v
      have hrest := same_fields rest name
      simp only [field, List.lookup_cons] at hrest ⊢
      split
      · exact hv
      · exact hrest

end

theorem same_str {s t : JsString} (h : Same (.str s) (.str t)) : s = t := by
  cases h
  rfl

theorem same_num {m n : JsNumber} (h : Same (.num m) (.num n)) : m = n := by
  cases h
  rfl

theorem same_optional {s t : Option JsString}
    (h : Same ((s.map JsValue.str).getD .undefined) ((t.map JsValue.str).getD .undefined)) :
    s = t := by
  cases s with
  | none =>
      cases t with
      | none => rfl
      | some t => cases h
  | some s =>
      cases t with
      | none => cases h
      | some t => rw [same_str h]

theorem same_map {α : Type} {f : α → JsValue} (hf : ∀ x y, Same (f x) (f y) → x = y)
    {xs ys : List α} (h : Same (.arr (xs.map f)) (.arr (ys.map f))) : xs = ys := by
  cases h with
  | arr hlength hitems =>
      rw [List.length_map, List.length_map] at hlength
      refine List.ext_getElem hlength fun i hx hy => hf _ _ ?_
      have hsame := hitems i (by simpa using hx) (by simpa using hy)
      rwa [List.getElem_map, List.getElem_map] at hsame

theorem forall₂_of_same {slots slots' : List (String × Option JsValue)}
    (hnames : slots.map Prod.fst = slots'.map Prod.fst) (hnodup : (slots.map Prod.fst).Nodup)
    (h : Same (.obj (ofSlots slots)) (.obj (ofSlots slots'))) :
    List.Forall₂ (fun a b => Same (a.2.getD .undefined) (b.2.getD .undefined)) slots slots' := by
  cases h with
  | obj hfields =>
      have hlength : slots.length = slots'.length := by simpa using congrArg List.length hnames
      refine List.forall₂_iff_get.mpr ⟨hlength, fun i hi hi' => ?_⟩
      have hname : slots[i].1 = slots'[i].1 := by
        have hget : (slots.map Prod.fst)[i]? = (slots'.map Prod.fst)[i]? := by rw [hnames]
        simpa [hi, hi'] using hget
      have hleft : field (ofSlots slots) slots[i].1.toList = slots[i].2.getD .undefined :=
        field_ofSlots hnodup (List.getElem_mem hi)
      have hright : field (ofSlots slots') slots'[i].1.toList = slots'[i].2.getD .undefined :=
        field_ofSlots (hnames ▸ hnodup) (List.getElem_mem hi')
      have hsame := hfields slots[i].1.toList
      rw [hleft, hname, hright] at hsame
      exact hsame

/-- Data without missing values whose numbers are counts. -/
inductive Plain : JsValue → Prop
  | null : Plain .null
  | bool (b : Bool) : Plain (.bool b)
  | num (n : ℕ) : Plain (.num (.ofNat n))
  | str (s : JsString) : Plain (.str s)
  | arr {items : List JsValue} (hitems : ∀ v ∈ items, Plain v) : Plain (.arr items)
  | obj {fields : List (JsString × JsValue)} (hnodup : (fields.map Prod.fst).Nodup)
      (hvalues : ∀ entry ∈ fields, Plain entry.2) : Plain (.obj fields)

theorem Plain.isUndefined (h : Plain v) : v.isUndefined = false := by
  cases h <;> rfl

section Writer

variable (numberText : JsNumber → JsString) (nameLe : JsString → JsString → Bool)

def entryText (entry : JsString × JsString) : JsString := quoted entry.1 ++ ':' :: entry.2

mutual

def canonical : JsValue → JsString
  | .undefined => quoted "undefined".toList
  | .null => "null".toList
  | .bool b => if b then "true".toList else "false".toList
  | .num n => if n.isFinite then numberText n else "null".toList
  | .str s => quoted s
  | .arr items => '[' :: join ',' (itemTexts items) ++ [']']
  | .obj fields =>
      '\x7b' :: join ',' (((entryTexts fields).mergeSort fun a b => nameLe a.1 b.1).map entryText) ++
        ['\x7d']

def itemTexts : List JsValue → List JsString
  | [] => []
  | item :: rest => canonical item :: itemTexts rest

def entryTexts : List (JsString × JsValue) → List (JsString × JsString)
  | [] => []
  | (name, value) :: rest =>
      if value.isUndefined then entryTexts rest
      else (name, canonical value) :: entryTexts rest

end

theorem itemTexts_eq (items : List JsValue) :
    itemTexts numberText nameLe items = items.map (canonical numberText nameLe) := by
  induction items with
  | nil => rw [itemTexts, List.map_nil]
  | cons item rest ih => rw [itemTexts, ih, List.map_cons]

def arranged (fields : List (JsString × JsValue)) : List (JsString × JsValue) :=
  fields.mergeSort fun a b => nameLe a.1 b.1

def fieldText (entry : JsString × JsValue) : JsString :=
  quoted entry.1 ++ ':' :: canonical numberText nameLe entry.2

variable {fields : List (JsString × JsValue)}

theorem canonical_obj (h : ∀ entry ∈ fields, Plain entry.2) :
    canonical numberText nameLe (.obj fields) =
      '\x7b' :: join ',' ((arranged nameLe fields).map (fieldText numberText nameLe)) ++
        ['\x7d'] := by
  have hentries : entryTexts numberText nameLe fields =
      fields.map fun entry => (entry.1, canonical numberText nameLe entry.2) := by
    induction fields with
    | nil => rw [entryTexts, List.map_nil]
    | cons entry rest ih =>
        have hdefined := (h entry List.mem_cons_self).isUndefined
        rw [entryTexts, hdefined, if_neg Bool.false_ne_true, List.map_cons,
          ih fun other hother => h other (List.mem_cons_of_mem entry hother)]
  have hsorted := List.map_mergeSort (l := fields) (r := fun a b => nameLe a.1 b.1)
    (s := fun a b => nameLe a.1 b.1)
    (f := fun entry => (entry.1, canonical numberText nameLe entry.2)) fun _ _ _ _ => rfl
  rw [canonical, hentries, ← hsorted, List.map_map]
  rfl

theorem field_arranged (h : (fields.map Prod.fst).Nodup)
    (name : JsString) : field (arranged nameLe fields) name = field fields name := by
  have hperm : (arranged nameLe fields).Perm fields := List.mergeSort_perm _ _
  have hnodup : ((arranged nameLe fields).map Prod.fst).Nodup :=
    (hperm.map Prod.fst).nodup_iff.mpr h
  have hlookup : (arranged nameLe fields).lookup name = fields.lookup name := by
    apply Option.ext
    intro value
    rw [← Grouping.mem_iff_lookup hnodup, ← Grouping.mem_iff_lookup h]
    exact hperm.mem_iff
  rw [field, field, hlookup]

end Writer

section Reading

def isNumberChar (c : Char) : Bool := c.isDigit || c ∈ ['.', 'e', '+', '-']

/-- A writer of counts: it starts with a digit and writes no two of them alike. -/
structure WritesCounts (numberText : JsNumber → JsString) : Prop where
  chars : ∀ n : ℕ, ∀ c ∈ numberText (.ofNat n), isNumberChar c = true
  starts : ∀ n : ℕ, ∃ c ∈ (numberText (.ofNat n)).head?, c.isDigit = true
  injective : ∀ m n : ℕ, numberText (.ofNat m) = numberText (.ofNat n) → m = n

variable {numberText : JsNumber → JsString} {nameLe : JsString → JsString → Bool}

def kindOf (c : Char) : Option Nat :=
  if c = 'n' then some 0 else if c = 't' then some 1 else if c = 'f' then some 2
  else if c.isDigit then some 3 else if c = '"' then some 4 else if c = '[' then some 5
  else if c = '\x7b' then some 6 else none

def kind : JsValue → Option Nat
  | .undefined => some 4
  | .null => some 0
  | .bool b => if b then some 1 else some 2
  | .num _ => some 3
  | .str _ => some 4
  | .arr _ => some 5
  | .obj _ => some 6

variable {c : Char}

theorem kindOf_isDigit (h : c.isDigit = true) : kindOf c = some 3 := by
  have hne : ∀ d : Char, d.isDigit = false → c ≠ d := by
    rintro d hd rfl
    rw [h] at hd
    contradiction
  rw [kindOf, if_neg (hne 'n' rfl), if_neg (hne 't' rfl), if_neg (hne 'f' rfl), if_pos h]

theorem isEnd_of_kindOf (h : (kindOf c).isSome = true) : isEnd c = false :=
  isEnd_eq_false (p := fun c => (kindOf c).isSome) (by decide) h

variable (nameLe) in
theorem canonical_starts (hnumbers : WritesCounts numberText) {v : JsValue} (hv : Plain v) :
    ∃ c t, canonical numberText nameLe v = c :: t ∧ kindOf c = kind v := by
  cases hv with
  | null => exact ⟨'n', _, by rw [canonical]; rfl, rfl⟩
  | bool b =>
      cases b with
      | false => exact ⟨'f', _, by rw [canonical]; rfl, rfl⟩
      | true => exact ⟨'t', _, by rw [canonical]; rfl, rfl⟩
  | num n =>
      obtain ⟨c, hc, hdigit⟩ := hnumbers.starts n
      obtain ⟨t, ht⟩ := List.head?_eq_some_iff.mp (Option.mem_def.mp hc)
      refine ⟨c, t, ?_, kindOf_isDigit hdigit⟩
      rw [canonical, ← ht]
      rfl
  | str s => exact ⟨'"', _, by rw [canonical]; rfl, rfl⟩
  | arr _ => exact ⟨'[', _, by rw [canonical]; rfl, rfl⟩
  | obj _ _ => exact ⟨'\x7b', _, by rw [canonical]; rfl, rfl⟩

theorem opens_canonical (hnumbers : WritesCounts numberText) {v : JsValue} (hv : Plain v) :
    Opens (canonical numberText nameLe v) := by
  obtain ⟨c, t, htext, hkind⟩ := canonical_starts nameLe hnumbers hv
  refine ⟨c, t, htext, isEnd_of_kindOf ?_⟩
  rw [hkind]
  cases hv with
  | bool b => cases b <;> rfl
  | _ => rfl

theorem kind_eq (hnumbers : WritesCounts numberText) {v w : JsValue} (hv : Plain v)
    (hw : Plain w) {r r' : JsString}
    (h : canonical numberText nameLe v ++ r = canonical numberText nameLe w ++ r') :
    kind v = kind w := by
  obtain ⟨c, t, hc, hkind⟩ := canonical_starts nameLe hnumbers hv
  obtain ⟨d, t', hd, hkind'⟩ := canonical_starts nameLe hnumbers hw
  rw [hc, hd] at h
  rw [← hkind, ← hkind', (List.cons.inj h).1]

theorem isNumberChar_of_isEnd (h : isEnd c = true) : isNumberChar c = false :=
  eq_false_of_isEnd (by decide) h

theorem canonical_num (n : ℕ) :
    canonical numberText nameLe (.num (.ofNat n)) = numberText (.ofNat n) := by
  rw [canonical]
  rfl

theorem reads_field {name : JsString} {v : JsValue}
    (h : Reads (canonical numberText nameLe) Same Plain v) :
    Reads (fieldText numberText nameLe) (fun a b => a.1 = b.1 ∧ Same a.2 b.2)
      (fun entry => Plain entry.2) (name, v) := by
  rintro ⟨name', w⟩ r r' hw hr hr' htext
  simp only [fieldText, List.append_assoc, List.cons_append] at htext
  obtain ⟨hname, hrest⟩ := quoted_inj htext
  obtain ⟨hsame, hend⟩ := h w r r' hw hr hr' (List.cons.inj hrest).2
  exact ⟨⟨hname, hsame⟩, hend⟩

theorem opens_fieldText (entry : JsString × JsValue) :
    Opens (fieldText numberText nameLe entry) := ⟨'"', _, rfl, rfl⟩

theorem field_of_forall₂ {R : JsValue → JsValue → Prop} (hnone : R .undefined .undefined)
    {fields fields' : List (JsString × JsValue)}
    (h : List.Forall₂ (fun a b => a.1 = b.1 ∧ R a.2 b.2) fields fields') (name : JsString) :
    R (field fields name) (field fields' name) := by
  induction h with
  | nil => exact hnone
  | @cons entry entry' _ _ hentry _ ih =>
      obtain ⟨key, v⟩ := entry
      obtain ⟨key', w⟩ := entry'
      obtain ⟨rfl, hvalue⟩ : key = key' ∧ R v w := hentry
      simp only [field, List.lookup_cons] at ih ⊢
      split
      · exact hvalue
      · exact ih

theorem reads_canonical (hnumbers : WritesCounts numberText) {v : JsValue} (hv : Plain v) :
    Reads (canonical numberText nameLe) Same Plain v := by
  induction hv with
  | null =>
      intro w r r' hw hr hr' h
      have hkind := kind_eq hnumbers .null hw h
      cases hw with
      | null => exact ⟨.null, List.append_cancel_left h⟩
      | bool b => cases b <;> simp [kind] at hkind
      | _ => simp [kind] at hkind
  | bool b =>
      intro w r r' hw hr hr' h
      have hkind := kind_eq hnumbers (.bool b) hw h
      cases hw with
      | bool b' =>
          obtain rfl : b = b' := by cases b <;> cases b' <;> simp [kind] at hkind ⊢
          exact ⟨.bool b, List.append_cancel_left h⟩
      | _ => cases b <;> simp [kind] at hkind
  | num n =>
      intro w r r' hw hr hr' h
      have hkind := kind_eq hnumbers (.num n) hw h
      cases hw with
      | num m =>
          rw [canonical_num, canonical_num] at h
          obtain ⟨htext, hrest⟩ := word_inj (fun c => isNumberChar_of_isEnd) (hnumbers.chars n)
            (hnumbers.chars m) hr hr' h
          rw [hnumbers.injective n m htext]
          exact ⟨.num _, hrest⟩
      | bool b => cases b <;> simp [kind] at hkind
      | _ => simp [kind] at hkind
  | str s =>
      intro w r r' hw hr hr' h
      have hkind := kind_eq hnumbers (.str s) hw h
      cases hw with
      | str t =>
          rw [canonical, canonical] at h
          obtain ⟨rfl, hrest⟩ := quoted_inj h
          exact ⟨.str s, hrest⟩
      | bool b => cases b <;> simp [kind] at hkind
      | _ => simp [kind] at hkind
  | @arr items hitems ih =>
      intro w r r' hw hr hr' h
      have hkind := kind_eq hnumbers (.arr hitems) hw h
      cases hw with
      | @arr items' hitems' =>
          rw [canonical, canonical, itemTexts_eq, itemTexts_eq] at h
          simp only [List.cons_append, List.append_assoc, List.cons.injEq, true_and] at h
          obtain ⟨hall, hrest⟩ := join_inj (c := ']') rfl (by decide) ih
            (fun x hx => opens_canonical hnumbers (hitems x hx)) hitems'
            (fun x hx => opens_canonical hnumbers (hitems' x hx)) h
          exact ⟨same_arr_of_forall₂ hall, hrest⟩
      | bool b => cases b <;> simp [kind] at hkind
      | _ => simp [kind] at hkind
  | @obj fields hnodup hvalues ih =>
      intro w r r' hw hr hr' h
      have hkind := kind_eq hnumbers (.obj hnodup hvalues) hw h
      cases hw with
      | @obj fields' hnodup' hvalues' =>
          have hmem : ∀ {fields : List (JsString × JsValue)} {entry : JsString × JsValue},
              entry ∈ arranged nameLe fields → entry ∈ fields :=
            fun hentry => (List.mergeSort_perm _ _).mem_iff.mp hentry
          rw [canonical_obj _ _ hvalues, canonical_obj _ _ hvalues'] at h
          simp only [List.cons_append, List.append_assoc, List.cons.injEq, true_and] at h
          obtain ⟨hall, hrest⟩ := join_inj (c := '\x7d') rfl (by decide)
            (fun entry hentry => reads_field (ih entry (hmem hentry)))
            (fun entry _ => opens_fieldText entry)
            (fun entry hentry => hvalues' entry (hmem hentry))
            (fun entry _ => opens_fieldText entry) h
          refine ⟨.obj fun name => ?_, hrest⟩
          rw [← field_arranged nameLe hnodup, ← field_arranged nameLe hnodup']
          exact field_of_forall₂ .undefined hall name
      | bool b => cases b <;> simp [kind] at hkind
      | _ => simp [kind] at hkind

theorem same_of_canonical (hnumbers : WritesCounts numberText) {v w : JsValue} (hv : Plain v)
    (hw : Plain w) (h : canonical numberText nameLe v = canonical numberText nameLe w) :
    Same v w := by
  have happend : canonical numberText nameLe v ++ [] = canonical numberText nameLe w ++ [] := by
    rw [h]
  exact (reads_canonical hnumbers hv w [] [] hw ends_nil ends_nil happend).1

end Reading

section Hosts

open Lib.JsRuntime

theorem numberText_plain (n : ℕ) : plainRuntime.numberText (.ofNat n) = decimal n := by
  have hnot : ¬ (n : ℚ) < 0 := not_lt.mpr n.cast_nonneg
  change (if (n : ℚ) < 0 then '-' :: decimal (n : ℚ).num.natAbs else decimal (n : ℚ).num.natAbs) = _
  rw [if_neg hnot, Rat.num_natCast, Int.natAbs_natCast]

theorem writesCounts_plain : WritesCounts plainRuntime.numberText where
  chars n c hc := by
    rw [numberText_plain] at hc
    simp [isNumberChar, isDigit_of_mem_decimal hc]
  starts n := by
    have hne : decimal n ≠ [] := Nat.toDigits_ne_nil
    obtain ⟨c, digits, hdecimal⟩ := List.exists_cons_of_ne_nil hne
    have hmem : c ∈ decimal n := by simp [hdecimal]
    exact ⟨c, by simp [numberText_plain, hdecimal], isDigit_of_mem_decimal hmem⟩
  injective m n h := by
    rw [numberText_plain, numberText_plain] at h
    exact decimal_injective h

end Hosts

end NightWatch.Lib.CanonicalText
