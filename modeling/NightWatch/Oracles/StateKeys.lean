import NightWatch.Lib.Reordering
import NightWatch.Oracles.ProjectionTexts

namespace NightWatch.Oracles.StateKeys

open Lib.JsText Lib.JsData
open Lib.JsData.JsValue (field)
open Lib.Framed Lib.Grouping Lib.TextOrder Lib.Reordering Oracles.Projections Oracles.Invariants
open Oracles.Semantic (typeName typeName_injective)
open Oracles.ProjectionTexts (booleanText_injective names_byName)
open Oracles.ShownValues

def readEscape : JsString → Option Char
  | '\\' :: c :: rest =>
      if c = '"' then some '"'
      else if c = '\\' then some '\\'
      else if c = 'n' then some '\n'
      else if c = 'r' then some '\r'
      else if c = 't' then some '\t'
      else if c = 'b' then some (Char.ofNat 8)
      else if c = 'f' then some (Char.ofNat 12)
      else
        match rest with
        | '0' :: '0' :: high :: low :: _ =>
            (hexValue high).bind fun high => (hexValue low).map fun low =>
              Char.ofNat (16 * high + low)
        | _ => none
  | c :: _ => some c
  | [] => none

theorem readEscape_jsonEscape (c : Char) (rest : JsString) :
    readEscape (jsonEscape c ++ rest) = some c := by
  have hofNat : ∀ n, c.toNat = n → c = Char.ofNat n := by
    rintro n rfl
    exact (Char.ofNat_toNat c).symm
  unfold jsonEscape
  split_ifs with hquote hback hline hreturn htab h8 h12 hcontrol
  · rw [hquote]; rfl
  · rw [hback]; rfl
  · rw [hline]; rfl
  · rw [hreturn]; rfl
  · rw [htab]; rfl
  · rw [hofNat 8 h8]; rfl
  · rw [hofNat 12 h12]; rfl
  · generalize hn : c.toNat = n at hcontrol
    rw [hofNat n hn]
    interval_cases n <;> rfl
  · rw [List.singleton_append]
    cases rest with
    | nil => simp [readEscape]
    | cons d rest => simp [readEscape, hback]

theorem head_jsonEscape (c : Char) : ∃ d t, jsonEscape c = d :: t ∧ d ≠ '"' := by
  unfold jsonEscape
  split_ifs with hquote
  all_goals first | exact ⟨'\\', _, rfl, by decide⟩ | exact ⟨c, [], rfl, hquote⟩

theorem jsonName_inj {s t r r' : JsString} (h : jsonName s ++ r = jsonName t ++ r') :
    s = t ∧ r = r' := by
  have hflat : s.flatMap jsonEscape ++ '"' :: r = t.flatMap jsonEscape ++ '"' :: r' := by
    simpa [jsonName] using h
  clear h
  induction s generalizing t with
  | nil =>
      cases t with
      | nil => exact ⟨rfl, (List.cons.inj hflat).2⟩
      | cons d t =>
          obtain ⟨e, u, hescape, hne⟩ := head_jsonEscape d
          rw [List.flatMap_cons, hescape] at hflat
          exact absurd (List.cons.inj hflat).1.symm hne
  | cons c s ih =>
      cases t with
      | nil =>
          obtain ⟨e, u, hescape, hne⟩ := head_jsonEscape c
          rw [List.flatMap_cons, hescape] at hflat
          exact absurd (List.cons.inj hflat).1 hne
      | cons d t =>
          rw [List.flatMap_cons, List.flatMap_cons, List.append_assoc, List.append_assoc] at hflat
          have hread := congrArg readEscape hflat
          rw [readEscape_jsonEscape, readEscape_jsonEscape] at hread
          obtain rfl := Option.some.inj hread
          obtain ⟨rfl, hrest⟩ := ih (List.append_cancel_left hflat)
          exact ⟨rfl, hrest⟩

section Keys

variable (limits : ProjectionLimits) (ctx : ProjectionContext)

/-- No array is longer than what is inspected of it. -/
inductive Untruncated : JsValue → Prop
  | null : Untruncated .null
  | bool (b : Bool) : Untruncated (.bool b)
  | num (n : JsNumber) : Untruncated (.num n)
  | str (s : JsString) : Untruncated (.str s)
  | arr {items : List JsValue} (hlength : items.length ≤ limits.maxArrayItemsInspected)
      (hitems : ∀ v ∈ items, Untruncated v) : Untruncated (.arr items)
  | obj {fields : List (JsString × JsValue)} (hvalues : ∀ entry ∈ fields, Untruncated entry.2) :
      Untruncated (.obj fields)

/-- Data that a context has met as a whole. -/
inductive Whole : JsValue → Prop
  | null : Whole .null
  | bool (b : Bool) : Whole (.bool b)
  | num {q : ℚ} {ref : JsString} (href : ctx.numericMap.lookup q = some ref) :
      Whole (.num (.finite q))
  | str {s token : JsString} (htoken : ctx.identityMap.lookup s = some token) : Whole (.str s)
  | arr {items : List JsValue} (hlength : items.length ≤ limits.maxArrayItemsInspected)
      (hitems : ∀ v ∈ items, Whole v) : Whole (.arr items)
  | obj {fields : List (JsString × JsValue)} (hnodup : (fields.map Prod.fst).Nodup)
      (hvalues : ∀ entry ∈ fields, Whole entry.2) : Whole (.obj fields)

variable {limits ctx}

theorem whole_of_projected {v : JsValue} (h : Projected limits ctx v)
    (huncut : Untruncated limits v) : Whole limits ctx v := by
  induction h with
  | null => exact .null
  | bool b => exact .bool b
  | num href => exact .num href
  | str htoken => exact .str htoken
  | @arr items _ ih =>
      cases huncut with
      | arr hlength hitems =>
          rw [List.take_of_length_le hlength] at ih
          exact .arr hlength fun v hv => ih v hv (hitems v hv)
  | obj hnodup _ _ _ ih =>
      cases huncut with
      | obj hvalues => exact .obj hnodup fun entry hentry => ih entry hentry (hvalues entry hentry)

theorem Whole.ne_undefined {v : JsValue} (h : Whole limits ctx v) : v ≠ .undefined := by
  rintro rfl
  cases h

variable (limits ctx)

def key (v : JsValue) : JsString := semanticStateKey (shown limits ctx v)

def fieldKey (entry : JsString × JsValue) : JsString :=
  jsonName entry.1 ++ ':' :: key limits ctx entry.2

def byKey (items : List JsValue) : List JsValue :=
  items.insertionSort fun v w => textLe (key limits ctx v) (key limits ctx w)

variable {limits ctx}

theorem itemKeys_eq (items : List ProjectionNode) :
    itemKeys items = items.map semanticStateKey := by
  induction items with
  | nil => rw [itemKeys, List.map_nil]
  | cons item rest ih => rw [itemKeys, ih, List.map_cons]

theorem fieldKeys_eq (fields : List (JsString × JsValue)) :
    fieldKeys (fields.map fun entry => (entry.1, shown limits ctx entry.2)) =
      fields.map (fieldKey limits ctx) := by
  induction fields with
  | nil => rw [List.map_nil, fieldKeys, List.map_nil]
  | cons entry rest ih => rw [List.map_cons, fieldKeys, ih, List.map_cons, fieldKey, key]

theorem sortedKeys_eq (items : List JsValue) : sortedKeys (items.map (key limits ctx)) =
      (byKey limits ctx items).map (key limits ctx) :=
  (List.map_insertionSort (fun v w => textLe (key limits ctx v) (key limits ctx w)) textLe
    (key limits ctx) items fun _ _ _ _ => Iff.rfl).symm

theorem key_null : key limits ctx .null = "NULL".toList := rfl

theorem key_bool (b : Bool) :
    key limits ctx (.bool b) = "BOOLEAN".toList ++ ':' :: booleanText b := rfl

theorem key_num {q : ℚ} {ref : JsString} (h : ctx.numericMap.lookup q = some ref) :
    key limits ctx (.num (.finite q)) = "NUMBER".toList ++ ':' :: ref := by
  rw [key, shown, labeledNumber, h]
  rfl

theorem key_str {s token : JsString} (h : ctx.identityMap.lookup s = some token) :
    key limits ctx (.str s) = "STRING".toList ++ ':' :: token := by
  rw [key, shown, h]
  rfl

theorem shown_whole_arr {items : List JsValue}
    (hlength : items.length ≤ limits.maxArrayItemsInspected) :
    shown limits ctx (.arr items) = arrayOf items.length (items.map (shown limits ctx)) := by
  rw [shown_arr, List.take_of_length_le hlength]

theorem semanticStateKey_array (itemType : Option ItemType) (itemCount inspectedCount : Option Nat)
    (items : List ProjectionNode) (arrayTruncated : Option Bool) :
    semanticStateKey (.array itemType itemCount inspectedCount items arrayTruncated) =
      arrayKey itemCount (itemKeys items) arrayTruncated := rfl

theorem arrayKey_uncut (count : Nat) (keys : List JsString) :
    arrayKey (some count) keys (some false) =
      "ARRAY".toList ++ '[' :: (decimal count ++ ']' :: braced (sortedKeys keys)) := by
  have htag : "ARRAY[".toList = "ARRAY".toList ++ ['['] := by decide
  unfold arrayKey
  simp only [htag, Option.getD_some, Option.some.injEq, Bool.false_eq_true, if_false,
    List.append_nil, List.append_assoc, List.cons_append, List.nil_append]

theorem key_arr {items : List JsValue} (hlength : items.length ≤ limits.maxArrayItemsInspected) :
    key limits ctx (.arr items) = "ARRAY".toList ++ '[' :: (decimal items.length ++ ']' ::
      braced ((byKey limits ctx items).map (key limits ctx))) := by
  have hkeys : itemKeys (items.map (shown limits ctx)) = items.map (key limits ctx) := by
    rw [itemKeys_eq, List.map_map]
    rfl
  have huncut : ¬(items.map (shown limits ctx)).length < items.length := by
    rw [List.length_map]
    exact lt_irrefl _
  rw [key, shown_whole_arr hlength, arrayOf, semanticStateKey_array, decide_eq_false huncut,
    hkeys, arrayKey_uncut, sortedKeys_eq]

theorem key_obj (fields : List (JsString × JsValue)) : key limits ctx (.obj fields) =
      "OBJECT".toList ++ braced ((byName fields).map (fieldKey limits ctx)) := by
  rw [key, shown_obj, objectOf, ← fieldKeys_eq]
  rfl

end Keys

section Reading

variable {limits : ProjectionLimits} {ctx : ProjectionContext}

def typeOf : JsValue → ProjectionNodeType
  | .undefined | .null => .null
  | .bool _ => .boolean
  | .num _ => .number
  | .str _ => .string
  | .arr _ => .array
  | .obj _ => .object

variable {v : JsValue} {fields : List (JsString × JsValue)}

theorem key_starts (h : Whole limits ctx v) :
    ∃ body, key limits ctx v = typeName (typeOf v) ++ body ∧
      ∀ c ∈ body.head?, c.isUpper = false := by
  cases h with
  | null => exact ⟨[], by rw [key_null, List.append_nil]; rfl, fun _ hc => absurd hc (by simp)⟩
  | bool b => exact ⟨_, key_bool b, fun c hc => by rw [← Option.mem_some_iff.mp hc]; rfl⟩
  | num href => exact ⟨_, key_num href, fun c hc => by rw [← Option.mem_some_iff.mp hc]; rfl⟩
  | str htoken => exact ⟨_, key_str htoken, fun c hc => by rw [← Option.mem_some_iff.mp hc]; rfl⟩
  | arr hlength _ =>
      exact ⟨_, key_arr hlength, fun c hc => by rw [← Option.mem_some_iff.mp hc]; rfl⟩
  | obj _ _ => exact ⟨_, key_obj _, fun c hc => by rw [← Option.mem_some_iff.mp hc]; rfl⟩

theorem isUpper_typeName (type : ProjectionNodeType) : ∀ c ∈ typeName type, c.isUpper = true := by
  cases type <;> decide

theorem typeName_ne_nil (type : ProjectionNodeType) : typeName type ≠ [] := by
  cases type <;> decide

theorem isUpper_of_isEnd {c : Char} (h : isEnd c = true) : c.isUpper = false :=
  eq_false_of_isEnd (by decide) h

theorem takeWhile_key (h : Whole limits ctx v) {r : JsString} (hr : Ends r) :
    (key limits ctx v ++ r).takeWhile Char.isUpper = typeName (typeOf v) := by
  obtain ⟨body, hkey, hbody⟩ := key_starts h
  have hstop : (body ++ r).takeWhile Char.isUpper = [] := by
    cases body with
    | cons c rest =>
        rw [List.cons_append, List.takeWhile_cons, hbody c rfl, if_neg Bool.false_ne_true]
    | nil =>
        cases r with
        | nil => rfl
        | cons c rest =>
            rw [List.nil_append, List.takeWhile_cons, isUpper_of_isEnd (hr c rfl),
              if_neg Bool.false_ne_true]
  rw [hkey, List.append_assoc, List.takeWhile_append_of_pos (isUpper_typeName _), hstop,
    List.append_nil]

variable {w : JsValue} {r r' word : JsString} {fields' : List (JsString × JsValue)}

theorem typeOf_inj (hv : Whole limits ctx v) (hw : Whole limits ctx w)
    {r r' : JsString} (hr : Ends r) (hr' : Ends r')
    (h : key limits ctx v ++ r = key limits ctx w ++ r') : typeOf v = typeOf w := by
  have hnames := congrArg (List.takeWhile Char.isUpper) h
  rw [takeWhile_key hv hr, takeWhile_key hw hr'] at hnames
  exact typeName_injective hnames

theorem opens_key (h : Whole limits ctx v) : Opens (key limits ctx v) := by
  obtain ⟨body, hkey, -⟩ := key_starts h
  cases htype : typeName (typeOf v) with
  | nil => exact absurd htype (typeName_ne_nil _)
  | cons c rest =>
      have hupper := isUpper_typeName (typeOf v) c (by rw [htype]; exact List.mem_cons_self)
      exact ⟨c, rest ++ body, by rw [hkey, htype, List.cons_append],
        isEnd_eq_false (by decide) hupper⟩

theorem labeled_inj {s t : JsString} (hs : ∀ c ∈ s, isEnd c = false)
    (ht : ∀ c ∈ t, isEnd c = false) (hr : Ends r) (hr' : Ends r')
    (h : word ++ ':' :: s ++ r = word ++ ':' :: t ++ r') : s = t ∧ r = r' := by
  rw [List.append_assoc, List.append_assoc] at h
  refine word_inj (p := fun c => !isEnd c) ?_ ?_ ?_ hr hr'
    (List.cons.inj (List.append_cancel_left h)).2
  · intro c hc
    rw [hc, Bool.not_true]
  · intro c hc
    rw [hs c hc, Bool.not_false]
  · intro c hc
    rw [ht c hc, Bool.not_false]

theorem isEnd_label {stem : String} (hstem : ∀ c ∈ stem.toList, isEnd c = false) (n : Nat) :
    ∀ c ∈ label stem n, isEnd c = false := by
  intro c hc
  rcases List.mem_append.mp hc with hc | hc
  · exact hstem c hc
  rcases List.mem_cons.mp hc with rfl | hc
  · rfl
  rcases List.mem_append.mp hc with hc | hc
  · rw [List.eq_of_mem_replicate hc]
    rfl
  · exact isEnd_of_isDigit (isDigit_of_mem_decimal hc)

theorem isEnd_booleanText (b : Bool) : ∀ c ∈ booleanText b, isEnd c = false := by
  cases b <;> decide

theorem braced_append (keys : List JsString) (r : JsString) :
    braced keys ++ r = '\x7b' :: (NightWatch.Lib.JsText.join ',' keys ++ '\x7d' :: r) := by
  simp [braced]

theorem counted_inj {m n : Nat} {keys keys' : List JsString}
    (h : word ++ '[' :: (decimal m ++ ']' :: braced keys) ++ r =
      word ++ '[' :: (decimal n ++ ']' :: braced keys') ++ r') :
    NightWatch.Lib.JsText.join ',' keys ++ '\x7d' :: r =
      NightWatch.Lib.JsText.join ',' keys' ++ '\x7d' :: r' := by
  simp only [List.append_assoc, List.cons_append, List.append_cancel_left_eq, List.cons.injEq,
    true_and] at h
  obtain ⟨-, hkeys⟩ := decimal_append_inj (ends_cons rfl _) (ends_cons rfl _) h
  have hbraced := (List.cons.inj hkeys).2
  rw [braced_append, braced_append, List.cons.injEq] at hbraced
  exact hbraced.2

theorem reads_fieldKey {name : JsString}
    (h : Reads (key limits ctx) Rearranged (Whole limits ctx) v) :
    Reads (fieldKey limits ctx) (fun a b => a.1 = b.1 ∧ Rearranged a.2 b.2)
      (fun entry => Whole limits ctx entry.2) (name, v) := by
  rintro ⟨name', w⟩ r r' hw hr hr' htext
  simp only [fieldKey, List.append_assoc, List.cons_append] at htext
  obtain ⟨hname, hrest⟩ := jsonName_inj htext
  obtain ⟨hsame, hend⟩ := h w r r' hw hr hr' (List.cons.inj hrest).2
  exact ⟨⟨hname, hsame⟩, hend⟩

theorem opens_fieldKey (entry : JsString × JsValue) : Opens (fieldKey limits ctx entry) :=
  ⟨'"', _, rfl, rfl⟩

/-- The sorted fields of two objects, one by one. -/
def Matched (fields fields' : List (JsString × JsValue)) : Prop :=
  List.Forall₂ (fun a b => a.1 = b.1 ∧ Rearranged a.2 b.2) (byName fields) (byName fields')

theorem field_byName (h : (fields.map Prod.fst).Nodup)
    (name : JsString) : field (byName fields) name = field fields name := by
  have hnodup : ((byName fields).map Prod.fst).Nodup := by
    rw [names_byName]
    exact (List.perm_insertionSort textLe _).nodup_iff.mpr h
  have hlookup : (byName fields).lookup name = fields.lookup name := by
    apply Option.ext
    intro value
    rw [← mem_iff_lookup hnodup, ← mem_iff_lookup h]
    exact mem_byName h
  rw [field, field, hlookup]

theorem rearranged_of_matched
    (hnodup : (fields.map Prod.fst).Nodup) (hnodup' : (fields'.map Prod.fst).Nodup)
    (h : Matched fields fields') : Rearranged (.obj fields) (.obj fields') := by
  refine .obj fun name => ?_
  rw [← field_byName hnodup, ← field_byName hnodup']
  exact Lib.CanonicalText.field_of_forall₂ .undefined h name

theorem reads_key (hctx : Numbered ctx) {v : JsValue} (hv : Whole limits ctx v) :
    Reads (key limits ctx) Rearranged (Whole limits ctx) v := by
  induction hv with
  | null =>
      intro w r r' hw hr hr' h
      have htype := typeOf_inj .null hw hr hr' h
      cases hw with
      | null => exact ⟨.null, List.append_cancel_left h⟩
      | _ => contradiction
  | bool b =>
      intro w r r' hw hr hr' h
      have htype := typeOf_inj (.bool b) hw hr hr' h
      cases hw with
      | bool b' =>
          rw [key_bool, key_bool] at h
          obtain ⟨hclass, hrest⟩ :=
            labeled_inj (isEnd_booleanText b) (isEnd_booleanText b') hr hr' h
          rw [booleanText_injective hclass]
          exact ⟨.bool b', hrest⟩
      | _ => contradiction
  | num href =>
      intro w r r' hw hr hr' h
      have htype := typeOf_inj (.num href) hw hr hr' h
      cases hw with
      | num href' =>
          have hlabel : ∀ {q ref}, ctx.numericMap.lookup q = some ref →
              ∀ c ∈ ref, isEnd c = false := by
            intro q ref hq
            obtain ⟨n, -, rfl⟩ := hctx.numerics.exists_label hq
            exact isEnd_label (by decide) _
          rw [key_num href, key_num href'] at h
          obtain ⟨rfl, hrest⟩ := labeled_inj (hlabel href) (hlabel href') hr hr' h
          rw [hctx.numerics.inj href href']
          exact ⟨.num _, hrest⟩
      | _ => contradiction
  | str htoken =>
      intro w r r' hw hr hr' h
      have htype := typeOf_inj (.str htoken) hw hr hr' h
      cases hw with
      | str htoken' =>
          have hlabel : ∀ {s token}, ctx.identityMap.lookup s = some token →
              ∀ c ∈ token, isEnd c = false := by
            intro s token hs
            obtain ⟨n, -, rfl⟩ := hctx.identities.exists_label hs
            exact isEnd_label (by decide) _
          rw [key_str htoken, key_str htoken'] at h
          obtain ⟨rfl, hrest⟩ := labeled_inj (hlabel htoken) (hlabel htoken') hr hr' h
          rw [hctx.identities.inj htoken htoken']
          exact ⟨.str _, hrest⟩
      | _ => contradiction
  | @arr items hlength hitems ih =>
      intro w r r' hw hr hr' h
      have htype := typeOf_inj (.arr hlength hitems) hw hr hr' h
      cases hw with
      | @arr items' hlength' hitems' =>
          have hperm : ∀ items, (byKey limits ctx items).Perm items :=
            fun items => List.perm_insertionSort _ items
          rw [key_arr hlength, key_arr hlength'] at h
          obtain ⟨hall, hrest⟩ := join_inj (c := '\x7d') rfl (by decide)
            (fun x hx => ih x ((hperm items).mem_iff.mp hx))
            (fun x hx => opens_key (hitems x ((hperm items).mem_iff.mp hx)))
            (fun x hx => hitems' x ((hperm items').mem_iff.mp hx))
            (fun x hx => opens_key (hitems' x ((hperm items').mem_iff.mp hx))) (counted_inj h)
          exact ⟨rearranged_arr (hperm items) (hperm items') hall, hrest⟩
      | _ => contradiction
  | @obj fields hnodup hvalues ih =>
      intro w r r' hw hr hr' h
      have htype := typeOf_inj (.obj hnodup hvalues) hw hr hr' h
      cases hw with
      | @obj fields' hnodup' hvalues' =>
          rw [key_obj, key_obj, List.append_assoc, List.append_assoc] at h
          have hbraced := List.append_cancel_left h
          rw [braced_append, braced_append, List.cons.injEq] at hbraced
          obtain ⟨hall, hrest⟩ := join_inj (c := '\x7d') rfl (by decide)
            (fun entry hentry => reads_fieldKey (ih entry ((mem_byName hnodup).mp hentry)))
            (fun entry _ => opens_fieldKey entry)
            (fun entry hentry => hvalues' entry ((mem_byName hnodup').mp hentry))
            (fun entry _ => opens_fieldKey entry) hbraced.2
          exact ⟨rearranged_of_matched hnodup hnodup' hall, hrest⟩
      | _ => contradiction

theorem mem_names_iff (hnodup : (fields.map Prod.fst).Nodup)
    (hvalues : ∀ entry ∈ fields, Whole limits ctx entry.2) (name : JsString) :
    name ∈ fields.map Prod.fst ↔ field fields name ≠ .undefined := by
  constructor
  · intro hname
    obtain ⟨entry, hentry, rfl⟩ := List.mem_map.mp hname
    rw [field_of_mem hnodup hentry]
    exact (hvalues entry hentry).ne_undefined
  · intro hne
    by_contra hname
    have hnone : fields.lookup name = none := by
      rw [List.lookup_eq_none_iff]
      intro entry hentry
      rw [bne_iff_ne]
      rintro rfl
      exact hname (List.mem_map_of_mem hentry)
    rw [field, hnone] at hne
    exact hne rfl

theorem names_of_rearranged
    (hnodup : (fields.map Prod.fst).Nodup) (hnodup' : (fields'.map Prod.fst).Nodup)
    (hvalues : ∀ entry ∈ fields, Whole limits ctx entry.2)
    (hvalues' : ∀ entry ∈ fields', Whole limits ctx entry.2)
    (h : ∀ name, Rearranged (field fields name) (field fields' name)) :
    (fields.map Prod.fst).insertionSort textLe = (fields'.map Prod.fst).insertionSort textLe := by
  apply sort_congr
  rw [List.perm_ext_iff_of_nodup hnodup hnodup']
  intro name
  rw [mem_names_iff hnodup hvalues, mem_names_iff hnodup' hvalues', not_iff_not]
  constructor
  · intro hundefined
    exact rearranged_undefined (hundefined ▸ h name)
  · intro hundefined
    exact rearranged_undefined (hundefined ▸ (h name).symm)

theorem keys_of_rearranged {items items' left right : List JsValue} (hleft : left.Perm items)
    (hright : right.Perm items') (hlength : left.length = right.length)
    (h : ∀ i (hi : i < left.length) (hi' : i < right.length),
      key limits ctx left[i] = key limits ctx right[i]) : items.length = items'.length ∧
      sortedKeys (items.map (key limits ctx)) = sortedKeys (items'.map (key limits ctx)) := by
  have hkeys : left.map (key limits ctx) = right.map (key limits ctx) := by
    refine List.ext_getElem (by simpa using hlength) fun i hi hi' => ?_
    rw [List.length_map] at hi hi'
    rw [List.getElem_map, List.getElem_map]
    exact h i hi hi'
  refine ⟨?_, sort_congr ((hleft.symm.map _).trans (hkeys ▸ hright.map _))⟩
  rw [← hleft.length_eq, ← hright.length_eq, hlength]

theorem key_of_rearranged (h : Rearranged v w) (hv : Whole limits ctx v)
    (hw : Whole limits ctx w) : key limits ctx v = key limits ctx w := by
  induction h with
  | @arr items items' left right hleft hright hlength _ ih =>
      cases hv with
      | arr hbound hitems =>
          cases hw with
          | arr hbound' hitems' =>
              obtain ⟨hcount, hsorted⟩ := keys_of_rearranged hleft hright hlength
                fun i hi hi' => ih i hi hi' (hitems _ (hleft.mem_iff.mp (List.getElem_mem hi)))
                  (hitems' _ (hright.mem_iff.mp (List.getElem_mem hi')))
              rw [key_arr hbound, key_arr hbound', ← sortedKeys_eq, ← sortedKeys_eq, hsorted,
                hcount]
  | @obj fields fields' hfields ih =>
      cases hv with
      | obj hnodup hvalues =>
          cases hw with
          | obj hnodup' hvalues' =>
              have hfield : ∀ {fields : List (JsString × JsValue)} {name : JsString},
                  (fields.map Prod.fst).Nodup → (∀ entry ∈ fields, Whole limits ctx entry.2) →
                    name ∈ (fields.map Prod.fst).insertionSort textLe →
                      Whole limits ctx (field fields name) := by
                intro fields name hnodup hvalues hname
                rw [List.mem_insertionSort, List.mem_map] at hname
                obtain ⟨entry, hentry, rfl⟩ := hname
                rw [field_of_mem hnodup hentry]
                exact hvalues entry hentry
              have hnames := names_of_rearranged hnodup hnodup' hvalues hvalues' hfields
              rw [key_obj, key_obj, byName, byName, List.map_map, List.map_map, hnames]
              congr 2
              apply List.map_congr_left
              intro name hname
              have hname' := hnames ▸ hname
              rw [Function.comp_apply, Function.comp_apply, fieldKey, fieldKey,
                ih name (hfield hnodup hvalues hname') (hfield hnodup' hvalues' hname)]
  | _ => rfl

end Reading

end NightWatch.Oracles.StateKeys
