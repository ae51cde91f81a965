import NightWatch.Policy.StructuralWalk

/-!
Which refusals of a part carry over to the whole: those of the structural walk always, and those
of the text screens where the text of the part stands unchanged in what is scanned.
-/

namespace NightWatch.Policy.EmbeddedScreening

open Lib.JsText Lib.JsRuntime Lib.Regex Policy.PrivateScreening Policy.StructuralWalk

section Texts

variable (rt : Runtime)

def fieldText (field : JsString × PlainValue) : JsString :=
  quoted field.1 ++ ':' :: stringify rt field.2

def leading (texts : List JsString) : JsString := texts.flatMap (· ++ [','])

def trailing (texts : List JsString) : JsString := texts.flatMap (',' :: ·)

/-- A value inside another, between the texts that stand before and after it. -/
inductive Occurs : PlainValue → JsString → PlainValue → JsString → Prop
  | here (v : PlainValue) : Occurs v [] v []
  | item {xs ys : List PlainValue} {w u : PlainValue} {a b : JsString} (hu : Occurs w a u b) :
      Occurs (.arr (xs ++ w :: ys)) ('[' :: (leading (xs.map (stringify rt)) ++ a)) u
        (b ++ (trailing (ys.map (stringify rt)) ++ [']']))
  | field {xs ys : List (JsString × PlainValue)} {key : JsString} {w u : PlainValue}
      {a b : JsString} (hu : Occurs w a u b) :
      Occurs (.obj (xs ++ (key, w) :: ys))
        ('\x7b' :: (leading (xs.map (fieldText rt)) ++ (quoted key ++ ':' :: a))) u
        (b ++ (trailing (ys.map (fieldText rt)) ++ ['\x7d']))

variable {rt}

theorem trailing_cons (text : JsString) (texts : List JsString) :
    trailing (text :: texts) = ',' :: (text ++ trailing texts) := rfl

theorem leading_cons (text : JsString) (texts : List JsString) :
    leading (text :: texts) = text ++ ',' :: leading texts := by
  rw [leading, List.flatMap_cons, List.append_assoc]
  rfl

theorem stringifyItems_eq (w : PlainValue) (ys : List PlainValue) :
    stringifyItems rt (w :: ys) = stringify rt w ++ trailing (ys.map (stringify rt)) := by
  induction ys generalizing w with
  | nil => rfl
  | cons v ys ih =>
      change stringify rt w ++ ',' :: stringifyItems rt (v :: ys) = _
      rw [ih v, List.map_cons, trailing_cons]

theorem stringifyItems_append (xs ys : List PlainValue) (w : PlainValue) :
    stringifyItems rt (xs ++ w :: ys) = leading (xs.map (stringify rt)) ++
      (stringify rt w ++ trailing (ys.map (stringify rt))) := by
  induction xs with
  | nil => exact stringifyItems_eq w ys
  | cons x xs ih =>
      have hne : (xs ++ w :: ys).isEmpty = false := by cases xs <;> rfl
      rw [List.cons_append, stringifyItems, hne, if_neg (by decide), ih, List.map_cons,
        leading_cons, List.append_assoc, List.cons_append]

theorem stringifyFields_eq (field : JsString × PlainValue) (ys : List (JsString × PlainValue)) :
    stringifyFields rt (field :: ys) = fieldText rt field ++ trailing (ys.map (fieldText rt)) := by
  induction ys generalizing field with
  | nil =>
      obtain ⟨key, v⟩ := field
      change quoted key ++ ':' :: (stringify rt v ++ []) =
        (quoted key ++ ':' :: stringify rt v) ++ []
      rw [List.append_nil, List.append_nil]
  | cons next ys ih =>
      obtain ⟨key, v⟩ := field
      change quoted key ++ ':' :: (stringify rt v ++ ',' :: stringifyFields rt (next :: ys)) =
        (quoted key ++ ':' :: stringify rt v) ++ trailing ((next :: ys).map (fieldText rt))
      rw [ih next, List.map_cons, trailing_cons, List.append_assoc, List.cons_append]

theorem stringifyFields_append (xs ys : List (JsString × PlainValue))
    (field : JsString × PlainValue) :
    stringifyFields rt (xs ++ field :: ys) = leading (xs.map (fieldText rt)) ++
      (fieldText rt field ++ trailing (ys.map (fieldText rt))) := by
  induction xs with
  | nil => exact stringifyFields_eq field ys
  | cons x xs ih =>
      obtain ⟨key, v⟩ := x
      have hne : (xs ++ field :: ys).isEmpty = false := by cases xs <;> rfl
      have htext : fieldText rt (key, v) = quoted key ++ ':' :: stringify rt v := rfl
      rw [List.cons_append, stringifyFields, hne, if_neg (by decide), ih, List.map_cons,
        leading_cons, htext]
      simp only [List.append_assoc, List.cons_append]

variable {u v : PlainValue} {a b : JsString}

theorem stringify_occurs (h : Occurs rt v a u b) : stringify rt v = a ++ (stringify rt u ++ b) := by
  induction h with
  | here v => rw [List.append_nil, List.nil_append]
  | item _ ih =>
      rw [stringify, stringifyItems_append, ih]
      simp only [List.append_assoc, List.cons_append]
  | field _ ih =>
      rw [stringify, stringifyFields_append, fieldText, ih]
      simp only [List.append_assoc, List.cons_append]

theorem after_mark (h : Occurs rt v a u b) : b = [] ∨ ∃ c t, isMark c = true ∧ b = c :: t := by
  have hstarts : ∀ {texts : List JsString} {close : Char} {b : JsString}, isMark close = true →
      (b = [] ∨ ∃ c t, isMark c = true ∧ b = c :: t) →
        b ++ (trailing texts ++ [close]) = [] ∨
          ∃ c t, isMark c = true ∧ b ++ (trailing texts ++ [close]) = c :: t := by
    rintro texts close b hclose (rfl | ⟨c, t, hc, rfl⟩)
    · cases texts with
      | nil => exact .inr ⟨close, [], hclose, rfl⟩
      | cons text texts => exact .inr ⟨',', _, by decide, rfl⟩
    · exact .inr ⟨c, _, hc, rfl⟩
  induction h with
  | here v => exact .inl rfl
  | item _ ih => exact hstarts (by decide) ih
  | field _ ih => exact hstarts (by decide) ih

theorem exists_occurs (h : Part v u) : ∃ a b, Occurs rt v a u b := by
  induction h with
  | refl v => exact ⟨[], [], .here v⟩
  | item hw _ ih =>
      obtain ⟨a, b, hocc⟩ := ih
      obtain ⟨xs, ys, rfl⟩ := List.append_of_mem hw
      exact ⟨_, _, .item hocc⟩
  | field hw _ ih =>
      obtain ⟨a, b, hocc⟩ := ih
      obtain ⟨xs, ys, rfl⟩ := List.append_of_mem hw
      exact ⟨_, _, .field hocc⟩

theorem part_of_occurs (h : Occurs rt v a u b) : Part v u := by
  induction h with
  | here v => exact .refl v
  | item _ ih => exact .item (List.mem_append_right _ List.mem_cons_self) ih
  | field _ ih => exact .field (List.mem_append_right _ List.mem_cons_self) ih

end Texts

theorem utf16Length_append (s t : JsString) :
    utf16Length (s ++ t) = utf16Length s + utf16Length t := by
  rw [utf16Length, List.map_append, List.sum_append, utf16Length, utf16Length]

theorem sliceUnits_append {n : Nat} {s : JsString} (t : JsString) (h : utf16Length s ≤ n) :
    sliceUnits n (s ++ t) = s ++ sliceUnits (n - utf16Length s) t := by
  induction s generalizing n with
  | nil => rfl
  | cons c s ih =>
      have hsum : utf16Length (c :: s) = utf16Length [c] + utf16Length s := utf16Length_append [c] s
      rw [hsum] at h ⊢
      rw [List.cons_append, sliceUnits, if_pos (by omega), ih (by omega), Nat.sub_sub,
        List.cons_append]

theorem sliceUnits_starts (n : Nat) (s : JsString) : sliceUnits n s = [] ∨
    ∃ c t t', s = c :: t ∧ sliceUnits n s = c :: t' := by
  cases s with
  | nil => exact .inl rfl
  | cons c s =>
      rw [sliceUnits]
      split
      · exact .inr ⟨c, s, _, rfl, rfl⟩
      · exact .inl rfl

section Canonical

variable (nf : Normalization) {c : Char} {s t : JsString}

theorem isJoiner_of_isMark (h : isMark c = true) : isJoiner c = false := by
  have hmem : c ∈ ['"', '[', ']', '\x7b', '\x7d', ',', ':'] := by
    simpa [isMark] using h
  fin_cases hmem <;> decide

theorem canonicalize_mark (hc : isMark c = true) (s t : JsString) :
    canonicalizePrivateText nf (s ++ c :: t) =
      canonicalizePrivateText nf s ++ c :: canonicalizePrivateText nf t := by
  rw [canonicalizePrivateText, nf.normalize_mark c hc, List.filter_append,
    List.filter_cons_of_pos (by rw [isJoiner_of_isMark hc]; rfl)]
  rfl

theorem canonicalize_nil : canonicalizePrivateText nf [] = [] := by
  rw [canonicalizePrivateText, nf.normalize_nil]
  rfl

theorem canonicalize_append (ht : t = [] ∨ ∃ c t', isMark c = true ∧ t = c :: t') :
    canonicalizePrivateText nf (s ++ t) =
      canonicalizePrivateText nf s ++ canonicalizePrivateText nf t := by
  rcases ht with rfl | ⟨c, t, hc, rfl⟩
  · rw [List.append_nil, canonicalize_nil, List.append_nil]
  · have hmark : canonicalizePrivateText nf (c :: t) = c :: canonicalizePrivateText nf t := by
      have hnil := canonicalize_mark nf hc [] t
      rw [canonicalize_nil] at hnil
      exact hnil
    rw [canonicalize_mark nf hc, hmark]

theorem shape_of_part {before after : JsString} (hcanonical : canonicalizePrivateText nf t =
      before ++ (canonicalizePrivateText nf s ++ after))
    (h : containsPrivatePayloadShape nf s = true) : containsPrivatePayloadShape nf t = true := by
  have hfound : ∀ {p : Pattern}, found p (canonicalizePrivateText nf s) = true →
      found p (canonicalizePrivateText nf t) = true := by
    intro p hp
    rw [hcanonical]
    exact found_append _ _ hp
  rw [containsPrivatePayloadShape, containsSecretOrSentinelShape,
    containsLabeledPrivateValue] at h ⊢
  simp only [Bool.or_eq_true] at h ⊢
  rcases h with (hsecret | hsentinel) | hvalue
  · exact .inl (.inl (hfound hsecret))
  · exact .inl (.inr (hfound hsentinel))
  · exact .inr (hfound hvalue)

theorem shape_append {a b : JsString} (hs : ∃ c t, isMark c = true ∧ s = c :: t)
    (hb : b = [] ∨ ∃ c t, isMark c = true ∧ b = c :: t)
    (h : containsPrivatePayloadShape nf s = true) :
    containsPrivatePayloadShape nf (a ++ (s ++ b)) = true := by
  have hstarts : s ++ b = [] ∨ ∃ c t, isMark c = true ∧ s ++ b = c :: t := by
    obtain ⟨c, t, hc, rfl⟩ := hs
    exact .inr ⟨c, t ++ b, hc, rfl⟩
  have hcanonical : canonicalizePrivateText nf (a ++ (s ++ b)) = canonicalizePrivateText nf a ++
      (canonicalizePrivateText nf s ++ canonicalizePrivateText nf b) := by
    rw [canonicalize_append nf hstarts, canonicalize_append nf hb]
  exact shape_of_part nf hcanonical h

theorem shape_quoted (hs : s.flatMap escape = s) (h : containsPrivatePayloadShape nf s = true) :
    containsPrivatePayloadShape nf (quoted s) = true := by
  have hquote : isMark '"' = true := by decide
  have hcanonical : canonicalizePrivateText nf (quoted s) =
      ['"'] ++ (canonicalizePrivateText nf s ++ ['"']) := by
    have houter := canonicalize_mark nf hquote [] (s ++ ['"'])
    have hinner := canonicalize_mark nf hquote s []
    rw [canonicalize_nil] at houter hinner
    rw [quoted, hs]
    change canonicalizePrivateText nf ([] ++ '"' :: (s ++ ['"'])) = _
    rw [houter, hinner]
    rfl
  exact shape_of_part nf hcanonical h

end Canonical

section Payloads

variable {rt : Runtime} {nf : Normalization}

def scannedText (rt : Runtime) (v : PlainValue) : JsString :=
  if maxStringLength < utf16Length (stringify rt v) then
    sliceUnits maxStringLength (stringify rt v)
  else stringify rt v

variable {u v : PlainValue}

theorem containsPrivatePayload_of_structural
    (h : findStructuralPrivateFailure rt nf v ≠ none) : containsPrivatePayload rt nf v = true := by
  have hshape : containsStructuralPrivateShape rt nf v = true := by
    rw [containsStructuralPrivateShape]
    exact Option.isSome_iff_ne_none.mpr h
  unfold containsPrivatePayload
  exact if_pos hshape

theorem containsPrivatePayload_str {s : JsString} :
    containsPrivatePayload rt nf (.str s) = containsPrivatePayloadShape nf s := by
  unfold containsPrivatePayload
  exact if_neg Bool.false_ne_true

theorem containsPrivatePayload_eq (hv : ∀ s, v ≠ .str s)
    (h : findStructuralPrivateFailure rt nf v = none) :
    containsPrivatePayload rt nf v = containsPrivatePayloadShape nf (scannedText rt v) := by
  have hshape : ¬ containsStructuralPrivateShape rt nf v = true := by
    rw [containsStructuralPrivateShape, h]
    decide
  have hchoice : containsPrivatePayloadShape nf (scannedText rt v) =
      if maxStringLength < utf16Length (stringify rt v) then
        containsPrivatePayloadShape nf (sliceUnits maxStringLength (stringify rt v))
      else containsPrivatePayloadShape nf (stringify rt v) := apply_ite _ _ _ _
  rw [hchoice]
  unfold containsPrivatePayload
  rw [if_neg hshape]
  cases v with
  | str s => exact absurd rfl (hv s)
  | _ => rfl

/-- The texts that an array, an object or a string without escapes keeps wherever it stands. -/
def KeepsText : PlainValue → Prop
  | .str s => s.flatMap escape = s
  | .arr _ | .obj _ => True
  | _ => False

theorem stringify_mark (hu : KeepsText u) : ∃ c t, isMark c = true ∧ stringify rt u = c :: t := by
  cases u with
  | str s => exact ⟨'"', _, by decide, rfl⟩
  | arr items => exact ⟨'[', _, by decide, rfl⟩
  | obj fields => exact ⟨'\x7b', _, by decide, rfl⟩
  | _ => contradiction

theorem shape_stringify (hu : KeepsText u) (hshort : utf16Length (stringify rt u) ≤ maxStringLength)
    (hnone : findStructuralPrivateFailure rt nf u = none)
    (h : containsPrivatePayload rt nf u = true) :
    containsPrivatePayloadShape nf (stringify rt u) = true := by
  have hwhole : scannedText rt u = stringify rt u := if_neg (Nat.not_lt_of_le hshort)
  cases u with
  | str s =>
      rw [containsPrivatePayload_str] at h
      exact shape_quoted nf hu h
  | arr items =>
      rw [containsPrivatePayload_eq (by rintro s ⟨⟩) hnone, hwhole] at h
      exact h
  | obj fields =>
      rw [containsPrivatePayload_eq (by rintro s ⟨⟩) hnone, hwhole] at h
      exact h
  | _ => contradiction

theorem scannedText_occurs {a b : JsString} (hocc : Occurs rt v a u b)
    (hend : utf16Length (a ++ stringify rt u) ≤ maxStringLength) :
    ∃ b', scannedText rt v = a ++ (stringify rt u ++ b') ∧
      (b' = [] ∨ ∃ c t, isMark c = true ∧ b' = c :: t) := by
  have htext := stringify_occurs hocc
  rw [scannedText]
  split
  · rw [htext, ← List.append_assoc, sliceUnits_append b hend, List.append_assoc]
    refine ⟨_, rfl, ?_⟩
    rcases sliceUnits_starts (maxStringLength - utf16Length (a ++ stringify rt u)) b with
      hnil | ⟨c, t, t', rfl, hslice⟩
    · exact .inl hnil
    · rcases after_mark hocc with hnil | ⟨d, rest, hd, hb⟩
      · contradiction
      · obtain ⟨rfl, -⟩ := List.cons.inj hb
        exact .inr ⟨c, t', hd, hslice⟩
  · exact ⟨b, htext, after_mark hocc⟩

theorem payload_closed {a b : JsString} (hocc : Occurs rt v a u b)
    (hu : KeepsText u) (hend : utf16Length (a ++ stringify rt u) ≤ maxStringLength)
    (h : containsPrivatePayload rt nf u = true) : containsPrivatePayload rt nf v = true := by
  have hpart := part_of_occurs hocc
  by_cases hstructural : findStructuralPrivateFailure rt nf v = none
  · by_cases hstring : ∃ s, v = .str s
    · obtain ⟨s, rfl⟩ := hstring
      cases hpart with
      | refl => exact h
    · have hnone : findStructuralPrivateFailure rt nf u = none := by
        by_contra hu'
        exact structural_closed hpart hu' hstructural
      have hshort : utf16Length (stringify rt u) ≤ maxStringLength := by
        rw [utf16Length_append] at hend
        omega
      obtain ⟨b', hscanned, hb'⟩ := scannedText_occurs hocc hend
      rw [containsPrivatePayload_eq (fun s hs => hstring ⟨s, hs⟩) hstructural, hscanned]
      exact shape_append nf (stringify_mark hu) hb' (shape_stringify hu hshort hnone h)
  · exact containsPrivatePayload_of_structural hstructural

theorem assertPrivatePayload_eq_ok :
    assertPrivatePayload rt nf v = .ok () ↔ containsPrivatePayload rt nf v = false := by
  unfold assertPrivatePayload
  rcases hpayload : containsPrivatePayload rt nf v with _ | _
  · rw [if_neg (by decide)]
    constructor
    · intro _
      rfl
    · intro _
      cases v with
      | str s =>
          rw [containsPrivatePayload_str] at hpayload
          change (if containsPrivatePayloadShape nf s then _ else _) = _
          rw [hpayload, if_neg (by decide)]
      | _ => rfl
  · rw [if_pos rfl]
    constructor
    · intro h
      contradiction
    · intro h
      contradiction

end Payloads

section Main

variable (rt : Runtime) (nf : Normalization)

/-- The structural refusal of a part always carries over, and that of its text where the part
keeps its text and ends within what is scanned; the walk passes what is within its bounds. -/
theorem embedded_screening_is_closed (v : PlainValue) : (∀ u, Part v u →
      (findStructuralPrivateFailure rt nf u ≠ none → findStructuralPrivateFailure rt nf v ≠ none) ∧
      ∃ before after, Occurs rt v before u after) ∧
    (∀ before u after, Occurs rt v before u after → KeepsText u →
      utf16Length (before ++ stringify rt u) ≤ maxStringLength →
        (containsPrivatePayload rt nf u = true → containsPrivatePayload rt nf v = true) ∧
        (assertPrivatePayload rt nf v = .ok () → containsPrivatePayload rt nf u = false)) ∧
    (2 * keyCount v ≤ maxKeys ∨ maxKeys < keyCount v →
      (findStructuralPrivateFailure rt nf v = none ↔
        (loadOf rt nf v).depth ≤ maxDepth ∧ (loadOf rt nf v).nodes ≤ maxNodes ∧
          keyCount v ≤ maxKeys ∧ Clean rt nf v)) := by
  refine ⟨fun u hpart => ⟨structural_closed hpart, exists_occurs hpart⟩, ?_, ?_⟩
  · intro before u after hocc hu hend
    refine ⟨payload_closed hocc hu hend, ?_⟩
    intro hok
    rw [assertPrivatePayload_eq_ok] at hok
    rw [Bool.eq_false_iff]
    intro hpayload
    rw [payload_closed hocc hu hend hpayload] at hok
    contradiction
  · intro hkeys
    rw [findStructuralPrivateFailure_eq_none_iff]
    constructor
    · rintro ⟨hdepth, hnodes, hdouble, hclean⟩
      exact ⟨hdepth, hnodes, by omega, hclean⟩
    · rintro ⟨hdepth, hnodes, hsingle, hclean⟩
      rcases hkeys with hfew | hmany
      · exact ⟨hdepth, hnodes, hfew, hclean⟩
      · exact absurd hsingle (Nat.not_le_of_lt hmany)

end Main

def plainNormalization : Normalization := ⟨id, rfl, fun _ _ _ _ => rfl⟩

def longValue : PlainValue :=
  .arr [.str (List.replicate (65534 + 2) 'x'), .str "token=abcdef".toList]

theorem flatMap_escape_filling (n : Nat) :
    (List.replicate n 'x').flatMap escape = List.replicate n 'x' := by
  induction n with
  | zero => rfl
  | succ n ih => rw [List.replicate_succ, List.flatMap_cons, ih]; rfl

theorem scannedText_longValue :
    scannedText plainRuntime longValue = '[' :: '"' :: List.replicate 65534 'x' := by
  have htext : stringify plainRuntime longValue = ('[' :: '"' :: List.replicate 65534 'x') ++
      (List.replicate 2 'x' ++ '"' :: ',' :: (quoted "token=abcdef".toList ++ [']'])) := by
    have hunfold : stringify plainRuntime longValue = '[' ::
        (('"' :: ((List.replicate (65534 + 2) 'x').flatMap escape ++ ['"'])) ++
          ',' :: (quoted "token=abcdef".toList ++ []) ++ [']']) := rfl
    rw [hunfold, flatMap_escape_filling, List.replicate_add]
    simp only [List.append_assoc, List.cons_append, List.nil_append, List.append_nil]
  have hlength : utf16Length ('[' :: '"' :: List.replicate 65534 'x') = maxStringLength := by
    rw [utf16Length_of_basic]
    · rw [List.length_cons, List.length_cons, List.length_replicate]
      rfl
    · intro c hc
      rcases List.mem_cons.mp hc with rfl | hc
      · decide
      · rcases List.mem_cons.mp hc with rfl | hc
        · decide
        · rw [List.eq_of_mem_replicate hc]
          decide
  have hlong : maxStringLength < utf16Length (stringify plainRuntime longValue) := by
    rw [htext, utf16Length_append, hlength]
    exact Nat.lt_add_of_pos_right (by decide)
  rw [scannedText, if_pos hlong, htext, sliceUnits_append _ (Nat.le_of_eq hlength), hlength,
    Nat.sub_self]
  exact List.append_nil _

theorem found_filling {p : Pattern} (hp : nullable p = false)
    (hstarts : ∀ c ∈ ['[', '"', 'x'], starts p c = false) :
    found p (canonicalizePrivateText plainNormalization
      ('[' :: '"' :: List.replicate 65534 'x')) = false := by
  apply found_eq_false hp
  intro c hc
  apply hstarts
  have hmem : c ∈ '[' :: '"' :: List.replicate 65534 'x' := (List.mem_filter.mp hc).1
  rcases List.mem_cons.mp hmem with rfl | hmem
  · exact List.mem_cons_self
  · rcases List.mem_cons.mp hmem with rfl | hmem
    · exact List.mem_cons_of_mem _ List.mem_cons_self
    · rw [List.eq_of_mem_replicate hmem]
      exact List.mem_cons_of_mem _ (List.mem_cons_of_mem _ List.mem_cons_self)

theorem containsPrivatePayload_longValue :
    containsPrivatePayload plainRuntime plainNormalization longValue = false := by
  have hstructural : findStructuralPrivateFailure plainRuntime plainNormalization longValue =
    none := rfl
  rw [containsPrivatePayload_eq (by rintro s ⟨⟩) hstructural, scannedText_longValue,
    containsPrivatePayloadShape, containsSecretOrSentinelShape, containsLabeledPrivateValue,
    found_filling (by decide) (by decide), found_filling (by decide) (by decide),
    found_filling (by decide) (by decide)]
  rfl

def quotedLeaf : PlainValue := .str "token=\"abcdef\"".toList

/-- A labeled value in quotes, and one behind the bound of the scan, are refused alone and
accepted inside an array. -/
theorem embedded_text_is_accepted : (Part (.arr [quotedLeaf]) quotedLeaf ∧
      containsPrivatePayload plainRuntime plainNormalization quotedLeaf = true ∧
      assertPrivatePayload plainRuntime plainNormalization (.arr [quotedLeaf]) = .ok ()) ∧
    ∃ u, Part longValue u ∧ containsPrivatePayload plainRuntime plainNormalization u = true ∧
      assertPrivatePayload plainRuntime plainNormalization longValue = .ok () := by
  refine ⟨⟨?_, ?_, ?_⟩, .str "token=abcdef".toList, ?_, ?_, ?_⟩
  · exact .item List.mem_cons_self (.refl _)
  · decide +kernel
  · rw [assertPrivatePayload_eq_ok]
    decide +kernel
  · exact .item (List.mem_cons_of_mem _ List.mem_cons_self) (.refl _)
  · decide +kernel
  · rw [assertPrivatePayload_eq_ok]
    exact containsPrivatePayload_longValue

end NightWatch.Policy.EmbeddedScreening
