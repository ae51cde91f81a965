import NightWatch.Lib.JsData

/-!
Objects some of whose fields may be absent.
-/

namespace NightWatch.Lib.Slots

open Lib.JsText Lib.JsData
open Lib.JsData.JsValue (field)

def ofSlots : List (String × Option JsValue) → List (JsString × JsValue)
  | [] => []
  | (name, value) :: rest => (value.map fun v => (name.toList, v)).toList ++ ofSlots rest

theorem name_mem_of_mem_ofSlots {slots : List (String × Option JsValue)}
    {field : JsString × JsValue} (h : field ∈ ofSlots slots) :
    ∃ name ∈ slots.map Prod.fst, field.1 = name.toList := by
  induction slots with
  | nil => simp [ofSlots] at h
  | cons slot rest ih =>
      obtain ⟨name, value⟩ := slot
      rcases List.mem_append.mp h with h | h
      · obtain ⟨v, -, rfl⟩ := by simpa using h
        exact ⟨name, by simp, rfl⟩
      · obtain ⟨other, hother, hname⟩ := ih h
        exact ⟨other, by simp_all, hname⟩

theorem ofSlots_injective {slots slots' : List (String × Option JsValue)}
    (hnames : slots.map Prod.fst = slots'.map Prod.fst) (hnodup : (slots.map Prod.fst).Nodup)
    (h : ofSlots slots = ofSlots slots') : slots = slots' := by
  induction slots generalizing slots' with
  | nil =>
      cases slots' with
      | nil => rfl
      | cons slot rest => simp at hnames
  | cons slot rest ih =>
      cases slots' with
      | nil => simp at hnames
      | cons slot' rest' =>
          obtain ⟨name, value⟩ := slot
          obtain ⟨name', value'⟩ := slot'
          rw [List.map_cons, List.map_cons, List.cons.injEq] at hnames
          obtain ⟨rfl, hrest⟩ := hnames
          rw [List.map_cons, List.nodup_cons] at hnodup
          have hfresh (slots : List (String × Option JsValue)) (hslots : slots.map Prod.fst =
              rest.map Prod.fst) (v : JsValue) : (name.toList, v) ∉ ofSlots slots := by
            intro hmem
            obtain ⟨other, hother, heq⟩ := name_mem_of_mem_ofSlots hmem
            rw [hslots, ← String.toList_inj.mp heq] at hother
            exact hnodup.1 hother
          cases value with
          | none =>
              cases value' with
              | none => rw [ih hrest hnodup.2 h]
              | some w =>
                  have hmem : (name.toList, w) ∈ ofSlots rest := by
                    change ofSlots rest = (name.toList, w) :: ofSlots rest' at h
                    simp [h]
                  exact absurd hmem (hfresh rest rfl w)
          | some v =>
              cases value' with
              | none =>
                  have hmem : (name.toList, v) ∈ ofSlots rest' := by
                    change (name.toList, v) :: ofSlots rest = ofSlots rest' at h
                    simp [← h]
                  exact absurd hmem (hfresh rest' hrest.symm v)
              | some w =>
                  change (name.toList, v) :: ofSlots rest = (name.toList, w) :: ofSlots rest' at h
                  obtain ⟨hfield, hfields⟩ := List.cons.inj h
                  obtain rfl := (Prod.mk.inj hfield).2
                  rw [ih hrest hnodup.2 hfields]

section Fields

variable {slots : List (String × Option JsValue)}

theorem field_ofSlots_of_not_mem {key : JsString}
    (h : ∀ name ∈ slots.map Prod.fst, key ≠ name.toList) :
    field (ofSlots slots) key = .undefined := by
  have hlookup : (ofSlots slots).lookup key = none := by
    rw [List.lookup_eq_none_iff]
    intro entry hentry
    obtain ⟨name, hname, heq⟩ := name_mem_of_mem_ofSlots hentry
    have hne := h name hname
    simpa [heq] using hne
  rw [field, hlookup]
  rfl

theorem field_ofSlots (hnodup : (slots.map Prod.fst).Nodup) {name : String}
    {value : Option JsValue} (h : (name, value) ∈ slots) :
    field (ofSlots slots) name.toList = value.getD .undefined := by
  induction slots with
  | nil => contradiction
  | cons slot rest ih =>
      obtain ⟨other, present⟩ := slot
      rw [List.map_cons, List.nodup_cons] at hnodup
      rcases List.mem_cons.mp h with heq | hrest
      · obtain ⟨rfl, rfl⟩ := Prod.mk.inj heq
        cases value with
        | none =>
            have hfresh : ∀ other ∈ rest.map Prod.fst, name.toList ≠ other.toList :=
              fun other hother heq => hnodup.1 (String.toList_inj.mp heq ▸ hother)
            have hfield := field_ofSlots_of_not_mem hfresh
            exact hfield
        | some v =>
            change field ((name.toList, v) :: ofSlots rest) name.toList = v
            simp [field]
      · have hne : name.toList ≠ other.toList := by
          intro heq
          have hmem : name ∈ rest.map Prod.fst := List.mem_map_of_mem hrest
          exact hnodup.1 (String.toList_inj.mp heq ▸ hmem)
        rw [← ih hnodup.2 hrest]
        cases present with
        | none => rfl
        | some v =>
            have hbeq : (name.toList == other.toList) = false := by simpa using hne
            change field ((other.toList, v) :: ofSlots rest) name.toList = _
            simp [field, List.lookup_cons, hbeq]

theorem nodup_ofSlots (hnodup : (slots.map Prod.fst).Nodup) :
    ((ofSlots slots).map Prod.fst).Nodup := by
  induction slots with
  | nil => exact List.nodup_nil
  | cons slot rest ih =>
      obtain ⟨name, value⟩ := slot
      rw [List.map_cons, List.nodup_cons] at hnodup
      cases value with
      | none => exact ih hnodup.2
      | some v =>
          change (((name.toList, v) :: ofSlots rest).map Prod.fst).Nodup
          rw [List.map_cons, List.nodup_cons]
          refine ⟨fun hmem => ?_, ih hnodup.2⟩
          obtain ⟨entry, hentry, heq⟩ := List.mem_map.mp hmem
          obtain ⟨other, hother, hname⟩ := name_mem_of_mem_ofSlots hentry
          have hsame : name = other := String.toList_inj.mp (heq.symm.trans hname)
          exact hnodup.1 (hsame ▸ hother)

theorem mem_ofSlots {key : JsString} {v : JsValue} :
    (key, v) ∈ ofSlots slots ↔ ∃ name, (name, some v) ∈ slots ∧ key = name.toList := by
  induction slots with
  | nil => simp [ofSlots]
  | cons slot rest ih =>
      obtain ⟨name, value⟩ := slot
      cases value with
      | none => simp [ofSlots, ih]
      | some w =>
          simp only [ofSlots, Option.map_some, Option.toList_some, List.singleton_append,
            List.mem_cons, Prod.mk.injEq, ih, Option.some.injEq]
          constructor
          · rintro (⟨rfl, rfl⟩ | ⟨other, hother, rfl⟩)
            · exact ⟨name, .inl ⟨rfl, rfl⟩, rfl⟩
            · exact ⟨other, .inr hother, rfl⟩
          · rintro ⟨other, ⟨rfl, rfl⟩ | hother, rfl⟩
            · exact .inl ⟨rfl, rfl⟩
            · exact .inr ⟨other, hother, rfl⟩

end Fields

end NightWatch.Lib.Slots
