import NightWatch.Lib.CanonicalText

/-!
Data up to the order of the elements of its arrays.
-/

namespace NightWatch.Lib.Reordering

open Lib.JsText Lib.JsData
open Lib.JsData.JsValue (field)
open Lib.CanonicalText (Same same_refl)

/-- Equality of data up to the order of the elements of arrays, at any depth, and of the
fields of objects. -/
inductive Rearranged : JsValue → JsValue → Prop
  | undefined : Rearranged .undefined .undefined
  | null : Rearranged .null .null
  | bool (b : Bool) : Rearranged (.bool b) (.bool b)
  | num (n : JsNumber) : Rearranged (.num n) (.num n)
  | str (s : JsString) : Rearranged (.str s) (.str s)
  | arr {items items' left right : List JsValue} (hleft : left.Perm items)
      (hright : right.Perm items') (hlength : left.length = right.length)
      (hitems : ∀ i (h : i < left.length) (h' : i < right.length), Rearranged left[i] right[i]) :
      Rearranged (.arr items) (.arr items')
  | obj {fields fields' : List (JsString × JsValue)}
      (hfields : ∀ name, Rearranged (field fields name) (field fields' name)) :
      Rearranged (.obj fields) (.obj fields')

variable {v w : JsValue}

theorem Rearranged.of_same (h : Same v w) : Rearranged v w := by
  induction h with
  | undefined => exact .undefined
  | null => exact .null
  | bool b => exact .bool b
  | num n => exact .num n
  | str s => exact .str s
  | arr hlength _ ih => exact .arr (.refl _) (.refl _) hlength ih
  | obj _ ih => exact .obj ih

theorem Rearranged.refl (v : JsValue) : Rearranged v v := .of_same (same_refl v)

theorem Rearranged.symm (h : Rearranged v w) : Rearranged w v := by
  induction h with
  | undefined => exact .undefined
  | null => exact .null
  | bool b => exact .bool b
  | num n => exact .num n
  | str s => exact .str s
  | arr hleft hright hlength _ ih =>
      exact .arr hright hleft hlength.symm fun i h h' => ih i h' h
  | obj _ ih => exact .obj ih

theorem rearranged_arr {items items' left right : List JsValue} (hleft : left.Perm items)
    (hright : right.Perm items') (h : List.Forall₂ Rearranged left right) :
    Rearranged (.arr items) (.arr items') := by
  obtain ⟨hlength, hitems⟩ := List.forall₂_iff_get.mp h
  exact .arr hleft hright hlength hitems

theorem forall₂_trans {α : Type} {p q r : α → α → Prop} {xs ys zs : List α}
    (hpqr : ∀ x y z, p x y → q y z → r x z) (hxy : List.Forall₂ p xs ys)
    (hyz : List.Forall₂ q ys zs) : List.Forall₂ r xs zs := by
  induction hxy generalizing zs with
  | nil =>
      cases hyz
      exact .nil
  | cons hhead _ ih =>
      cases hyz with
      | cons hhead' htail' => exact .cons (hpqr _ _ _ hhead hhead') (ih htail')

theorem Rearranged.trans {u : JsValue} (h : Rearranged u v) (h' : Rearranged v w) :
    Rearranged u w := by
  induction h generalizing w with
  | @arr items items' left right hleft hright hlength hitems ih =>
      cases h' with
      | @arr _ items'' left' right' hleft' hright' hlength' hitems' =>
          -- The first array is put in the order in which the second is compared with the third.
          have hfirst : List.Forall₂ (fun y x => ∀ z, Rearranged y z → Rearranged x z)
              right left := by
            rw [List.forall₂_iff_get]
            exact ⟨hlength.symm, fun i h h' z hz => ih i h' h hz⟩
          obtain ⟨moved, hmoved, hperm⟩ := List.perm_comp_forall₂ (hleft'.trans hright.symm) hfirst
          have hsecond : List.Forall₂ Rearranged left' right' :=
            List.forall₂_iff_get.mpr ⟨hlength', hitems'⟩
          refine rearranged_arr (hperm.trans hleft) hright' ?_
          exact forall₂_trans (fun x y z hxy hyz => hxy z hyz) hmoved.flip hsecond
  | obj _ ih =>
      cases h' with
      | obj hfields' => exact .obj fun name => ih name (hfields' name)
  | _ => exact h'

theorem rearranged_undefined (h : Rearranged .undefined v) : v = .undefined := by
  cases h
  rfl

end NightWatch.Lib.Reordering
