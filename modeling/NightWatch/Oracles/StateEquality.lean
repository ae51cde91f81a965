import NightWatch.Oracles.StateKeys

namespace NightWatch.Oracles.StateEquality

open Lib.JsText Lib.JsData
open Lib.JsData.JsValue (field)
open Lib.Framed (ends_nil)
open Lib.Reordering Oracles.Projections Oracles.Invariants Oracles.ShownValues Oracles.StateKeys

section Equality

variable {limits : ProjectionLimits} {ctx : ProjectionContext}

theorem type_shown (v : JsValue) : (shown limits ctx v).type = typeOf v := by
  cases v <;> rw [shown] <;> rfl

theorem type_of_equals {left right : ProjectionNode} (h : semanticStateEquals left right = true) :
    left.type = right.type := by
  cases left <;> cases right <;>
    first | rfl | simp [semanticStateEquals, ProjectionNode.type] at h

variable {v w : JsValue} {fields fields' : List (JsString × JsValue)}

theorem typeOf_of_equals
    (h : semanticStateEquals (shown limits ctx v) (shown limits ctx w) = true) :
    typeOf v = typeOf w := by
  have htype := type_of_equals h
  rwa [type_shown, type_shown] at htype

theorem fieldsEqual_iff {fields fields' : List (JsString × ProjectionNode)} :
    fieldsEqual fields fields' = true ↔
      List.Forall₂ (fun a b => a.1 = b.1 ∧ semanticStateEquals a.2 b.2 = true) fields fields' := by
  induction fields generalizing fields' with
  | nil =>
      cases fields' with
      | nil => simp [fieldsEqual]
      | cons entry rest => simp [fieldsEqual]
  | cons entry rest ih =>
      cases fields' with
      | nil => simp [fieldsEqual]
      | cons entry' rest' => simp [fieldsEqual, ih, and_assoc]

theorem forall₂_imp_mem {α β : Type} {p q : α → β → Prop} {xs : List α} {ys : List β}
    (h : List.Forall₂ p xs ys) (hpq : ∀ x ∈ xs, ∀ y ∈ ys, p x y → q x y) :
    List.Forall₂ q xs ys := by
  obtain ⟨hlength, hzip⟩ := List.forall₂_iff_zip.mp h
  refine List.forall₂_iff_zip.mpr ⟨hlength, fun hmem => ?_⟩
  exact hpq _ (List.of_mem_zip hmem).1 _ (List.of_mem_zip hmem).2 (hzip hmem)

theorem matched_of_rearranged (hnames : (fields.map Prod.fst).insertionSort textLe =
      (fields'.map Prod.fst).insertionSort textLe)
    (h : ∀ name, Rearranged (field fields name) (field fields' name)) : Matched fields fields' := by
  rw [Matched, byName, byName, hnames, List.forall₂_map_left_iff, List.forall₂_map_right_iff,
    List.forall₂_same]
  exact fun name _ => ⟨rfl, h name⟩

theorem equals_obj :
    semanticStateEquals (shown limits ctx (.obj fields)) (shown limits ctx (.obj fields')) = true ↔
      List.Forall₂ (fun a b => a.1 = b.1 ∧ semanticStateEquals (shown limits ctx a.2)
        (shown limits ctx b.2) = true) (byName fields) (byName fields') := by
  rw [shown_obj, shown_obj, objectOf, objectOf, semanticStateEquals, fieldsEqual_iff,
    List.forall₂_map_left_iff, List.forall₂_map_right_iff]

theorem equals_arr {items items' : List JsValue}
    (hlength : items.length ≤ limits.maxArrayItemsInspected)
    (hlength' : items'.length ≤ limits.maxArrayItemsInspected) :
    semanticStateEquals (shown limits ctx (.arr items)) (shown limits ctx (.arr items')) = true ↔
      items.length = items'.length ∧
        sortedKeys (items.map (key limits ctx)) = sortedKeys (items'.map (key limits ctx)) := by
  have hkeys : ∀ items : List JsValue,
      itemKeys (items.map (shown limits ctx)) = items.map (key limits ctx) := by
    intro items
    rw [itemKeys_eq, List.map_map]
    rfl
  rw [shown_whole_arr hlength, shown_whole_arr hlength', arrayOf, arrayOf, semanticStateEquals]
  · simp [arraysEqual, ProjectionNode.type, ProjectionNode.itemCount, ProjectionNode.items,
      ProjectionNode.arrayTruncated, hkeys]
  all_goals simp

theorem rearranged_of_key (hctx : Numbered ctx) {v w : JsValue} (hv : Whole limits ctx v)
    (hw : Whole limits ctx w) (h : key limits ctx v = key limits ctx w) : Rearranged v w := by
  have happend : key limits ctx v ++ [] = key limits ctx w ++ [] := by rw [h]
  exact (reads_key hctx hv w [] [] hw ends_nil ends_nil happend).1

theorem rearranged_of_equals (hctx : Numbered ctx) {v w : JsValue} (hv : Whole limits ctx v)
    (hw : Whole limits ctx w)
    (h : semanticStateEquals (shown limits ctx v) (shown limits ctx w) = true) :
    Rearranged v w := by
  have htype := typeOf_of_equals h
  induction hv generalizing w with
  | null =>
      cases hw with
      | null => exact .null
      | _ => contradiction
  | bool b =>
      cases hw with
      | bool b' =>
          rw [shown, shown, semanticStateEquals, decide_eq_true_eq, Option.some.injEq] at h
          rw [h]
          exact .bool b'
      | _ => contradiction
  | num href =>
      cases hw with
      | num href' =>
          rw [shown, shown, semanticStateEquals, decide_eq_true_eq, labeledNumber, labeledNumber,
            href'] at h
          rw [hctx.numerics.inj h href']
          exact .num _
      | _ => contradiction
  | str htoken =>
      cases hw with
      | str htoken' =>
          rw [shown, shown, semanticStateEquals, Bool.and_eq_true, decide_eq_true_eq,
            decide_eq_true_eq, htoken'] at h
          rw [hctx.identities.inj h.2 htoken']
          exact .str _
      | _ => contradiction
  | arr hlength hitems _ =>
      cases hw with
      | arr hlength' hitems' =>
          obtain ⟨hcount, hsorted⟩ := (equals_arr hlength hlength').mp h
          refine rearranged_of_key hctx (.arr hlength hitems) (.arr hlength' hitems') ?_
          rw [key_arr hlength, key_arr hlength', ← sortedKeys_eq, ← sortedKeys_eq, hsorted, hcount]
      | _ => contradiction
  | obj hnodup hvalues ih =>
      cases hw with
      | obj hnodup' hvalues' =>
          refine rearranged_of_matched hnodup hnodup' (forall₂_imp_mem (equals_obj.mp h) ?_)
          rintro a ha b hb ⟨hname, hequal⟩
          exact ⟨hname, ih a ((mem_byName hnodup).mp ha)
            (hvalues' b ((mem_byName hnodup').mp hb)) hequal (typeOf_of_equals hequal)⟩
      | _ => contradiction

theorem equals_of_rearranged (hv : Whole limits ctx v) (hw : Whole limits ctx w)
    (h : Rearranged v w) :
    semanticStateEquals (shown limits ctx v) (shown limits ctx w) = true := by
  induction hv generalizing w with
  | null =>
      cases h
      rw [shown, semanticStateEquals]
  | bool b =>
      cases h
      rw [shown, semanticStateEquals, decide_eq_true_eq]
  | num href =>
      cases h
      rw [shown, semanticStateEquals, decide_eq_true_eq]
  | str htoken =>
      cases h
      rw [shown, semanticStateEquals, Bool.and_eq_true, decide_eq_true_eq, decide_eq_true_eq]
      exact ⟨rfl, rfl⟩
  | arr hlength hitems _ =>
      cases h with
      | arr hleft hright hcount hrearranged =>
          cases hw with
          | arr hlength' hitems' =>
              refine (equals_arr hlength hlength').mpr
                (keys_of_rearranged hleft hright hcount fun i hi hi' => ?_)
              exact key_of_rearranged (hrearranged i hi hi')
                (hitems _ (hleft.mem_iff.mp (List.getElem_mem hi)))
                (hitems' _ (hright.mem_iff.mp (List.getElem_mem hi')))
  | obj hnodup hvalues ih =>
      cases h with
      | obj hfields =>
          cases hw with
          | obj hnodup' hvalues' =>
              have hnames := names_of_rearranged hnodup hnodup' hvalues hvalues' hfields
              refine equals_obj.mpr (forall₂_imp_mem (matched_of_rearranged hnames hfields) ?_)
              rintro a ha b hb ⟨hname, hrearranged⟩
              exact ⟨hname, ih a ((mem_byName hnodup).mp ha)
                (hvalues' b ((mem_byName hnodup').mp hb)) hrearranged⟩

theorem equals_iff (hctx : Numbered ctx) {v w : JsValue} (hv : Whole limits ctx v)
    (hw : Whole limits ctx w) :
    semanticStateEquals (shown limits ctx v) (shown limits ctx w) = true ↔ Rearranged v w :=
  ⟨rearranged_of_equals hctx hv hw, equals_of_rearranged hv hw⟩

end Equality

section Contexts

variable {limits : ProjectionLimits} {ctx : ProjectionContext}
  {seen : List (JsValue × ProjectionNode)}

/-- A context and the values projected in it one after the other, with their projections, none of
them cut short. -/
inductive Shared (limits : ProjectionLimits) :
    ProjectionContext → List (JsValue × ProjectionNode) → Prop
  | start {ctx : ProjectionContext} (hused : Used ctx) : Shared limits ctx []
  | project {ctx ctx' : ProjectionContext} {seen : List (JsValue × ProjectionNode)}
      {value : JsValue} {result : ProjectObservationResult} (h : Shared limits ctx seen)
      (hdata : IsData value) (huncut : Untruncated limits value)
      (hrun : projectValue limits value ctx = .ok (result, ctx')) :
      Shared limits ctx' ((value, result.root) :: seen)

theorem known_of_shared (h : Shared limits ctx seen) : Numbered ctx ∧ ∀ entry ∈ seen,
    ∀ later, Advances ctx later →
      entry.2 = shown limits later entry.1 ∧ Whole limits later entry.1 := by
  induction h with
  | start hused => exact ⟨numbered_of_used hused, fun _ hentry => absurd hentry List.not_mem_nil⟩
  | project _ hdata huncut hrun ih =>
      obtain ⟨hadvances, hresult⟩ := projectValue_eq hdata hrun
      refine ⟨hadvances.numbered ih.1, fun entry hentry later hlater => ?_⟩
      rcases List.mem_cons.mp hentry with rfl | hseen
      · obtain ⟨hnode, hprojected⟩ := hresult later hlater
        exact ⟨hnode, whole_of_projected hprojected huncut⟩
      · exact ih.2 entry hseen later (hadvances.trans hlater)

/-- In one context, projections are equal exactly where their values are rearrangements of each
other, so that equality is an equivalence. -/
theorem equality_of_shared (h : Shared limits ctx seen) :
    (∀ a ∈ seen, ∀ b ∈ seen, semanticStateEquals a.2 b.2 = true ↔ Rearranged a.1 b.1) ∧
      Equivalence fun a b : {entry // entry ∈ seen} =>
        semanticStateEquals a.val.2 b.val.2 = true := by
  obtain ⟨hctx, hknown⟩ := known_of_shared h
  have hiff : ∀ a ∈ seen, ∀ b ∈ seen,
      semanticStateEquals a.2 b.2 = true ↔ Rearranged a.1 b.1 := by
    intro a ha b hb
    obtain ⟨hnode, hwhole⟩ := hknown a ha ctx (Advances.refl ctx)
    obtain ⟨hnode', hwhole'⟩ := hknown b hb ctx (Advances.refl ctx)
    rw [hnode, hnode']
    exact equals_iff hctx hwhole hwhole'
  refine ⟨hiff, fun a => ?_, fun {a b} hab => ?_, fun {a b c} hab hbc => ?_⟩
  · exact (hiff a a.property a a.property).mpr (.refl _)
  · exact (hiff b b.property a a.property).mpr ((hiff a a.property b b.property).mp hab).symm
  · exact (hiff a a.property c c.property).mpr (((hiff a a.property b b.property).mp hab).trans
      ((hiff b b.property c c.property).mp hbc))

def row : JsValue := .arr [.num (.finite 1), .str ['x']]

def turnedRow : JsValue := .arr [.str ['x'], .num (.finite 1)]

def numberNode : ProjectionNode := .number (some "numeric#0001".toList)

def textNode : ProjectionNode := .string (some .nonempty) (some "entity#0001".toList)

def rowContext : ProjectionContext :=
  ⟨Hook.defaultProjectionLimits, [(['x'], "entity#0001".toList)],
    [(1, "numeric#0001".toList)], 1, 1⟩

theorem row_projected : projectValue Hook.defaultProjectionLimits row
    (.fresh Hook.defaultProjectionLimits) =
      .ok (⟨arrayOf 2 [numberNode, textNode], 3⟩, rowContext) := rfl

theorem turnedRow_projected : projectValue Hook.defaultProjectionLimits turnedRow rowContext =
    .ok (⟨arrayOf 2 [textNode, numberNode], 3⟩, rowContext) := rfl

theorem isData_row : IsData row ∧ IsData turnedRow := by
  constructor
  · exact .arr (List.forall_mem_cons.mpr ⟨.num 1, List.forall_mem_singleton.mpr (.str _)⟩)
  · exact .arr (List.forall_mem_cons.mpr ⟨.str _, List.forall_mem_singleton.mpr (.num 1)⟩)

theorem untruncated_row : Untruncated Hook.defaultProjectionLimits row ∧
    Untruncated Hook.defaultProjectionLimits turnedRow := by
  constructor
  · exact .arr (by decide)
      (List.forall_mem_cons.mpr ⟨.num _, List.forall_mem_singleton.mpr (.str _)⟩)
  · exact .arr (by decide)
      (List.forall_mem_cons.mpr ⟨.str _, List.forall_mem_singleton.mpr (.num _)⟩)

theorem equality_of_shared_rows :
    semanticStateEquals (arrayOf 2 [textNode, numberNode]) (arrayOf 2 [numberNode, textNode]) =
      true ↔ Rearranged turnedRow row :=
  (equality_of_shared (.project (.project (.start (.fresh Hook.defaultProjectionLimits))
    isData_row.1 untruncated_row.1 row_projected) isData_row.2 untruncated_row.2
      turnedRow_projected)).1 _ List.mem_cons_self _ (List.mem_cons_of_mem _ List.mem_cons_self)

end Contexts

end NightWatch.Oracles.StateEquality
