import NightWatch.Lib.Framed
import NightWatch.Lib.TextOrder
import NightWatch.Oracles.Hook
import NightWatch.Oracles.ShownValues

namespace NightWatch.Oracles.ProjectionTexts

open Lib.JsText Lib.JsData Lib.JsRuntime Lib.Framed Oracles.Projections
open Oracles.Invariants (braced booleanText)
open Oracles.Semantic
open Oracles.Hook (defaultProjectionLimits)
open Oracles.ShownValues

section Writing

variable {rt : Runtime}

/-- The node has a text. -/
def Written (rt : Runtime) (node : ProjectionNode) : Prop := ∃ text, writeNode rt node = some text

def nodeText (rt : Runtime) (node : ProjectionNode) : JsString := (writeNode rt node).getD []

def writtenField (rt : Runtime) (entry : JsString × ProjectionNode) : JsString :=
  braced [canonicalName rt "name" ++ ':' :: canonicalString rt entry.1,
    canonicalName rt "node" ++ ':' :: nodeText rt entry.2]

def WrittenField (rt : Runtime) (entry : JsString × ProjectionNode) : Prop :=
  isFieldName entry.1 = true ∧ Written rt entry.2

variable {items : List ProjectionNode} {texts : List JsString}
  {fields : List (JsString × ProjectionNode)}

theorem writeItems_eq_some : writeItems rt items = some texts ↔
      (∀ item ∈ items, Written rt item) ∧ texts = items.map (nodeText rt) := by
  induction items generalizing texts with
  | nil => simp [writeItems, eq_comm]
  | cons item rest ih =>
      simp only [writeItems, Option.bind_eq_bind, Option.bind_eq_some_iff, ih, List.forall_mem_cons,
        List.map_cons, Option.pure_def, Option.some.injEq]
      constructor
      · rintro ⟨text, htext, more, ⟨hrest, rfl⟩, rfl⟩
        exact ⟨⟨⟨text, htext⟩, hrest⟩, by rw [nodeText, htext, Option.getD_some]⟩
      · rintro ⟨⟨⟨text, htext⟩, hrest⟩, rfl⟩
        exact ⟨text, htext, _, ⟨hrest, rfl⟩, by rw [nodeText, htext, Option.getD_some]⟩

theorem writeFields_eq_some : writeFields rt fields = some texts ↔
      (∀ entry ∈ fields, WrittenField rt entry) ∧ texts = fields.map (writtenField rt) := by
  induction fields generalizing texts with
  | nil => simp [writeFields, eq_comm]
  | cons entry rest ih =>
      obtain ⟨name, node⟩ := entry
      simp only [writeFields, Option.bind_eq_bind, Option.bind_eq_some_iff, ih,
        List.forall_mem_cons, List.map_cons, Option.pure_def, Option.some.injEq,
        Option.guard_eq_some', exists_const, WrittenField, writtenField]
      constructor
      · rintro ⟨hname, text, htext, more, ⟨hrest, rfl⟩, rfl⟩
        exact ⟨⟨⟨hname, text, htext⟩, hrest⟩, by rw [nodeText, htext, Option.getD_some]⟩
      · rintro ⟨⟨⟨hname, text, htext⟩, hrest⟩, rfl⟩
        exact ⟨hname, text, htext, _, ⟨hrest, rfl⟩, by rw [nodeText, htext, Option.getD_some]⟩

def booleanParts (rt : Runtime) (b : Bool) : List JsString :=
  [canonicalName rt "booleanClass", canonicalString rt (booleanText b)]

def numberParts (rt : Runtime) (ref : JsString) : List JsString :=
  [canonicalName rt "numericRef", canonicalString rt ref]

def stringParts (rt : Runtime) (content : StringContentClass) (token : JsString) : List JsString :=
  [canonicalName rt "identityToken", canonicalString rt token,
    canonicalName rt "stringClass", canonicalString rt (stringClassName content)]

def objectParts (rt : Runtime) (fields : List (JsString × ProjectionNode)) : List JsString :=
  [canonicalName rt "fieldCount", decimal fields.length, canonicalName rt "fields",
    listed (fields.map (writtenField rt))]

def arrayParts (rt : Runtime) (type : ItemType) (count : Nat) (items : List ProjectionNode) :
    List JsString :=
  [canonicalName rt "itemType", canonicalString rt (itemTypeName type),
    canonicalName rt "itemCount", decimal count,
    canonicalName rt "inspectedCount", decimal items.length,
    canonicalName rt "items", listed (items.map (nodeText rt)),
    canonicalName rt "arrayTruncated",
    if items.length < count then "true".toList else "false".toList]

variable {text : JsString}

theorem writeNode_null : writeNode rt .null = some text ↔ text = writeParts rt .null [] := by
  rw [writeNode, Option.some.injEq, eq_comm]

theorem writeNode_boolean {booleanClass : Option Bool} :
    writeNode rt (.boolean booleanClass) = some text ↔
      ∃ b, booleanClass = some b ∧ text = writeParts rt .boolean (booleanParts rt b) := by
  simp only [writeNode, Option.bind_eq_bind, Option.bind_eq_some_iff, Option.pure_def,
    Option.some.injEq, booleanParts, @eq_comm _ text]

theorem writeNode_number {numericRef : Option JsString} :
    writeNode rt (.number numericRef) = some text ↔
      ∃ ref, (numericRef = some ref ∧ isLabel "numeric" ref = true) ∧
        text = writeParts rt .number (numberParts rt ref) := by
  simp only [writeNode, Option.bind_eq_bind, Option.bind_eq_some_iff, Option.pure_def,
    Option.filter_eq_some_iff, Option.some.injEq, numberParts, @eq_comm _ text]

theorem writeNode_string {stringClass : Option StringContentClass}
    {identityToken : Option JsString} :
    writeNode rt (.string stringClass identityToken) = some text ↔
      ∃ content, stringClass = some content ∧ ∃ token,
        (identityToken = some token ∧ isLabel "entity" token = true) ∧
          text = writeParts rt .string (stringParts rt content token) := by
  simp only [writeNode, Option.bind_eq_bind, Option.bind_eq_some_iff, Option.pure_def,
    Option.filter_eq_some_iff, Option.some.injEq, stringParts, @eq_comm _ text]

theorem writeNode_object {fieldCount : Option Nat} : writeNode rt
    (.object fieldCount fields) = some text ↔
      (fieldCount = some fields.length ∧ fields.length ≤ maxSerializedFields ∧
        inNameOrder (fields.map Prod.fst) = true ∧ ∀ entry ∈ fields, WrittenField rt entry) ∧
      text = writeParts rt .object (objectParts rt fields) := by
  simp only [writeNode, boundedInteger, Option.bind_eq_bind, Option.bind_eq_some_iff,
    Option.filter_eq_some_iff, Option.guard_eq_some', exists_const, writeFields_eq_some,
    decide_eq_true_eq, Option.pure_def, Option.some.injEq]
  constructor
  · rintro ⟨count, ⟨rfl, hbound⟩, rfl, horder, texts, ⟨hfields, rfl⟩, rfl⟩
    exact ⟨⟨rfl, hbound, horder, hfields⟩, rfl⟩
  · rintro ⟨⟨rfl, hbound, horder, hfields⟩, rfl⟩
    exact ⟨_, ⟨rfl, hbound⟩, rfl, horder, _, ⟨hfields, rfl⟩, rfl⟩

theorem writeNode_array {itemType : Option ItemType} {itemCount inspectedCount : Option Nat}
    {arrayTruncated : Option Bool} :
    writeNode rt (.array itemType itemCount inspectedCount items arrayTruncated) = some text ↔
      ∃ type count, itemType = some type ∧ itemCount = some count ∧
        count ≤ maxSerializedCount ∧ inspectedCount = some items.length ∧
        items.length ≤ count ∧ arrayTruncated = some (decide (items.length < count)) ∧
        (∀ item ∈ items, Written rt item) ∧
        text = writeParts rt .array (arrayParts rt type count items) := by
  simp only [writeNode, boundedInteger, Option.bind_eq_bind, Option.bind_eq_some_iff,
    Option.filter_eq_some_iff, Option.guard_eq_some', exists_const, writeItems_eq_some,
    decide_eq_true_eq, Bool.and_eq_true, Option.pure_def, Option.some.injEq]
  constructor
  · rintro ⟨type, rfl, count, ⟨rfl, hcount⟩, inspected, ⟨rfl, hinspected⟩, ⟨hle, rfl⟩, rfl, texts,
      ⟨hitems, rfl⟩, rfl⟩
    exact ⟨type, count, rfl, rfl, hcount, rfl, hle, rfl, hitems, rfl⟩
  · rintro ⟨type, count, rfl, rfl, hcount, rfl, hle, rfl, hitems, rfl⟩
    exact ⟨type, rfl, count, ⟨rfl, hcount⟩, _, ⟨rfl, hle.trans hcount⟩, ⟨hle, rfl⟩, rfl, _,
      ⟨hitems, rfl⟩, rfl⟩

end Writing

section Reading

/-- A writer of string literals: each stops where it can be seen to stop. -/
def WritesLiterals (write : JsString → JsString) : Prop :=
  ∀ s t r r', write s ++ r = write t ++ r' → s = t ∧ r = r'

variable {rt : Runtime}

theorem writeParts_append (rt : Runtime) (type : ProjectionNodeType) (parts : List JsString)
    (r : JsString) : writeParts rt type parts ++ r = '\x7b' :: (canonicalName rt "type" ++
      ',' :: (canonicalString rt (typeName type) ++ behindCommas id parts ('\x7d' :: r))) := by
  have hjoin := join_append id (canonicalName rt "type")
    (canonicalString rt (typeName type) :: parts) ('\x7d' :: r)
  have hopen : writeParts rt type parts ++ r = '\x7b' :: (NightWatch.Lib.JsText.join ','
      (canonicalName rt "type" :: canonicalString rt (typeName type) :: parts) ++ '\x7d' :: r) := by
    simp [writeParts, braced]
  rw [List.map_id] at hjoin
  rw [hopen, hjoin]
  rfl

theorem listed_append (parts : List JsString) (r : JsString) :
    listed parts ++ r = '[' :: (NightWatch.Lib.JsText.join ',' parts ++ ']' :: r) := by
  simp [listed]

theorem itemTypeName_injective : Function.Injective itemTypeName := by
  intro type type' h
  cases type with
  | of type =>
      cases type' with
      | of type' => rw [typeName_injective h]
      | mixed => cases type <;> exact absurd h (by decide)
  | mixed =>
      cases type' with
      | of type' => cases type' <;> exact absurd h (by decide)
      | mixed => rfl

theorem stringClassName_injective : Function.Injective stringClassName := by
  intro content content' h
  cases content <;> cases content' <;> first | rfl | exact absurd h (by decide)

theorem booleanText_injective : Function.Injective booleanText := by
  intro b b' h
  cases b <;> cases b' <;> first | rfl | exact absurd h (by decide)

variable {node : ProjectionNode} {parts parts' : List JsString} {r r' : JsString}

theorem exists_parts (h : Written rt node) :
    ∃ parts, nodeText rt node = writeParts rt node.type parts := by
  obtain ⟨text, htext⟩ := h
  rw [nodeText, htext, Option.getD_some]
  cases node with
  | null => exact ⟨_, writeNode_null.mp htext⟩
  | boolean booleanClass =>
      obtain ⟨b, -, htext⟩ := writeNode_boolean.mp htext
      exact ⟨_, htext⟩
  | number numericRef =>
      obtain ⟨ref, -, htext⟩ := writeNode_number.mp htext
      exact ⟨_, htext⟩
  | string stringClass identityToken =>
      obtain ⟨content, -, token, -, htext⟩ := writeNode_string.mp htext
      exact ⟨_, htext⟩
  | object fieldCount fields => exact ⟨_, (writeNode_object.mp htext).2⟩
  | array itemType itemCount inspectedCount items arrayTruncated =>
      obtain ⟨type, count, -, -, -, -, -, -, -, htext⟩ := writeNode_array.mp htext
      exact ⟨_, htext⟩
  | unlisted itemType itemCount inspectedCount arrayTruncated =>
      rw [writeNode] at htext
      contradiction

theorem opens_nodeText (h : Written rt node) : Opens (nodeText rt node) := by
  obtain ⟨parts, hparts⟩ := exists_parts h
  have htext := writeParts_append rt node.type parts []
  rw [List.append_nil, ← hparts] at htext
  exact ⟨_, _, htext, rfl⟩

variable (hliterals : WritesLiterals (canonicalString rt))
include hliterals

theorem parts_inj {type type' : ProjectionNodeType}
    (h : writeParts rt type parts ++ r = writeParts rt type' parts' ++ r') :
    type = type' ∧ behindCommas id parts ('\x7d' :: r) = behindCommas id parts' ('\x7d' :: r') := by
  rw [writeParts_append, writeParts_append, List.cons.injEq] at h
  have htypes := (List.cons.inj (hliterals _ _ _ _ h.2).2).2
  obtain ⟨hname, hrest⟩ := hliterals _ _ _ _ htypes
  exact ⟨typeName_injective hname, hrest⟩

theorem named_inj {name : String} (h : behindCommas id (canonicalName rt name :: parts) r =
      behindCommas id (canonicalName rt name :: parts') r') :
    behindCommas id parts r = behindCommas id parts' r' :=
  (hliterals _ _ _ _ (List.cons.inj h).2).2

theorem literal_inj {s t : JsString} (h : behindCommas id (canonicalString rt s :: parts) r =
      behindCommas id (canonicalString rt t :: parts') r') :
    s = t ∧ behindCommas id parts r = behindCommas id parts' r' :=
  hliterals _ _ _ _ (List.cons.inj h).2

omit hliterals in
theorem count_inj {m n : Nat} {part part' : JsString}
    (h : behindCommas id (decimal m :: part :: parts) r =
      behindCommas id (decimal n :: part' :: parts') r') :
    m = n ∧ behindCommas id (part :: parts) r = behindCommas id (part' :: parts') r' := by
  exact decimal_append_inj (ends_cons rfl _) (ends_cons rfl _) (List.cons.inj h).2

theorem type_inj {node' : ProjectionNode} (h : Written rt node) (h' : Written rt node')
    {r r' : JsString} (htext : nodeText rt node ++ r = nodeText rt node' ++ r') :
    node.type = node'.type := by
  obtain ⟨parts, hparts⟩ := exists_parts h
  obtain ⟨parts', hparts'⟩ := exists_parts h'
  rw [hparts, hparts'] at htext
  exact (parts_inj hliterals htext).1

omit hliterals in
theorem nodeText_of {text : JsString} (h : writeNode rt node = some text) :
    nodeText rt node = text := by
  rw [nodeText, h, Option.getD_some]

omit hliterals in
theorem writtenField_append (entry : JsString × ProjectionNode) (r : JsString) :
    writtenField rt entry ++ r = '\x7b' :: (canonicalName rt "name" ++ ':' ::
      (canonicalString rt entry.1 ++ ',' :: (canonicalName rt "node" ++ ':' ::
        (nodeText rt entry.2 ++ '\x7d' :: r)))) := by
  simp [writtenField, braced, NightWatch.Lib.Joined.join_cons_cons]

theorem reads_writtenField {entry : JsString × ProjectionNode}
    (h : Reads (nodeText rt) (· = ·) (Written rt) entry.2) :
    Reads (writtenField rt) (· = ·) (WrittenField rt) entry := by
  rintro ⟨name, node⟩ r r' hentry - - htext
  rw [writtenField_append, writtenField_append, List.cons.injEq] at htext
  have hafter := (hliterals _ _ _ _ htext.2).2
  obtain ⟨hname, hnode⟩ := hliterals _ _ _ _ (List.cons.inj hafter).2
  have hnode := (hliterals _ _ _ _ (List.cons.inj hnode).2).2
  obtain ⟨rfl, hrest⟩ := h node _ _ hentry.2 (ends_cons rfl r) (ends_cons rfl r')
    (List.cons.inj hnode).2
  exact ⟨Prod.ext hname rfl, (List.cons.inj hrest).2⟩

omit hliterals in
theorem opens_writtenField (entry : JsString × ProjectionNode) : Opens (writtenField rt entry) :=
  ⟨'\x7b', _, rfl, rfl⟩

omit hliterals in
theorem listed_inj {α : Type} {write : α → JsString} (legal : α → Prop) {xs ys : List α}
    {parts parts' : List JsString} {r r' : JsString}
    (hread : ∀ x ∈ xs, Reads write (· = ·) legal x) (hopens : ∀ x, legal x → Opens (write x))
    (hxs : ∀ x ∈ xs, legal x) (hys : ∀ y ∈ ys, legal y)
    (h : behindCommas id (listed (xs.map write) :: parts) r =
      behindCommas id (listed (ys.map write) :: parts') r') :
    xs = ys ∧ behindCommas id parts r = behindCommas id parts' r' := by
  have hlists := (List.cons.inj h).2
  simp only [id_eq, listed_append, List.cons.injEq, true_and] at hlists
  obtain ⟨hall, hrest⟩ := join_inj (c := ']') rfl (by decide) hread
    (fun x hx => hopens x (hxs x hx)) hys (fun y hy => hopens y (hys y hy)) hlists
  exact ⟨List.forall₂_eq_eq_eq ▸ hall, hrest⟩

omit hliterals in
theorem not_written_unlisted {itemType : Option ItemType} {itemCount inspectedCount : Option Nat}
    {arrayTruncated : Option Bool} :
    ¬Written rt (.unlisted itemType itemCount inspectedCount arrayTruncated) := by
  rintro ⟨text, hwrite⟩
  rw [writeNode] at hwrite
  contradiction

theorem reads_of (h : Written rt node)
    (hread : ∀ node' text text' r r', node.type = node'.type → writeNode rt node = some text →
      writeNode rt node' = some text' → text ++ r = text' ++ r' → node = node' ∧ r = r') :
    Reads (nodeText rt) (· = ·) (Written rt) node := by
  intro node' r r' h' _ _ htext
  have htype := type_inj hliterals h h' htext
  obtain ⟨text, hwrite⟩ := h
  obtain ⟨text', hwrite'⟩ := h'
  rw [nodeText_of hwrite, nodeText_of hwrite'] at htext
  exact hread node' text text' r r' htype hwrite hwrite' htext

mutual

theorem reads_node : (node : ProjectionNode) → Written rt node →
    Reads (nodeText rt) (· = ·) (Written rt) node
  | .null, h => by
      intro node' r r' h' _ _ htext
      have htype := type_inj hliterals h h' htext
      cases node' with
      | null => exact ⟨rfl, List.append_cancel_left htext⟩
      | _ => contradiction
  | .boolean booleanClass, h => by
      refine reads_of hliterals h fun node' text text' r r' htype hwrite hwrite' htext => ?_
      cases node' with
      | boolean booleanClass' =>
          obtain ⟨b, rfl, rfl⟩ := writeNode_boolean.mp hwrite
          obtain ⟨b', rfl, rfl⟩ := writeNode_boolean.mp hwrite'
          obtain ⟨hclass, hrest⟩ := literal_inj hliterals
            (named_inj hliterals (parts_inj hliterals htext).2)
          rw [booleanText_injective hclass]
          exact ⟨rfl, (List.cons.inj hrest).2⟩
      | _ => contradiction
  | .number numericRef, h => by
      refine reads_of hliterals h fun node' text text' r r' htype hwrite hwrite' htext => ?_
      cases node' with
      | number numericRef' =>
          obtain ⟨ref, ⟨rfl, -⟩, rfl⟩ := writeNode_number.mp hwrite
          obtain ⟨ref', ⟨rfl, -⟩, rfl⟩ := writeNode_number.mp hwrite'
          obtain ⟨rfl, hrest⟩ := literal_inj hliterals
            (named_inj hliterals (parts_inj hliterals htext).2)
          exact ⟨rfl, (List.cons.inj hrest).2⟩
      | _ => contradiction
  | .string stringClass identityToken, h => by
      refine reads_of hliterals h fun node' text text' r r' htype hwrite hwrite' htext => ?_
      cases node' with
      | string stringClass' identityToken' =>
          obtain ⟨content, rfl, token, ⟨rfl, -⟩, rfl⟩ := writeNode_string.mp hwrite
          obtain ⟨content', rfl, token', ⟨rfl, -⟩, rfl⟩ := writeNode_string.mp hwrite'
          obtain ⟨rfl, hclass⟩ := literal_inj hliterals
            (named_inj hliterals (parts_inj hliterals htext).2)
          obtain ⟨hclass, hrest⟩ := literal_inj hliterals (named_inj hliterals hclass)
          rw [stringClassName_injective hclass]
          exact ⟨rfl, (List.cons.inj hrest).2⟩
      | _ => contradiction
  | .object fieldCount fields, h => by
      refine reads_of hliterals h fun node' text text' r r' htype hwrite hwrite' htext => ?_
      cases node' with
      | object fieldCount' fields' =>
          obtain ⟨⟨rfl, -, -, hfields⟩, rfl⟩ := writeNode_object.mp hwrite
          obtain ⟨⟨rfl, -, -, hfields'⟩, rfl⟩ := writeNode_object.mp hwrite'
          have hcounts := count_inj (named_inj hliterals (parts_inj hliterals htext).2)
          obtain ⟨rfl, hrest⟩ := listed_inj (WrittenField rt)
            (fun entry hentry => reads_writtenField hliterals
              (reads_fields fields entry hentry (hfields entry hentry).2))
            (fun entry _ => opens_writtenField entry) hfields hfields'
            (named_inj hliterals hcounts.2)
          exact ⟨rfl, (List.cons.inj hrest).2⟩
      | _ => contradiction
  | .array itemType itemCount inspectedCount items arrayTruncated, h => by
      refine reads_of hliterals h fun node' text text' r r' htype hwrite hwrite' htext => ?_
      cases node' with
      | array itemType' itemCount' inspectedCount' items' arrayTruncated' =>
          obtain ⟨type, count, rfl, rfl, -, rfl, -, rfl, hitems, rfl⟩ := writeNode_array.mp hwrite
          obtain ⟨type', count', rfl, rfl, -, rfl, -, rfl, hitems', rfl⟩ :=
            writeNode_array.mp hwrite'
          obtain ⟨htypes, hparts⟩ := literal_inj hliterals
            (named_inj hliterals (parts_inj hliterals htext).2)
          obtain ⟨rfl, hparts⟩ := count_inj (named_inj hliterals hparts)
          obtain ⟨-, hparts⟩ := count_inj (named_inj hliterals hparts)
          obtain ⟨rfl, hparts⟩ := listed_inj (Written rt)
            (fun item hitem => reads_items items item hitem (hitems item hitem))
            (fun item hitem => opens_nodeText hitem) hitems hitems' (named_inj hliterals hparts)
          have hrest := List.append_cancel_left (List.cons.inj (named_inj hliterals hparts)).2
          rw [itemTypeName_injective htypes]
          exact ⟨rfl, (List.cons.inj hrest).2⟩
      | unlisted _ _ _ _ => exact absurd ⟨text', hwrite'⟩ not_written_unlisted
      | _ => contradiction
  | .unlisted _ _ _ _, h => absurd h not_written_unlisted

theorem reads_items : (items : List ProjectionNode) → ∀ item ∈ items, Written rt item →
    Reads (nodeText rt) (· = ·) (Written rt) item
  | [] => fun _ hitem => absurd hitem List.not_mem_nil
  | item :: rest => List.forall_mem_cons.mpr ⟨reads_node item, reads_items rest⟩

theorem reads_fields : (fields : List (JsString × ProjectionNode)) → ∀ entry ∈ fields,
    Written rt entry.2 → Reads (nodeText rt) (· = ·) (Written rt) entry.2
  | [] => fun _ hentry => absurd hentry List.not_mem_nil
  | (_, node) :: rest => List.forall_mem_cons.mpr ⟨reads_node node, reads_fields rest⟩

end

end Reading

section Acceptance

variable {rt : Runtime} {ctx : ProjectionContext}

/-- Data within the bounds of the writer, as far as it is inspected. -/
inductive Writable (limits : ProjectionLimits) : JsValue → Prop
  | null : Writable limits .null
  | bool (b : Bool) : Writable limits (.bool b)
  | num (n : JsNumber) : Writable limits (.num n)
  | str (s : JsString) : Writable limits (.str s)
  | arr {items : List JsValue} (hcount : items.length ≤ maxSerializedCount)
      (hitems : ∀ v ∈ items.take limits.maxArrayItemsInspected, Writable limits v) :
      Writable limits (.arr items)
  | obj {fields : List (JsString × JsValue)}
      (hnames : ∀ entry ∈ fields, utf16Length entry.1 ≤ 200 ∧ '\x00' ∉ entry.1)
      (hvalues : ∀ entry ∈ fields, Writable limits entry.2) : Writable limits (.obj fields)

theorem isLabel_label (stem : String) {n : Nat} (h : n < 10000) :
    isLabel stem (label stem n) = true := by
  have hlabel : label stem n = (stem.toList ++ ['#']) ++ padStart 4 (decimal n) := by
    rw [label, List.append_assoc, List.singleton_append]
  have hstem : (stem.toList ++ ['#']).length = stem.length + 1 := by
    rw [List.length_append, String.length_toList, List.length_singleton]
  have hdrop : (label stem n).drop (stem.length + 1) = padStart 4 (decimal n) := by
    rw [hlabel, ← hstem, List.drop_left]
  have hdigits : (decimal n).length ≤ 4 :=
    (Nat.length_toDigits_le_iff (by decide) (by decide)).mpr h
  have hlength : (padStart 4 (decimal n)).length = 4 := by
    rw [padStart, List.length_append, List.length_replicate]
    omega
  have hall : (padStart 4 (decimal n)).all Char.isDigit = true := by
    rw [List.all_eq_true]
    intro c hc
    rcases List.mem_append.mp hc with hc | hc
    · rw [List.eq_of_mem_replicate hc]
      rfl
    · exact isDigit_of_mem_decimal hc
  rw [isLabel, hdrop, hall, decide_eq_true hlength, Bool.and_true, Bool.and_true, startsWith_iff,
    hlabel]
  exact List.prefix_append _ _

theorem inNameOrder_of_sorted {names : List JsString} (hsorted : names.Pairwise textLe)
    (hnodup : names.Nodup) : inNameOrder names = true := by
  induction names with
  | nil => rfl
  | cons first rest ih =>
      cases rest with
      | nil => rfl
      | cons second rest =>
          obtain ⟨hfirst, hrest⟩ := List.pairwise_cons.mp hsorted
          obtain ⟨hnew, hdistinct⟩ := List.nodup_cons.mp hnodup
          rw [inNameOrder, ih hrest hdistinct, Bool.and_true, Bool.and_eq_true]
          refine ⟨decide_eq_true (hfirst second List.mem_cons_self), decide_eq_true ?_⟩
          rintro rfl
          exact hnew List.mem_cons_self

theorem isFieldName_iff {name : JsString} (h : name ∉ forbiddenFieldNames) :
    isFieldName name = true ↔ utf16Length name ≤ 200 ∧ '\x00' ∉ name := by
  simp [isFieldName, h]

theorem names_byName (fields : List (JsString × JsValue)) :
    (byName fields).map Prod.fst = (fields.map Prod.fst).insertionSort textLe := by
  rw [byName, List.map_map]
  exact List.map_id _

theorem isLabel_of_lookup {α : Type} [BEq α] [LawfulBEq α] {stem : String}
    {table : List (α × JsString)} {counter cap : Nat} {raw : α} {key : JsString}
    (h : Labels stem table counter cap) (hcap : cap ≤ 9999) (hraw : table.lookup raw = some key) :
    isLabel stem key = true := by
  obtain ⟨n, hn, rfl⟩ := h.exists_label hraw
  exact isLabel_label stem (by omega)

theorem written_arrayOf {count : Nat} {nodes : List ProjectionNode} (h : nodes.length ≤ count) :
    Written rt (arrayOf count nodes) ↔
      count ≤ maxSerializedCount ∧ ∀ node ∈ nodes, Written rt node := by
  rw [arrayOf]
  constructor
  · rintro ⟨text, htext⟩
    obtain ⟨_, _, -, hcount, hbound, -, -, -, hnodes, -⟩ := writeNode_array.mp htext
    obtain rfl := Option.some.inj hcount
    exact ⟨hbound, hnodes⟩
  · rintro ⟨hbound, hnodes⟩
    exact ⟨_, writeNode_array.mpr ⟨_, _, rfl, rfl, hbound, rfl, h, rfl, hnodes, rfl⟩⟩

theorem written_objectOf {fields : List (JsString × ProjectionNode)}
    (hlength : fields.length ≤ maxSerializedFields)
    (horder : inNameOrder (fields.map Prod.fst) = true) :
    Written rt (objectOf fields) ↔ ∀ entry ∈ fields, WrittenField rt entry := by
  rw [objectOf]
  constructor
  · rintro ⟨text, htext⟩
    exact (writeNode_object.mp htext).1.2.2.2
  · intro hfields
    exact ⟨_, writeNode_object.mpr ⟨⟨rfl, hlength, horder, hfields⟩, rfl⟩⟩

theorem length_byName (fields : List (JsString × JsValue)) :
    (byName fields).length = fields.length := by
  rw [byName, List.length_map, List.length_insertionSort, List.length_map]

theorem inNameOrder_byName {fields : List (JsString × JsValue)}
    (h : (fields.map Prod.fst).Nodup) : inNameOrder ((byName fields).map Prod.fst) = true := by
  rw [names_byName]
  refine inNameOrder_of_sorted (List.pairwise_insertionSort textLe _) ?_
  exact (List.perm_insertionSort textLe _).nodup_iff.mpr h

theorem written_shown_iff (hctx : Numbered ctx) (hlimits : ctx.limits = defaultProjectionLimits)
    {v : JsValue} (h : Projected defaultProjectionLimits ctx v) :
    Written rt (shown defaultProjectionLimits ctx v) ↔ Writable defaultProjectionLimits v := by
  induction h with
  | null => exact ⟨fun _ => .null, fun _ => ⟨_, by rw [shown]; exact writeNode_null.mpr rfl⟩⟩
  | bool b =>
      refine ⟨fun _ => .bool b, fun _ => ⟨writeParts rt .boolean (booleanParts rt b), ?_⟩⟩
      rw [shown]
      exact writeNode_boolean.mpr ⟨b, rfl, rfl⟩
  | @num q ref href =>
      refine ⟨fun _ => .num _, fun _ => ⟨writeParts rt .number (numberParts rt ref), ?_⟩⟩
      have hcap : ctx.limits.maxNumericRefs ≤ 9999 := by rw [hlimits]; decide
      rw [shown, labeledNumber, href]
      exact writeNode_number.mpr ⟨ref, ⟨rfl, isLabel_of_lookup hctx.numerics hcap href⟩, rfl⟩
  | @str s token htoken =>
      refine ⟨fun _ => .str s, fun _ => ⟨writeParts rt .string (stringParts rt
        (if s = [] then .empty else .nonempty) token), ?_⟩⟩
      have hcap : ctx.limits.maxIdentityTokens ≤ 9999 := by rw [hlimits]; decide
      rw [shown, htoken]
      exact writeNode_string.mpr
        ⟨_, rfl, token, ⟨rfl, isLabel_of_lookup hctx.identities hcap htoken⟩, rfl⟩
  | @arr items _ ih =>
      have hle := List.length_take_le' defaultProjectionLimits.maxArrayItemsInspected items
      rw [shown_arr, written_arrayOf (by rwa [List.length_map]), List.forall_mem_map]
      constructor
      · rintro ⟨hbound, hitems⟩
        exact .arr hbound fun v hv => (ih v hv).mp (hitems v hv)
      · intro hwritable
        cases hwritable with
        | arr hbound hitems => exact ⟨hbound, fun v hv => (ih v hv).mpr (hitems v hv)⟩
  | @obj fields hnodup hlength hnames _ ih =>
      have horder := inNameOrder_byName hnodup
      rw [shown_obj, written_objectOf (by rwa [List.length_map, length_byName])
        (by rwa [List.map_map]), List.forall_mem_map]
      constructor
      · intro hfields
        have hentry := fun entry hentry => hfields entry ((mem_byName hnodup).mpr hentry)
        exact .obj (fun entry h => (isFieldName_iff (hnames entry h)).mp (hentry entry h).1)
          fun entry h => (ih entry h).mp (hentry entry h).2
      · intro hwritable
        cases hwritable with
        | obj hbounds hvalues =>
            intro entry hentry
            have hmem := (mem_byName hnodup).mp hentry
            exact ⟨(isFieldName_iff (hnames entry hmem)).mpr (hbounds entry hmem),
              (ih entry hmem).mpr (hvalues entry hmem)⟩

end Acceptance

section Serialization

variable {rt : Runtime}

variable {root : ProjectionNode}

theorem serializeProjection_eq {text : JsString}
    (h : serializeProjection rt root = some text) : Written rt root ∧
      text = braced [canonicalName rt "schemaVersion" ++
          ':' :: canonicalName rt semanticProjectionVersion,
        canonicalName rt "root" ++ ':' :: nodeText rt root] := by
  simp only [serializeProjection, Option.bind_eq_bind, Option.bind_eq_some_iff, Option.pure_def,
    Option.some.injEq] at h
  obtain ⟨written, hwritten, rfl⟩ := h
  exact ⟨⟨written, hwritten⟩, by rw [nodeText_of hwritten]⟩

theorem isSome_serializeProjection :
    (serializeProjection rt root).isSome = true ↔ Written rt root := by
  rw [Option.isSome_iff_exists]
  constructor
  · rintro ⟨text, htext⟩
    exact (serializeProjection_eq htext).1
  · rintro ⟨written, hwritten⟩
    exact ⟨_, by rw [serializeProjection, hwritten]; rfl⟩

theorem serializeProjection_inj (hliterals : WritesLiterals (canonicalString rt))
    {root' : ProjectionNode} {text : JsString} (h : serializeProjection rt root = some text)
    (h' : serializeProjection rt root' = some text) : root = root' := by
  obtain ⟨hroot, htext⟩ := serializeProjection_eq h
  obtain ⟨hroot', htext'⟩ := serializeProjection_eq h'
  rw [htext] at htext'
  simp only [braced, NightWatch.Lib.Joined.join_cons_cons, NightWatch.Lib.Joined.join_singleton,
    List.append_assoc, List.cons_append, List.cons.injEq, true_and,
    List.append_cancel_left_eq] at htext'
  exact (reads_node hliterals root hroot root' _ _ hroot' (ends_cons rfl []) (ends_cons rfl [])
    htext').1

/-- What the texts of projections are for. -/
structure Identified (rt : Runtime) (sha256Hex : JsString → JsString) : Prop where
  accepted : ∀ ctx ctx' value result, Used ctx → ctx.limits = defaultProjectionLimits →
    IsData value → projectValue defaultProjectionLimits value ctx = .ok (result, ctx') →
      ((serializeProjection rt result.root).isSome = true ↔ Writable defaultProjectionLimits value)
  injective : ∀ root root' text text', serializeProjection rt root = some text →
    serializeProjection rt root' = some text' → (text = text' ↔ root = root')
  digests : ∀ root root' text text', serializeProjection rt root = some text →
    serializeProjection rt root' = some text' →
      ((sha256Hex text).take 24 = (sha256Hex text').take 24 → text = text') →
        (projectionDigest rt sha256Hex root = projectionDigest rt sha256Hex root' ↔ root = root')

/-- A projection has a text where its data is within the writer's bounds, and both the text and
its digest identify it. -/
theorem identified (hliterals : WritesLiterals (canonicalString rt))
    (sha256Hex : JsString → JsString) : Identified rt sha256Hex where
  accepted ctx ctx' value result hused hlimits hvalue hrun := by
    obtain ⟨hadvances, hresult⟩ := projectValue_eq hvalue hrun
    obtain ⟨hroot, hprojected⟩ := hresult ctx' (Advances.refl ctx')
    rw [isSome_serializeProjection, hroot]
    exact written_shown_iff (hadvances.numbered (numbered_of_used hused))
      (hadvances.limits.trans hlimits) hprojected
  injective root root' text text' h h' := by
    constructor
    · rintro rfl
      exact serializeProjection_inj hliterals h h'
    · rintro rfl
      exact Option.some.inj (h.symm.trans h')
  digests root root' text text' h h' hcollision := by
    constructor
    · intro hdigests
      rw [projectionDigest, projectionDigest, h, h', Option.map_some, Option.map_some,
        Option.some.injEq] at hdigests
      obtain rfl := hcollision (List.append_cancel_left hdigests)
      exact serializeProjection_inj hliterals h h'
    · rintro rfl
      rfl

theorem literals_plainRuntime : WritesLiterals (canonicalString plainRuntime) :=
  fun _ _ _ _ h => quoted_inj h

theorem identified_plainRuntime : Identified plainRuntime id :=
  identified literals_plainRuntime id

def zeroNamed : JsValue := .obj [(['\x00'], .null)]

/-- The projector takes a name that the writer refuses. -/
theorem zero_name_refused : IsData zeroNamed ∧ ∃ result ctx',
    projectValue defaultProjectionLimits zeroNamed (.fresh defaultProjectionLimits) =
      .ok (result, ctx') ∧ serializeProjection plainRuntime result.root = none := by
  refine ⟨.obj (List.nodup_singleton _) ?_, _, _, rfl, rfl⟩
  intro entry hentry
  rw [List.mem_singleton.mp hentry]
  exact .null

end Serialization

end NightWatch.Oracles.ProjectionTexts
