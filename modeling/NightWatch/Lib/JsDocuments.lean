import NightWatch.Lib.JsData

/-!
Writers and readers of plain data, and when a reader gives back what a writer wrote.
-/

namespace NightWatch.Lib.JsDocuments

open Lib.JsText Lib.JsData

variable {α : Type}

def Recovers (read : JsValue → Option α) (write : α → JsValue) (a : α) : Prop :=
  read (write a) = some a

theorem Recovers.unique {read : JsValue → Option α} {write : α → JsValue} {a b : α} {v : JsValue}
    (h : Recovers read write b) (hread : read v = some a) (hwritten : v = write b) : a = b :=
  Option.some.inj (hread.symm.trans (hwritten ▸ h))

def readText : JsValue → Option JsString
  | .str s => some s
  | _ => none

theorem recovers_text (s : JsString) : Recovers readText .str s := rfl

def writeInteger (z : ℤ) : JsValue := .num (.finite z)

def readInteger : JsValue → Option ℤ
  | .num (.finite q) => if q.den = 1 then some q.num else none
  | _ => none

theorem recovers_integer (z : ℤ) : Recovers readInteger writeInteger z := by
  rw [Recovers, writeInteger, readInteger, if_pos (Rat.den_intCast z), Rat.num_intCast]

def writeCount (n : Nat) : JsValue := .num (.finite n)

def readCount : JsValue → Option Nat
  | .num (.finite q) => if q.den = 1 ∧ 0 ≤ q.num then some q.num.toNat else none
  | _ => none

theorem recovers_count (n : Nat) : Recovers readCount writeCount n := by
  have hwhole : (n : ℚ).den = 1 ∧ 0 ≤ (n : ℚ).num := by
    rw [Rat.den_natCast, Rat.num_natCast]
    exact ⟨rfl, Int.natCast_nonneg n⟩
  rw [Recovers, writeCount, readCount, if_pos hwhole, Rat.num_natCast, Int.toNat_natCast]

section Structures

/-- What is missing is written as `null`. -/
def writeNullable (write : α → JsValue) : Option α → JsValue
  | none => .null
  | some a => write a

def writeOptional (write : α → JsValue) : Option α → JsValue
  | none => .undefined
  | some a => write a

def readNullish (read : JsValue → Option α) : JsValue → Option (Option α)
  | .undefined | .null => some none
  | v => (read v).map some

theorem readNullish_of_not_nullish {read : JsValue → Option α} {v : JsValue}
    (hv : v.isNullish = false) : readNullish read v = (read v).map some := by
  cases v with
  | undefined => contradiction
  | null => contradiction
  | bool => rfl
  | num => rfl
  | str => rfl
  | arr => rfl
  | obj => rfl

variable {read : JsValue → Option α} {write : α → JsValue}

theorem recovers_nullable {a : Option α} (h : ∀ a, Recovers read write a)
    (hwrite : ∀ a, (write a).isNullish = false) :
    Recovers (readNullish read) (writeNullable write) a := by
  rcases a with _ | a
  · rfl
  · change readNullish read (write a) = some (some a)
    rw [readNullish_of_not_nullish (hwrite a), h a, Option.map_some]

theorem recovers_optional {a : Option α} (h : ∀ a, Recovers read write a)
    (hwrite : ∀ a, (write a).isNullish = false) :
    Recovers (readNullish read) (writeOptional write) a := by
  rcases a with _ | a
  · rfl
  · change readNullish read (write a) = some (some a)
    rw [readNullish_of_not_nullish (hwrite a), h a, Option.map_some]

def writeList (write : α → JsValue) (as : List α) : JsValue := .arr (as.map write)

def readEach (read : JsValue → Option α) : List JsValue → Option (List α)
  | [] => some []
  | v :: rest => do
      let a ← read v
      let as ← readEach read rest
      some (a :: as)

def readList (read : JsValue → Option α) : JsValue → Option (List α)
  | .arr items => readEach read items
  | _ => none

theorem recovers_list {as : List α} (h : ∀ a ∈ as, Recovers read write a) :
    Recovers (readList read) (writeList write) as := by
  change readEach read (as.map write) = some as
  induction as with
  | nil => rfl
  | cons a as ih =>
      have ha : read (write a) = some a := h a (by simp)
      have has := ih fun b hb => h b (by simp [hb])
      rw [List.map_cons, readEach, ha, has]
      rfl

end Structures

end NightWatch.Lib.JsDocuments
