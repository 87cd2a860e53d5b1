import Mathlib.Data.List.Sort
import Mathlib.Tactic.Common

/-!
# JSON documents

The value of a `JSONB` column or of a pydantic dump: what `json.loads` can
return. A float is kept as the text Python prints for it, since the modelled
code only stores, compares and hashes one.
-/

namespace NewsCraft

/-- A JSON document. -/
inductive Json where
  | null
  | bool (b : Bool)
  | int (n : Int)
  | float (text : String)
  | str (s : String)
  | arr (items : List Json)
  | obj (fields : List (String × Json))
  deriving Repr

namespace Json

mutual

def beq : Json → Json → Bool
  | null, null => true
  | bool a, bool b => a == b
  | int a, int b => a == b
  | float a, float b => a == b
  | str a, str b => a == b
  | arr a, arr b => beqItems a b
  | obj a, obj b => beqFields a b
  | _, _ => false

def beqItems : List Json → List Json → Bool
  | [], [] => true
  | x :: xs, y :: ys => beq x y && beqItems xs ys
  | _, _ => false

def beqFields : List (String × Json) → List (String × Json) → Bool
  | [], [] => true
  | (k, x) :: xs, (l, y) :: ys => k == l && (beq x y && beqFields xs ys)
  | _, _ => false

end

mutual

theorem eq_of_beq {a b : Json} (h : beq a b = true) : a = b := by
  cases a <;> cases b <;> simp only [beq, beq_iff_eq, Bool.false_eq_true] at h
  case null.null => rfl
  case bool.bool => rw [h]
  case int.int => rw [h]
  case float.float => rw [h]
  case str.str => rw [h]
  case arr.arr => rw [eq_of_beqItems h]
  case obj.obj => rw [eq_of_beqFields h]

theorem eq_of_beqItems {a b : List Json} (h : beqItems a b = true) : a = b := by
  cases a with
  | nil =>
    cases b with
    | nil => rfl
    | cons y ys => simp [beqItems] at h
  | cons x xs =>
    cases b with
    | nil => simp [beqItems] at h
    | cons y ys =>
      simp only [beqItems, Bool.and_eq_true] at h
      rw [eq_of_beq h.1, eq_of_beqItems h.2]

theorem eq_of_beqFields {a b : List (String × Json)} (h : beqFields a b = true) : a = b := by
  cases a with
  | nil =>
    cases b with
    | nil => rfl
    | cons y ys => simp [beqFields] at h
  | cons x xs =>
    cases b with
    | nil => simp [beqFields] at h
    | cons y ys =>
      obtain ⟨k, x⟩ := x
      obtain ⟨l, y⟩ := y
      simp only [beqFields, Bool.and_eq_true, beq_iff_eq] at h
      rw [h.1, eq_of_beq h.2.1, eq_of_beqFields h.2.2]

end

mutual

theorem beq_self (a : Json) : beq a a = true := by
  cases a <;> simp only [beq, beq_self_eq_true]
  case arr items => exact beqItems_self items
  case obj fields => exact beqFields_self fields

theorem beqItems_self (a : List Json) : beqItems a a = true := by
  cases a with
  | nil => rfl
  | cons x xs => simp [beqItems, beq_self x, beqItems_self xs]

theorem beqFields_self (a : List (String × Json)) : beqFields a a = true := by
  cases a with
  | nil => rfl
  | cons x xs =>
    obtain ⟨k, x⟩ := x
    simp [beqFields, beq_self x, beqFields_self xs]

end

theorem beq_iff {a b : Json} : beq a b = true ↔ a = b := by
  constructor
  · exact eq_of_beq
  rintro rfl
  exact beq_self a

instance : DecidableEq Json := fun a b => decidable_of_iff (beq a b = true) beq_iff

instance : Inhabited Json := ⟨null⟩

/-- The empty object, `'{}'::jsonb`. -/
def empty : Json := obj []

mutual

/-- The document with the keys of every object in order, as `sort_keys` writes it. -/
def sortKeys : Json → Json
  | obj fields => obj ((sortFields fields).insertionSort fun a b => ¬ b.1 < a.1)
  | arr items => arr (sortItems items)
  | null => null
  | bool b => bool b
  | int n => int n
  | float text => float text
  | str s => str s

def sortItems : List Json → List Json
  | [] => []
  | item :: rest => sortKeys item :: sortItems rest

def sortFields : List (String × Json) → List (String × Json)
  | [] => []
  | (key, value) :: rest => (key, sortKeys value) :: sortFields rest

end

/-- `isinstance(value, dict)`. -/
def isObj : Json → Bool
  | obj _ => true
  | _ => false

/-- `bool(value)`. -/
def truthy : Json → Bool
  | null => false
  | bool b => b
  | int n => n ≠ 0
  | float text => text ≠ "0.0" ∧ text ≠ "-0.0"
  | str s => s ≠ ""
  | arr items => !items.isEmpty
  | obj fields => !fields.isEmpty

/-- `value.get(key)` of an object. -/
def get? : Json → String → Option Json
  | obj fields, key => (fields.find? fun field => field.1 == key).map Prod.snd
  | _, _ => none

end Json

end NewsCraft
