import Mathlib.Tactic
import Mathlib.Data.List.Sort

namespace VoiceCall.Foundation

/-- An object keeps its own properties in creation order, one entry for each key. The key
`__proto__`, which an assignment does not make a property of, is outside this model. -/
structure JsObject (Value : Type) where
  entries : List (String × Value)
  nodup : (entries.map Prod.fst).Nodup

/-- The decimal value of a digit string. -/
def decimalValue (digits : List Char) : Nat :=
  digits.foldl (fun value digit => 10 * value + (digit.toNat - '0'.toNat)) 0

/-- An array index is a canonical decimal below `2 ^ 32 - 1`. -/
def isArrayIndex (key : String) : Bool :=
  match key.toList with
  | [] => false
  | ['0'] => true
  | first :: rest => first != '0' && (first :: rest).all Char.isDigit &&
      decimalValue (first :: rest) < 4294967295

namespace JsObject

variable {Value : Type}

def empty : JsObject Value := ⟨[], by simp⟩

/-- The read returns an own property, or `none` for `undefined`. -/
def get (object : JsObject Value) (key : String) : Option Value :=
  object.entries.lookup key

/-- The value of an existing key is replaced in its place. -/
def replaced (entries : List (String × Value)) (key : String) (value : Value) :
    List (String × Value) :=
  entries.map fun entry => if entry.1 = key then (key, value) else entry

theorem replaced_keys (entries : List (String × Value)) (key : String) (value : Value) :
    (replaced entries key value).map Prod.fst = entries.map Prod.fst := by
  simp only [replaced, List.map_map]
  apply List.map_congr_left
  intro entry _
  by_cases same : entry.1 = key <;> simp [same]

/-- An assignment keeps the place of an existing key and appends a new one. -/
def set (object : JsObject Value) (key : String) (value : Value) : JsObject Value :=
  if present : key ∈ object.entries.map Prod.fst then
    ⟨replaced object.entries key value, by rw [replaced_keys]; exact object.nodup⟩
  else
    ⟨object.entries ++ [(key, value)], by
      rw [List.map_append]
      exact List.Nodup.append object.nodup (by simp) (by simpa using present)⟩

/-- The `delete` operator removes the entry of one key. -/
def delete (object : JsObject Value) (key : String) : JsObject Value :=
  ⟨object.entries.filter fun entry => entry.1 ≠ key,
    object.nodup.sublist (List.filter_sublist.map Prod.fst)⟩

/-- A `for in` loop visits the array indices in ascending order, then the other keys. -/
def keys (object : JsObject Value) : List String :=
  let names := object.entries.map Prod.fst
  (names.filter isArrayIndex).insertionSort
      (fun first second => decimalValue first.toList ≤ decimalValue second.toList) ++
    names.filter fun name => !isArrayIndex name

theorem lookup_cons_if (entry : String × Value) (rest : List (String × Value)) (query : String) :
    (entry :: rest).lookup query = if query = entry.1 then some entry.2 else rest.lookup query := by
  obtain ⟨key, value⟩ := entry
  by_cases same : query = key
  · subst same
    simp
  · simp [List.lookup_cons, beq_false_of_ne same, same]

theorem lookup_isSome_iff (entries : List (String × Value)) (key : String) :
    (entries.lookup key).isSome ↔ key ∈ entries.map Prod.fst := by
  induction entries with
  | nil => simp
  | cons entry rest ih =>
      rw [lookup_cons_if, List.map_cons, List.mem_cons]
      by_cases same : key = entry.1
      · simp [same]
      · simp only [same, if_false, ih, false_or]

theorem lookup_replaced (entries : List (String × Value)) (key query : String) (value : Value) :
    (replaced entries key value).lookup query =
      if query = key then (entries.lookup key).map fun _ => value else entries.lookup query := by
  induction entries with
  | nil => simp [replaced]
  | cons entry rest ih =>
      simp only [replaced, List.map_cons, lookup_cons_if] at ih ⊢
      by_cases here : entry.1 = key
      · by_cases asked : query = key
        · simp [here, asked]
        · simp [here, asked, ih]
      · by_cases asked : query = key
        · subst asked
          simpa [here, Ne.symm here] using ih
        · simp only [here, asked, ih, if_false]

theorem lookup_filter_ne (entries : List (String × Value)) (key query : String) :
    (entries.filter fun entry => entry.1 ≠ key).lookup query =
      if query = key then none else entries.lookup query := by
  induction entries with
  | nil => simp
  | cons entry rest ih =>
      by_cases here : entry.1 = key
      · rw [List.filter_cons_of_neg (by simp [here]), ih, lookup_cons_if]
        by_cases asked : query = key
        · simp [asked]
        · simp [asked, here]
      · rw [List.filter_cons_of_pos (by simp [here]), lookup_cons_if, lookup_cons_if, ih]
        by_cases asked : query = key
        · simp [asked, Ne.symm here]
        · simp only [asked, if_false]

@[simp] theorem get_empty (key : String) : (empty : JsObject Value).get key = none := rfl

/-- An assignment changes the read of its own key only. -/
@[simp] theorem get_set (object : JsObject Value) (key query : String) (value : Value) :
    (object.set key value).get query = if query = key then some value else object.get query := by
  by_cases present : key ∈ object.entries.map Prod.fst
  · rw [set, dif_pos present, get, get, lookup_replaced]
    by_cases asked : query = key
    · obtain ⟨old, found⟩ := Option.isSome_iff_exists.mp
        ((lookup_isSome_iff object.entries key).mpr present)
      simp [asked, found]
    · simp [asked]
  · rw [set, dif_neg present, get, get, List.lookup_append, lookup_cons_if]
    by_cases asked : query = key
    · have absent : object.entries.lookup key = none := by
        rw [← Option.not_isSome_iff_eq_none, lookup_isSome_iff]
        exact present
      simp [asked, absent]
    · simp [asked]

/-- A deletion changes the read of its own key only. -/
@[simp] theorem get_delete (object : JsObject Value) (key query : String) :
    (object.delete key).get query = if query = key then none else object.get query :=
  lookup_filter_ne object.entries key query

/-- A `for in` loop visits exactly the own keys. -/
theorem mem_keys (object : JsObject Value) (key : String) :
    key ∈ object.keys ↔ (object.get key).isSome := by
  rw [get, lookup_isSome_iff, keys, List.mem_append, List.mem_insertionSort, List.mem_filter,
    List.mem_filter]
  cases isArrayIndex key <;> simp

end JsObject
end VoiceCall.Foundation
