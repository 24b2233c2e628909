/-!
# Value trees

The middle end exchanges identifiers and instructions as trees of plain values: truth values,
numbers, texts, lists and records. This module holds the trees and the ways of taking one apart.

* `Value` — the trees. A number with a fraction or an exponent is kept apart from the integers,
  by its digits: no part of the middle end accepts it, but a tree that holds one can be read.
* `Record` — the fields of a record. `Record.value r key` is the field's value, and `null` when
  there is no such field: a missing field and an empty one mean the same. `Record.set` gives a field
  another value, so that a record that is put together by it has every key once.
-/

namespace MiddleEnd.Wire

/-- A tree of plain values. -/
inductive Value where
  /-- The empty value. -/
  | null
  /-- A truth value. -/
  | bool (b : Bool)
  /-- An integer of any size. -/
  | int (n : Int)
  /-- A number written with a fraction or an exponent, or as minus zero. -/
  | decimal (digits : String)
  /-- A text. -/
  | text (s : String)
  /-- A list of values. -/
  | list (items : List Value)
  /-- Named values, in the order in which they are written. -/
  | record (fields : List (String × Value))
deriving Inhabited

/-- The fields of a record. What is read from a text has every key once. -/
abbrev Record := List (String × Value)

/-- The value of a field; a missing field is empty. -/
def Record.value (r : Record) (key : String) : Value :=
  (r.lookup key).getD .null

/-- Gives a field a value, in its place if there is such a field, and else at the end. -/
def Record.set : Record → String → Value → Record
  | [], key, v => [(key, v)]
  | (k, w) :: r, key, v => if k = key then (k, v) :: r else (k, w) :: Record.set r key v

namespace Record

@[simp] theorem value_nil (key : String) : Record.value [] key = .null := rfl

/-- The value of a field is found under the first occurrence of its key. -/
theorem value_cons (k : String) (v : Value) (r : Record) (key : String) :
    Record.value ((k, v) :: r) key = if key = k then v else Record.value r key := by
  rw [Record.value, List.lookup_cons]
  by_cases h : key = k
  · rw [if_pos h, beq_iff_eq.mpr h]
    rfl
  · rw [if_neg h, beq_eq_false_iff_ne.mpr h]
    rfl

/-- What is set last is found, and other fields are left alone. -/
theorem value_set (r : Record) (key : String) (v : Value) (other : String) :
    (r.set key v).value other = if other = key then v else r.value other := by
  induction r with
  | nil => exact value_cons key v [] other
  | cons field r ih =>
    obtain ⟨k, w⟩ := field
    rw [Record.set]
    split
    · next h => rw [value_cons, value_cons, h]; split <;> rfl
    · next h =>
      rw [value_cons, value_cons, ih]
      split
      · next hother => rw [if_neg (hother ▸ h)]
      · rfl

/-- The fields of a record after one is set: that one, and others of the record. -/
theorem mem_set {r : Record} {key : String} {v : Value} {field : String × Value}
    (h : field ∈ r.set key v) : field = (key, v) ∨ field ∈ r := by
  induction r with
  | nil => exact .inl (List.mem_singleton.mp h)
  | cons first r ih =>
    obtain ⟨k, w⟩ := first
    rw [Record.set] at h
    split at h
    · next hk =>
      rcases List.mem_cons.mp h with rfl | h
      · exact .inl (by rw [hk])
      · exact .inr (List.mem_cons_of_mem _ h)
    · rcases List.mem_cons.mp h with rfl | h
      · exact .inr List.mem_cons_self
      · exact (ih h).imp_right (List.mem_cons_of_mem _)

/-- To set a field of a record that has every key once leaves it so. -/
theorem nodup_keys_set {r : Record} (h : (r.map Prod.fst).Nodup) (key : String) (v : Value) :
    ((r.set key v).map Prod.fst).Nodup := by
  induction r with
  | nil => simp [Record.set]
  | cons first r ih =>
    obtain ⟨k, w⟩ := first
    obtain ⟨hk, hr⟩ := List.nodup_cons.mp h
    rw [Record.set]
    split
    · exact h
    · next hne =>
      refine List.nodup_cons.mpr ⟨fun hmem => ?_, ih hr⟩
      obtain ⟨field, hfield, rfl⟩ := List.mem_map.mp hmem
      rcases mem_set hfield with rfl | hold
      · exact hne rfl
      · exact hk (List.mem_map.mpr ⟨field, hold, rfl⟩)

/-- A field's value is smaller than the record it stands in, so that readers may recurse on it. -/
theorem sizeOf_value_lt (r : Record) (key : String) :
    sizeOf (r.value key) < sizeOf (Value.record r) := by
  induction r with
  | nil => simp
  | cons field r ih =>
    obtain ⟨k, v⟩ := field
    rw [value_cons]
    split
    · simp only [Value.record.sizeOf_spec, List.cons.sizeOf_spec, Prod.mk.sizeOf_spec]
      omega
    · simp only [Value.record.sizeOf_spec, List.cons.sizeOf_spec] at ih ⊢
      omega

end Record

end MiddleEnd.Wire
