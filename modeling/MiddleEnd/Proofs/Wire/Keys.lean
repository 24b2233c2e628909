import Mathlib.Tactic.Lemma
import MiddleEnd.Wire.Json

/-!
# Keys that are written more than once

A text may write a key of a record twice. The tree that is read from it has the key once, with the
value that was written last, so that it makes no difference how a field is looked up.

* `Record.value_set` says, of one more field, that its value is the one that is found.
* `KeysOnce` — no record in a tree has a key twice, at any depth.
* `ReadsKeysOnce allowance` — whatever is read within an allowance is such a tree. The three readers
  call each other with less allowance, so that they are taken together, a step of each at a time.

`keysOnce_of_read?` is the result.
-/

namespace MiddleEnd.Wire

/-! ## Trees -/

/-- No record in a tree has a key twice. -/
inductive Value.KeysOnce : Value → Prop
  /-- The empty value has no fields. -/
  | null : KeysOnce .null
  /-- A truth value has no fields. -/
  | bool (b : Bool) : KeysOnce (.bool b)
  /-- An integer has no fields. -/
  | int (n : Int) : KeysOnce (.int n)
  /-- A number that is no integer has no fields. -/
  | decimal (digits : String) : KeysOnce (.decimal digits)
  /-- A text has no fields. -/
  | text (s : String) : KeysOnce (.text s)
  /-- A list has items of this kind. -/
  | list {items : List Value} (h : ∀ v ∈ items, KeysOnce v) : KeysOnce (.list items)
  /-- A record has every key once, and values of this kind. -/
  | record {fields : Record} (hkeys : (fields.map Prod.fst).Nodup)
      (h : ∀ field ∈ fields, KeysOnce field.2) : KeysOnce (.record fields)

namespace Value

lemma keysOnce_list_nil : (Value.list []).KeysOnce :=
  .list nofun

lemma keysOnce_record_nil : (Value.record []).KeysOnce :=
  .record List.nodup_nil nofun

/-- To set a field leaves every key once. -/
lemma KeysOnce.set {fields : Record} (h : (Value.record fields).KeysOnce) {v : Value}
    (hv : v.KeysOnce) (key : String) : (Value.record (fields.set key v)).KeysOnce := by
  cases h with
  | record hkeys hvalues =>
      refine .record (Record.nodup_keys_set hkeys key v) fun field hfield => ?_
      rcases Record.mem_set hfield with rfl | hold
      · exact hv
      · exact hvalues field hold

end Value

/-! ## Readers -/

namespace Json

/-- Numbers have no fields. -/
lemma keysOnce_of_readNumber {cs rest : List Char} {v : Value}
    (h : readNumber cs = some (v, rest)) : v.KeysOnce := by
  unfold readNumber at h
  -- With a sign in front or without.
  split at h
  all_goals
    dsimp only at h
    split at h
    · cases h
    · obtain ⟨⟨tail, rest'⟩, -, h⟩ := Option.bind_eq_some_iff.mp h
      dsimp only at h
      split at h
      · cases h
        exact .int _
      · cases h
        exact .decimal _

/-- What is read within an allowance has every key once, if what was read before has. -/
structure ReadsKeysOnce (allowance : Nat) : Prop where
  /-- Trees from the front of a text. -/
  value : ∀ {cs rest : List Char} {v : Value}, readValue allowance cs = some (v, rest) → v.KeysOnce
  /-- Lists of which some items have been read. -/
  items : ∀ {before : List Value} {cs rest : List Char} {v : Value}, (∀ w ∈ before, w.KeysOnce) →
    readItems allowance before cs = some (v, rest) → v.KeysOnce
  /-- Records of which some fields have been read. -/
  fields : ∀ {before : Record} {cs rest : List Char} {v : Value}, (Value.record before).KeysOnce →
    readFields allowance before cs = some (v, rest) → v.KeysOnce

/-- Without an allowance nothing is read. -/
lemma readsKeysOnce_zero : ReadsKeysOnce 0 where
  value h := by rw [readValue] at h; cases h
  items _ h := by rw [readItems] at h; cases h
  fields _ h := by rw [readFields] at h; cases h

namespace ReadsKeysOnce

variable {allowance : Nat} (hr : ReadsKeysOnce allowance) {cs rest : List Char} {v : Value}

include hr

lemma value_succ (h : readValue (allowance + 1) cs = some (v, rest)) : v.KeysOnce := by
  rw [readValue] at h
  split at h
  · obtain ⟨⟨s, rest'⟩, -, h⟩ := Option.map_eq_some_iff.mp h
    cases h
    exact .text s
  · split at h
    · cases h
      exact Value.keysOnce_list_nil
    · exact hr.items (List.forall_mem_nil _) h
  · split at h
    · cases h
      exact Value.keysOnce_record_nil
    · exact hr.fields Value.keysOnce_record_nil h
  · cases h
    exact .null
  · cases h
    exact .bool true
  · cases h
    exact .bool false
  · exact keysOnce_of_readNumber h

lemma items_succ {before : List Value} (hbefore : ∀ w ∈ before, w.KeysOnce)
    (h : readItems (allowance + 1) before cs = some (v, rest)) : v.KeysOnce := by
  rw [readItems] at h
  split at h
  · cases h
  · next w rest' hw =>
    have hmore : ∀ w' ∈ w :: before, w'.KeysOnce := List.forall_mem_cons.mpr ⟨hr.value hw, hbefore⟩
    split at h
    · exact hr.items hmore h
    · cases h
      exact .list fun w' hw' => hmore w' (List.mem_reverse.mp hw')
    · cases h

lemma fields_succ {before : Record} (hbefore : (Value.record before).KeysOnce)
    (h : readFields (allowance + 1) before cs = some (v, rest)) : v.KeysOnce := by
  rw [readFields] at h
  split at h
  case h_2 => cases h
  split at h
  case h_1 => cases h
  next key rest' _ =>
  split at h
  case h_2 => cases h
  split at h
  case h_1 => cases h
  next w rest'' hw =>
  have hmore := hbefore.set (hr.value hw) key
  split at h
  · exact hr.fields hmore h
  · cases h
    exact hmore
  · cases h

end ReadsKeysOnce

lemma readsKeysOnce (allowance : Nat) : ReadsKeysOnce allowance := by
  induction allowance with
  | zero => exact readsKeysOnce_zero
  | succ allowance ih => exact ⟨ih.value_succ, ih.items_succ, ih.fields_succ⟩

/-- **A tree that is read has every key once**, in every record. -/
theorem keysOnce_of_read? {s : String} {v : Value} (h : read? s = some v) : v.KeysOnce := by
  obtain ⟨⟨w, rest⟩, hread, h⟩ := Option.bind_eq_some_iff.mp h
  dsimp only at h
  split at h
  · cases h
    exact (readsKeysOnce _).value hread
  · cases h

/-- The last value counts, in the place of the first. -/
example : read? "\x7b\"a\":1,\"b\":2,\"a\":[3]\x7d" =
    some (.record [("a", .list [.int 3]), ("b", .int 2)]) := by
  cbv

end Json

end MiddleEnd.Wire
