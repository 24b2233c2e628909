import Mathlib.Data.List.Nodup
import Mathlib.Tactic.Lemma
import MiddleEnd.Wire.Read

/-!
# What readers accept

Readers are partial functions on value trees. This module says for each way of putting readers
together which trees the result accepts, and with which value, so that a reader need not be opened
again where it is used:

* plain values: texts and integers are written in one way each (`decode_eq_ok_iff` of a type);
* records: `Value.HasFields keys v values` says that `v` holds `values` under `keys`, by name or as
  the bare list of all of them, and `hasFields_iff` that this is how a record is taken apart;
* variants: `Case.Reads c v a` says that `v` is written with the tag of `c` and read as `a` by it.
  Where tags are distinct, a tree is read if one of the cases reads it (`Case.readAny_eq_ok_iff`).

`ByShape` is about refusal: a reader that refuses trees for their shape only.
-/

namespace MiddleEnd

open Wire (Value Record)

variable {α β : Type}

/-! ## Partial results -/

/-- Two readers one after the other succeed if both do. -/
lemma bind_eq_ok_iff {x : Except Fault α} {f : α → Except Fault β} {b : β} :
    (x >>= f) = .ok b ↔ ∃ a, x = .ok a ∧ f a = .ok b := by
  cases x with
  | error fault => exact ⟨nofun, nofun⟩
  | ok a => exact ⟨fun h => ⟨a, rfl, h⟩, fun ⟨_, h, hb⟩ => by cases h; exact hb⟩

/-- What is done to a result needs one. -/
lemma map_eq_ok_iff {x : Except Fault α} {f : α → β} {b : β} :
    x.map f = .ok b ↔ ∃ a, x = .ok a ∧ f a = b := by
  cases x with
  | error fault => exact ⟨nofun, nofun⟩
  | ok a => simp [Except.map]

/-- A reader's answer without further ado. -/
lemma pure_eq_ok_iff {a b : α} : (pure a : Except Fault α) = .ok b ↔ a = b := by
  change Except.ok a = .ok b ↔ a = b
  rw [Except.ok.injEq]

/-! ## Plain values -/

/-- Integers between two bounds are integers, and between them. -/
lemma Wire.Value.intBetween_eq_ok_iff {low high n : Int} {v : Value} :
    v.intBetween low high = .ok n ↔ v = .int n ∧ low ≤ n ∧ n ≤ high := by
  cases v with
  | int m =>
      rw [intBetween, Value.int.injEq]
      split
      · next h =>
        rw [Except.ok.injEq]
        exact ⟨fun heq => ⟨heq, heq ▸ h⟩, fun h => h.1⟩
      · next h => exact ⟨nofun, fun ⟨heq, hbounds⟩ => absurd (heq ▸ hbounds) h⟩
  | _ => simp [intBetween]

/-- A type of integers is read from the integers of its range. -/
lemma intBetween_map_eq_ok_iff {low high : Int} {ofInt : Int → α} (toInt : α → Int) {v : Value}
    {a : α} (hrange : low ≤ toInt a ∧ toInt a ≤ high) (hofInt : ofInt (toInt a) = a)
    (htoInt : ∀ n, low ≤ n → n ≤ high → toInt (ofInt n) = n) :
    (v.intBetween low high).map ofInt = .ok a ↔ v = .int (toInt a) := by
  simp only [map_eq_ok_iff, Wire.Value.intBetween_eq_ok_iff]
  constructor
  · rintro ⟨n, ⟨rfl, hlow, hhigh⟩, rfl⟩
    rw [htoInt n hlow hhigh]
  · rintro rfl
    exact ⟨toInt a, ⟨rfl, hrange⟩, hofInt⟩

/-- Texts are written as themselves. -/
lemma decode_string_eq_ok_iff {v : Value} {s : String} : decode v = .ok s ↔ v = .text s := by
  cases v <;> simp [decode, Readable.read]

/-- Signed integers of 64 bits are written as themselves. -/
lemma decode_int64_eq_ok_iff {v : Value} {n : Int64} : decode v = .ok n ↔ v = .int n.toInt := by
  have hlo := n.le_toInt
  have hhi := n.toInt_lt
  refine intBetween_map_eq_ok_iff Int64.toInt ⟨by omega, by omega⟩ n.ofInt_toInt
    fun m hlow hhigh => ?_
  exact Int64.toInt_ofInt_of_le (by omega) (by omega)

/-- Unsigned integers of 32 bits are written as themselves. -/
lemma decode_uint32_eq_ok_iff {v : Value} {n : UInt32} : decode v = .ok n ↔ v = .int n.toNat := by
  have hlt := n.toNat_lt
  refine intBetween_map_eq_ok_iff (fun n : UInt32 => (n.toNat : Int)) ⟨by omega, by omega⟩
    (by simp) fun m hlow hhigh => ?_
  simp only [UInt32.toNat_ofNat']
  omega

/-! ## Records -/

/-- A tree holds values under the given keys: a record holds them by name, and the bare list of
them, as many as there are keys, stands for the record. -/
def Wire.Value.HasFields (keys : List String) (v : Value) (values : List Value) : Prop :=
  (∃ r : Record, v = .record r ∧ keys.map r.value = values) ∨
    v = .list values ∧ values.length = keys.length

/-- Fields that are put together from keys and values are found again. -/
lemma map_value_zip {keys : List String} (hk : keys.Nodup) {values : List Value}
    (hlength : values.length = keys.length) :
    keys.map (Record.value (keys.zip values)) = values := by
  induction keys generalizing values with
  | nil => exact (List.eq_nil_of_length_eq_zero hlength).symm
  | cons key keys ih =>
      cases values with
      | nil => cases hlength
      | cons value values =>
          obtain ⟨hkey, hkeys⟩ := List.nodup_cons.mp hk
          have hrest : keys.map (Record.value ((key, value) :: keys.zip values)) =
              keys.map (Record.value (keys.zip values)) := by
            apply List.map_congr_left
            intro other hother
            have hne : other ≠ key := by
              rintro rfl
              exact hkey hother
            rw [Record.value_cons, if_neg hne]
          rw [List.zip_cons_cons, List.map_cons, Record.value_cons, if_pos rfl, hrest,
            ih hkeys (Nat.succ.inj hlength)]

/-- **A tree is taken apart as a record into the fields that it holds.** -/
lemma hasFields_iff {keys : List String} (hk : keys.Nodup) {v : Value} {values : List Value} :
    v.HasFields keys values ↔ ∃ r, v.asRecord keys = .ok r ∧ keys.map r.value = values := by
  cases v with
  | record fields => simp [Value.HasFields, Value.asRecord]
  | list items =>
      simp only [Value.HasFields, Value.asRecord, Value.list.injEq, reduceCtorEq, false_and,
        exists_const, false_or]
      constructor
      · rintro ⟨rfl, hlength⟩
        exact ⟨keys.zip items, if_pos hlength, map_value_zip hk hlength⟩
      · rintro ⟨r, hr, hvalues⟩
        split_ifs at hr with hlength
        cases hr
        rw [map_value_zip hk hlength] at hvalues
        exact ⟨hvalues, hvalues ▸ hlength⟩
  | _ => simp [Value.HasFields, Value.asRecord]

/-! ## Variants -/

namespace Case

/-- A tree is written with the tag of a case, alone or with a payload, and read by the case. -/
def Reads (c : Case α) (v : Value) (a : α) : Prop :=
  v = .text c.tag ∧ c.read none = .ok a ∨
    ∃ payload, v = .record [(c.tag, payload)] ∧ c.read (some payload) = .ok a

/-- A case without data reads its tag, alone or with `null`. -/
lemma reads_bare_iff {tag : String} {a b : α} {v : Value} :
    (bare tag a).Reads v b ↔ (v = .text tag ∨ v = .record [(tag, .null)]) ∧ a = b := by
  constructor
  · rintro (⟨rfl, h⟩ | ⟨payload, rfl, h⟩)
    · exact ⟨.inl rfl, Except.ok.inj h⟩
    · cases payload with
      | null => exact ⟨.inr rfl, Except.ok.inj h⟩
      | _ => cases h
  · rintro ⟨rfl | rfl, rfl⟩
    · exact .inl ⟨rfl, rfl⟩
    · exact .inr ⟨.null, rfl, rfl⟩

/-- A case around one value reads what the reader of the value does. -/
lemma reads_single_iff [Readable β] {tag : String} {make : β → α} {v : Value} {a : α} :
    (single tag make).Reads v a ↔
      ∃ payload b, v = .record [(tag, payload)] ∧ decode payload = .ok b ∧ make b = a := by
  simp [Reads, single, map_eq_ok_iff]

/-- A case with labelled data reads what its reader does with a record. -/
lemma reads_labelled_iff {tag : String} {make : Record → Except Fault α} {v : Value} {a : α} :
    (labelled tag make).Reads v a ↔ ∃ r, v = .record [(tag, .record r)] ∧ make r = .ok a := by
  constructor
  · rintro (⟨-, h⟩ | ⟨payload, rfl, h⟩)
    · cases h
    · cases payload with
      | record r => exact ⟨r, rfl, h⟩
      | _ => cases h
  · rintro ⟨r, rfl, h⟩
    exact .inr ⟨.record r, rfl, h⟩

/-- Where tags are distinct, the case with a given tag is the one that is found. -/
lemma find?_eq_some_of_mem {cases : List (Case α)} (hk : (cases.map (·.tag)).Nodup) {c : Case α}
    (hc : c ∈ cases) : cases.find? (·.tag = c.tag) = some c := by
  cases hfind : cases.find? (·.tag = c.tag) with
  | none => exact absurd (decide_eq_true rfl) (List.find?_eq_none.mp hfind c hc)
  | some d =>
      have htag : d.tag = c.tag := by simpa using List.find?_some hfind
      rw [List.inj_on_of_nodup_map hk (List.mem_of_find?_eq_some hfind) hc htag]

/-- A tag and its payload are read by the case with this tag. -/
lemma readTagged_eq_ok_iff {cases : List (Case α)} (hk : (cases.map (·.tag)).Nodup)
    {tag : String} {payload : Option Value} {a : α} :
    readTagged cases tag payload = .ok a ↔ ∃ c ∈ cases, c.tag = tag ∧ c.read payload = .ok a := by
  unfold readTagged
  constructor
  · intro h
    split at h
    · next c hfind =>
      exact ⟨c, List.mem_of_find?_eq_some hfind, by simpa using List.find?_some hfind, h⟩
    · cases h
  · rintro ⟨c, hc, rfl, h⟩
    rw [find?_eq_some_of_mem hk hc]
    exact h

/-- **Where tags are distinct, a tree is read if one of the cases reads it.** -/
lemma readAny_eq_ok_iff {cases : List (Case α)} (hk : (cases.map (·.tag)).Nodup) {v : Value}
    {a : α} : readAny cases v = .ok a ↔ ∃ c ∈ cases, c.Reads v a := by
  constructor
  · intro h
    unfold readAny at h
    split at h
    · obtain ⟨c, hc, rfl, hread⟩ := (readTagged_eq_ok_iff hk).mp h
      exact ⟨c, hc, .inl ⟨rfl, hread⟩⟩
    · obtain ⟨c, hc, rfl, hread⟩ := (readTagged_eq_ok_iff hk).mp h
      exact ⟨c, hc, .inr ⟨_, rfl, hread⟩⟩
    · cases h
  · rintro ⟨c, hc, ⟨rfl, hread⟩ | ⟨payload, rfl, hread⟩⟩
    · exact (readTagged_eq_ok_iff hk).mpr ⟨c, hc, rfl, hread⟩
    · exact (readTagged_eq_ok_iff hk).mpr ⟨c, hc, rfl, hread⟩

end Case

/-! ## Refusal -/

/-- A reader's answer is no refusal, or one because of the shape of the tree. -/
def ByShape (x : Except Fault α) : Prop :=
  ∀ error, x ≠ .error (.invalid error)

lemma byShape_ok (a : α) : ByShape (.ok a) := nofun

lemma byShape_mismatch : ByShape (.error .mismatch : Except Fault α) := nofun

/-- What is done to a result does not refuse. -/
lemma ByShape.map {x : Except Fault α} (h : ByShape x) (f : α → β) : ByShape (x.map f) := by
  cases x with
  | error fault => exact fun error heq => h error (by cases heq; rfl)
  | ok a => exact nofun

/-- Readers one after the other refuse for what one of them refuses. -/
lemma ByShape.bind {x : Except Fault α} (h : ByShape x) {f : α → Except Fault β}
    (hf : ∀ a, ByShape (f a)) : ByShape (x >>= f) := by
  cases x with
  | error fault => exact fun error heq => h error (by cases heq; rfl)
  | ok a => exact hf a

/-- Integers are refused for their shape or size. -/
lemma byShape_intBetween (low high : Int) (v : Value) : ByShape (v.intBetween low high) := by
  cases v with
  | int n =>
      rw [Value.intBetween]
      split
      · exact byShape_ok n
      · exact byShape_mismatch
  | _ => exact byShape_mismatch

lemma byShape_string (v : Value) : ByShape (decode v : Except Fault String) := by
  cases v with
  | text s => exact byShape_ok s
  | _ => exact byShape_mismatch

lemma byShape_int64 (v : Value) : ByShape (decode v : Except Fault Int64) :=
  (byShape_intBetween _ _ v).map _

lemma byShape_uint32 (v : Value) : ByShape (decode v : Except Fault UInt32) :=
  (byShape_intBetween _ _ v).map _

/-- Taking a record apart refuses trees that are none. -/
lemma byShape_asRecord (keys : List String) (v : Value) : ByShape (v.asRecord keys) := by
  cases v with
  | record fields => exact byShape_ok fields
  | list items =>
      rw [Value.asRecord]
      split
      · exact byShape_ok _
      · exact byShape_mismatch
  | _ => exact byShape_mismatch

/-- A case around one value refuses what the reader of the value does. -/
lemma Case.byShape_single [Readable β] (h : ∀ v, ByShape (decode v : Except Fault β))
    (tag : String) (make : β → α) (payload : Option Value) :
    ByShape ((single tag make).read payload) := by
  cases payload with
  | none => exact byShape_mismatch
  | some v => exact (h v).map make

/-- A case with labelled data refuses what its reader does. -/
lemma Case.byShape_labelled (tag : String) {make : Record → Except Fault α}
    (h : ∀ r, ByShape (make r)) (payload : Option Value) :
    ByShape ((labelled tag make).read payload) := by
  cases payload with
  | none => exact byShape_mismatch
  | some v =>
      cases v with
      | record r => exact h r
      | _ => exact byShape_mismatch

/-- A variant type refuses for its shape what all of its cases do. -/
lemma byShape_readAny {cases : List (Case α)}
    (h : ∀ c ∈ cases, ∀ payload, ByShape (c.read payload)) (v : Value) :
    ByShape (Case.readAny cases v) := by
  have htagged : ∀ tag payload, ByShape (Case.readTagged cases tag payload) := by
    intro tag payload
    unfold Case.readTagged
    split
    · next c hfind => exact h c (List.mem_of_find?_eq_some hfind) payload
    · exact byShape_mismatch
  unfold Case.readAny
  split
  · exact htagged _ _
  · exact htagged _ _
  · exact byShape_mismatch

end MiddleEnd
