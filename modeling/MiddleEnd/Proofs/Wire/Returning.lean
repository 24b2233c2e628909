import MiddleEnd.Proofs.Wire.Reading

/-!
# Values that are read back

`Returns a` says that `a` is read back from its own wire form. Plain values return, and so do
sequences and optional values whose parts do (`returns_list`, `returns_some`). An optional value
needs more than that of its part: what is written as `null` would be taken for missing.

Records and variants need no statement of their own. On a wire form that was written, finding a
field or the case of a tag is a computation. What it comes to are the readers of the parts, one
behind the other (`Returns.of_parts`), and `read₁` to `read₅` say what these give.
-/

namespace MiddleEnd

open Wire (Value Record)

variable {α β γ δ ε ζ : Type}

/-- A value is read back from its own wire form. -/
def Returns [Described α] [Readable α] (a : α) : Prop :=
  decode (encode a) = .ok a

/-! ## Readers that succeed -/

/-- What is read from one part. -/
lemma read₁ (make : α → β) {x : Except Fault α} {a : α} (hx : x = .ok a) :
    (do return make (← x)) = (.ok (make a) : Except Fault β) := by
  rw [hx]
  rfl

/-- What is read from two parts. -/
lemma read₂ (make : α → β → γ) {x : Except Fault α} {y : Except Fault β} {a : α} {b : β}
    (hx : x = .ok a) (hy : y = .ok b) :
    (do return make (← x) (← y)) = (.ok (make a b) : Except Fault γ) := by
  rw [hx]
  exact read₁ (make a) hy

/-- What is read from three parts. -/
lemma read₃ (make : α → β → γ → δ) {x : Except Fault α} {y : Except Fault β} {z : Except Fault γ}
    {a : α} {b : β} {c : γ} (hx : x = .ok a) (hy : y = .ok b) (hz : z = .ok c) :
    (do return make (← x) (← y) (← z)) = (.ok (make a b c) : Except Fault δ) := by
  rw [hx]
  exact read₂ (make a) hy hz

/-- What is read from four parts. -/
lemma read₄ (make : α → β → γ → δ → ε) {x : Except Fault α} {y : Except Fault β}
    {z : Except Fault γ} {w : Except Fault δ} {a : α} {b : β} {c : γ} {d : δ} (hx : x = .ok a)
    (hy : y = .ok b) (hz : z = .ok c) (hw : w = .ok d) :
    (do return make (← x) (← y) (← z) (← w)) = (.ok (make a b c d) : Except Fault ε) := by
  rw [hx]
  exact read₃ (make a) hy hz hw

/-- What is read from five parts. -/
lemma read₅ (make : α → β → γ → δ → ε → ζ) {x : Except Fault α} {y : Except Fault β}
    {z : Except Fault γ} {w : Except Fault δ} {u : Except Fault ε} {a : α} {b : β} {c : γ} {d : δ}
    {e : ε} (hx : x = .ok a) (hy : y = .ok b) (hz : z = .ok c) (hw : w = .ok d) (hu : u = .ok e) :
    (do return make (← x) (← y) (← z) (← w) (← u)) = (.ok (make a b c d e) : Except Fault ζ) := by
  rw [hx]
  exact read₄ (make a) hy hz hw hu

/-- A value returns if its wire form is read part by part and the parts return. -/
lemma Returns.of_parts [Described α] [Readable α] {a : α} {x : Except Fault α} (hx : x = .ok a)
    (hparts : decode (encode a) = x) : Returns a :=
  hparts.trans hx

/-! ## Plain values -/

lemma returns_bool (b : Bool) : Returns b := rfl

lemma returns_string (s : String) : Returns s := rfl

lemma returns_uint8 (n : UInt8) : Returns n := by
  have hlt := n.toNat_lt
  refine (intBetween_map_eq_ok_iff (fun n : UInt8 => (n.toNat : Int)) ⟨by omega, by omega⟩
    (by simp) fun m hlow hhigh => ?_).mpr rfl
  simp only [UInt8.toNat_ofNat']
  omega

lemma returns_uint32 (n : UInt32) : Returns n :=
  decode_uint32_eq_ok_iff.mpr rfl

lemma returns_uint64 (n : UInt64) : Returns n := by
  have hlt := n.toNat_lt
  refine (intBetween_map_eq_ok_iff (fun n : UInt64 => (n.toNat : Int)) ⟨by omega, by omega⟩
    (by simp) fun m hlow hhigh => ?_).mpr rfl
  simp only [UInt64.toNat_ofNat']
  omega

lemma returns_int32 (n : Int32) : Returns n := by
  have hlo := n.le_toInt
  have hhi := n.toInt_lt
  refine (intBetween_map_eq_ok_iff Int32.toInt ⟨by omega, by omega⟩ n.ofInt_toInt
    fun m hlow hhigh => ?_).mpr rfl
  exact Int32.toInt_ofInt_of_le (by omega) (by omega)

lemma returns_int64 (n : Int64) : Returns n :=
  decode_int64_eq_ok_iff.mpr rfl

/-! ## Sequences and optional values -/

/-- What is not `null` is read as a value that is there. -/
lemma decode_option_of_ne_null [Readable α] {v : Value} (hv : v ≠ .null) :
    (decode v : Except Fault (Option α)) = (decode v).map some := by
  cases v with
  | null => exact absurd rfl hv
  | _ => rfl

section parts

variable [Described α] [Readable α]

/-- The wire forms of items are read back one by one. -/
lemma mapM_decode_encode {items : List α} (h : ∀ a ∈ items, Returns a) :
    (items.map encode).mapM decode = (.ok items : Except Fault (List α)) := by
  induction items with
  | nil => rfl
  | cons a items ih =>
      obtain ⟨ha, hitems⟩ := List.forall_mem_cons.mp h
      rw [List.map_cons, List.mapM_cons]
      exact read₂ List.cons ha (ih hitems)

/-- A sequence returns if its items do. -/
lemma returns_list {items : List α} (h : ∀ a ∈ items, Returns a) : Returns items := by
  have hwire : encode items = .list (items.map encode) := by
    change Value.list (Form.wireItems (items.map form)) = _
    rw [Form.wireItems_eq_map, List.map_map]
    rfl
  rw [Returns, hwire]
  exact mapM_decode_encode h

/-- A value that is there returns if it does by itself and is not written as `null`. -/
lemma returns_some {a : α} (ha : Returns a) (hnull : encode a ≠ .null) : Returns (some a) := by
  have hwire : encode (some a) = encode a := rfl
  rw [Returns, hwire, decode_option_of_ne_null hnull]
  exact map_eq_ok_iff.mpr ⟨a, ha, rfl⟩

/-- An optional value returns if, when it is there, it does. -/
lemma returns_option {o : Option α} (h : ∀ a : α, Returns a ∧ encode a ≠ .null) : Returns o := by
  cases o with
  | none => rfl
  | some a => exact returns_some (h a).1 (h a).2

end parts

end MiddleEnd
