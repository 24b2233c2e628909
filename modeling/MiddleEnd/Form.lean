import MiddleEnd.Outline
import MiddleEnd.Wire.Value

/-!
# Forms

A `Form` says what a value consists of: plain values, named records and tagged variants. Two
renderings start from it, so that what is exchanged and what is shown cannot drift apart.

* `Form.wire` — the value tree that is exchanged. Names of types are dropped; a variant is its
  tag, or a record whose one field is the tag; a wrapper is what it wraps; an absent value is
  `null`.
* `Form.outline` — the description, in which every name is shown.

The class `Described` gives a type its forms; `encode` is then its wire form.
-/

namespace MiddleEnd

open Wire (Value)

/-- What a value consists of. -/
inductive Form where
  /-- A truth value. -/
  | bool (b : Bool)
  /-- An integer. -/
  | int (n : Int)
  /-- A text. -/
  | text (s : String)
  /-- A value that is not there. -/
  | absent
  /-- A value that may be missing and is there. -/
  | present (inner : Form)
  /-- A sequence. -/
  | list (items : List Form)
  /-- A named wrapper around one value. -/
  | wrapper (name : String) (inner : Form)
  /-- A named record. -/
  | record (name : String) (fields : List (String × Form))
  /-- A variant without data. -/
  | bare (tag : String)
  /-- A variant around one value. -/
  | single (tag : String) (inner : Form)
  /-- A variant with labelled data. -/
  | labelled (tag : String) (fields : List (String × Form))

namespace Form

/-! ## The wire form -/

mutual

/-- The value tree of a form. -/
def wire : Form → Value
  | .bool b => .bool b
  | .int n => .int n
  | .text s => .text s
  | .absent => .null
  | .present inner => inner.wire
  | .list items => .list (wireItems items)
  | .wrapper _ inner => inner.wire
  | .record _ fields => .record (wireFields fields)
  | .bare tag => .text tag
  | .single tag inner => .record [(tag, inner.wire)]
  | .labelled tag fields => .record [(tag, .record (wireFields fields))]

/-- The value trees of a sequence. -/
def wireItems : List Form → List Value
  | [] => []
  | item :: items => item.wire :: wireItems items

/-- The value trees of labelled data. -/
def wireFields : List (String × Form) → List (String × Value)
  | [] => []
  | (label, field) :: fields => (label, field.wire) :: wireFields fields

end

/-- A sequence is exchanged item by item. -/
theorem wireItems_eq_map (items : List Form) : wireItems items = items.map wire := by
  induction items with
  | nil => rfl
  | cons item items ih => simp [wireItems, ih]

/-! ## The description -/

mutual

/-- The description of a form. -/
def outline : Form → Outline
  | .bool b => .bool b
  | .int n => .int n
  | .text s => .text s
  | .absent => .option none
  | .present inner => .option (some inner.outline)
  | .list items => .list (outlineItems items)
  | .wrapper name inner => .tuple name [inner.outline]
  | .record name fields => .record name (outlineFields fields)
  | .bare tag => .word tag
  | .single tag inner => .tuple tag [inner.outline]
  | .labelled tag fields => .record tag (outlineFields fields)

/-- The descriptions of a sequence. -/
def outlineItems : List Form → List Outline
  | [] => []
  | item :: items => item.outline :: outlineItems items

/-- The descriptions of labelled data. -/
def outlineFields : List (String × Form) → List (String × Outline)
  | [] => []
  | (label, field) :: fields => (label, field.outline) :: outlineFields fields

end

end Form

/-! ## Described types -/

/-- Types whose values have a form. -/
class Described (α : Type) where
  /-- What a value consists of. -/
  form : α → Form

export Described (form)

/-- The wire form of a value. -/
def encode {α : Type} [Described α] (a : α) : Value :=
  (form a).wire

instance {α : Type} [Described α] : Outlined α :=
  ⟨fun a => (form a).outline⟩

instance : Described Bool := ⟨.bool⟩

instance : Described String := ⟨.text⟩

instance : Described UInt8 := ⟨fun n => .int n.toNat⟩

instance : Described UInt32 := ⟨fun n => .int n.toNat⟩

instance : Described UInt64 := ⟨fun n => .int n.toNat⟩

instance : Described Int32 := ⟨fun n => .int n.toInt⟩

instance : Described Int64 := ⟨fun n => .int n.toInt⟩

instance {α : Type} [Described α] : Described (List α) :=
  ⟨fun items => .list (items.map form)⟩

instance {α : Type} [Described α] : Described (Option α) where
  form
    | none => .absent
    | some a => .present (form a)

end MiddleEnd
