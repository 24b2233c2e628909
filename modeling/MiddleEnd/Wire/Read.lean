import MiddleEnd.Form
import MiddleEnd.Ident.Error

/-!
# Reading values from their wire form

`decode` takes a value tree back to a value, or says why it cannot (`Fault`).

* Numbers must be integers within the range of their type, and nothing is converted.
* A value that may be missing is `null` when it is.
* A record (`Value.asRecord`) is written with its field names, unknown names being ignored, or as
  the bare list of all its fields in order.
* A variant type is read through the list of its cases (`Case`): each has a tag and a reader of
  the payload behind the tag. A case without data is the tag alone, or the tag with `null`; a case
  with labelled data needs a record, and the list form is not accepted for it.
-/

namespace MiddleEnd

open Wire (Value Record)

/-- Why a value tree is refused. -/
inductive Fault where
  /-- The tree does not have the shape of the type. -/
  | mismatch
  /-- The tree has the right shape, but the identifier it describes is not allowed. -/
  | invalid (error : IdentError)
deriving DecidableEq

/-- Types whose values can be read from their wire form. -/
class Readable (α : Type) where
  /-- Reads a value tree. -/
  read : Value → Except Fault α

/-- The value that a tree describes. -/
def decode {α : Type} [Readable α] (v : Value) : Except Fault α :=
  Readable.read v

/-! ## Plain values -/

/-- An integer between two bounds, both included. -/
def Wire.Value.intBetween (low high : Int) : Value → Except Fault Int
  | .int n => if low ≤ n ∧ n ≤ high then .ok n else .error .mismatch
  | _ => .error .mismatch

instance : Readable Bool where
  read
    | .bool b => .ok b
    | _ => .error .mismatch

instance : Readable String where
  read
    | .text s => .ok s
    | _ => .error .mismatch

instance : Readable UInt8 :=
  ⟨fun v => (v.intBetween 0 255).map fun n => UInt8.ofNat n.toNat⟩

instance : Readable UInt32 :=
  ⟨fun v => (v.intBetween 0 4294967295).map fun n => UInt32.ofNat n.toNat⟩

instance : Readable UInt64 :=
  ⟨fun v => (v.intBetween 0 18446744073709551615).map fun n => UInt64.ofNat n.toNat⟩

instance : Readable Int32 :=
  ⟨fun v => (v.intBetween (-2147483648) 2147483647).map Int32.ofInt⟩

instance : Readable Int64 :=
  ⟨fun v => (v.intBetween (-9223372036854775808) 9223372036854775807).map Int64.ofInt⟩

instance {α : Type} [Readable α] : Readable (List α) where
  read
    | .list items => items.mapM decode
    | _ => .error .mismatch

instance {α : Type} [Readable α] : Readable (Option α) where
  read
    | .null => .ok none
    | v => (decode v).map some

/-! ## Records -/

/-- The fields of a record with the given field names. The bare list of all fields, in order,
stands for the record as well. -/
def Wire.Value.asRecord (keys : List String) : Value → Except Fault Record
  | .record fields => .ok fields
  | .list items => if items.length = keys.length then .ok (keys.zip items) else .error .mismatch
  | _ => .error .mismatch

/-- Reads a field of a record. -/
def Wire.Record.get {α : Type} [Readable α] (r : Record) (key : String) : Except Fault α :=
  decode (r.value key)

/-! ## Variants -/

/-- One case of a variant type: its tag, and the reader of what stands behind the tag. -/
structure Case (α : Type) where
  /-- The tag of the case. -/
  tag : String
  /-- Reads the payload, which may be missing. -/
  read : Option Value → Except Fault α

namespace Case

variable {α β : Type}

/-- A case without data. -/
def bare (tag : String) (a : α) : Case α where
  tag := tag
  read
    | none => .ok a
    | some .null => .ok a
    | some _ => .error .mismatch

/-- A case around one value. -/
def single [Readable β] (tag : String) (make : β → α) : Case α where
  tag := tag
  read
    | some v => (decode v).map make
    | none => .error .mismatch

/-- A case with labelled data. -/
def labelled (tag : String) (make : Record → Except Fault α) : Case α where
  tag := tag
  read
    | some (.record fields) => make fields
    | _ => .error .mismatch

/-- Reads a payload through the case with the given tag. -/
def readTagged (cases : List (Case α)) (tag : String) (payload : Option Value) :
    Except Fault α :=
  match cases.find? (·.tag = tag) with
  | some c => c.read payload
  | none => .error .mismatch

/-- Reads a value tree as one of the cases: a bare tag, or a record whose one field is the tag. -/
def readAny (cases : List (Case α)) : Value → Except Fault α
  | .text tag => readTagged cases tag none
  | .record [(tag, payload)] => readTagged cases tag (some payload)
  | _ => .error .mismatch

/-- The cases of a type that has no data at all, by the label of each value. -/
def ofLabels (label : α → String) (values : List α) : List (Case α) :=
  values.map fun a => bare (label a) a

end Case

end MiddleEnd
