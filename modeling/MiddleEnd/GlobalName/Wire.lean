import MiddleEnd.GlobalName
import MiddleEnd.Wire.Read

/-!
# Reading global names

A name is a record of its head and its arguments, an argument a record of its parameter and its
value. Names nest to any depth, so the readers recurse on the size of the value tree:
`sizeOf_asRecord_value_lt` says that every field of a record is smaller than the tree it was
taken from, in both of the ways a record can be written.
-/

namespace MiddleEnd

open Wire (Value Record)

/-- A value in a list of fields that was zipped together from a list of items is one of the items,
or empty. -/
theorem sizeOf_value_zip_lt (keys : List String) (items : List Value) (key : String) :
    sizeOf (Record.value (keys.zip items) key) < sizeOf (Value.list items) := by
  induction keys generalizing items with
  | nil =>
    rw [List.zip_nil_left, Record.value_nil]
    cases items <;>
      simp only [Value.null.sizeOf_spec, Value.list.sizeOf_spec, List.nil.sizeOf_spec,
        List.cons.sizeOf_spec] <;>
      omega
  | cons k keys ih =>
    cases items with
    | nil => simp
    | cons item items =>
      rw [List.zip_cons_cons, Record.value_cons]
      have := ih items
      split <;> simp only [Value.list.sizeOf_spec, List.cons.sizeOf_spec] at this ⊢ <;> omega

/-- The fields of a record are smaller than the record, however it is written. -/
theorem sizeOf_asRecord_value_lt {keys : List String} {v : Value} {r : Record}
    (h : v.asRecord keys = .ok r) (key : String) : sizeOf (r.value key) < sizeOf v := by
  cases v with
  | record fields =>
    simp only [Value.asRecord, Except.ok.injEq] at h
    subst h
    exact Record.sizeOf_value_lt fields key
  | list items =>
    simp only [Value.asRecord] at h
    split at h
    · simp only [Except.ok.injEq] at h
      subst h
      exact sizeOf_value_zip_lt keys items key
    · cases h
  | _ => cases h

namespace GlobalName

mutual

/-- Reads a name. -/
def readName (v : Value) : Except Fault GlobalName :=
  match h : v.asRecord ["head", "args"] with
  | .error fault => .error fault
  | .ok r => do
    have := sizeOf_asRecord_value_lt h "args"
    let head ← r.get "head"
    let args ← readArgs (r.value "args")
    return ⟨head, args⟩
termination_by sizeOf v

/-- Reads the list of arguments. -/
def readArgs : Value → Except Fault (List GlobalArg)
  | .list items => readItems items
  | _ => .error .mismatch
termination_by v => sizeOf v

/-- Reads arguments one by one. -/
def readItems : List Value → Except Fault (List GlobalArg)
  | [] => .ok []
  | item :: items => do
    let arg ← readArg item
    let args ← readItems items
    return arg :: args
termination_by items => sizeOf items

/-- Reads one argument. -/
def readArg (v : Value) : Except Fault GlobalArg :=
  match h : v.asRecord ["param", "value"] with
  | .error fault => .error fault
  | .ok r => do
    have := sizeOf_asRecord_value_lt h "param"
    have := sizeOf_asRecord_value_lt h "value"
    let param ← readName (r.value "param")
    let value ← readName (r.value "value")
    return ⟨param, value⟩
termination_by sizeOf v

end

instance : Readable GlobalName := ⟨readName⟩

instance : Readable GlobalArg := ⟨readArg⟩

end GlobalName

end MiddleEnd
