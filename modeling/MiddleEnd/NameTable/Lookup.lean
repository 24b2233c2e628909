import MiddleEnd.NameTable.Basic

/-!
# Looking up names

* `chain?` follows the search path of a name; `newest?` and `bindingsOf` give the newest
  binding of the name and all of them.
* `find?` looks for a binding that is the same as an identifier, among those of its name.
* `Cursor` gives the bindings of a name one at a time. A cursor is a value: keeping one keeps the
  place, and `cursor` starts over.
-/

namespace MiddleEnd

variable {V : Type}

/-- A place in the bindings of a name. -/
structure Cursor (V : Type) where
  /-- The bindings still to come. -/
  rest : List (Binding V)

namespace Cursor

/-- The next binding, and the cursor behind it. -/
def next (c : Cursor V) : Option (Binding V) × Cursor V :=
  match c.rest with
  | [] => (none, c)
  | b :: bs => (some b, ⟨bs⟩)

/-- The answers of so many calls of `next`, and the cursor behind them. -/
def take (c : Cursor V) : Nat → List (Option (Binding V)) × Cursor V
  | 0 => ([], c)
  | n + 1 =>
    let (b, c) := c.next
    let (bs, c) := c.take n
    (b :: bs, c)

/-- Everything that is still to come. -/
def drain (c : Cursor V) : List (Binding V) :=
  c.rest

end Cursor

namespace NameTable

/-- The chain of a name. -/
def chain? (name : String) : NameTable V → Option (Chain V)
  | empty => none
  | node left chain right _ =>
    match compare name chain.name with
    | .eq => some chain
    | .lt => chain? name left
    | .gt => chain? name right

/-- All bindings of a name, to be taken one at a time, newest first. -/
def cursor (name : String) (t : NameTable V) : Cursor V :=
  match t.chain? name with
  | some chain => ⟨chain.toList⟩
  | none => ⟨[]⟩

/-- All bindings of a name, newest first. -/
def bindingsOf (name : String) (t : NameTable V) : List (Binding V) :=
  (t.cursor name).drain

/-- The newest binding of a name. -/
def newest? (name : String) (t : NameTable V) : Option (Binding V) :=
  (t.cursor name).next.1

/-- The data of the newest binding that is the same as an identifier. -/
def find? (i : Ident) (t : NameTable V) : Option V :=
  ((t.cursor i.name).drain.find? (·.ident.same i)).map (·.data)

end NameTable

end MiddleEnd
