import MiddleEnd.NameTable.Basic

/-!
# Editions of a table

Tables are values, and two tables with the same contents can come from different updates. An
`Edition` is a table whose nodes are numbered, so that one can tell whether two tables are the very
same one: whether they have the same root. An update numbers the nodes that it makes, in the order
that it makes them, and leaves the nodes that it shares with the old table as they are. How many
nodes there have been is for whoever makes the updates to keep.

Erasing an unbound name makes no nodes: the edition stays as it is. And what comes back from other
updates need not be new. Where a removal leaves one subtree of the root, this subtree is what comes
back, with its own number; two removals that leave it come to the very same table.
-/

namespace MiddleEnd

variable {V : Type}

/-- What is noted in a node that is numbered. -/
structure Mark where
  /-- The height of the node. -/
  height : Nat
  /-- The number of the node. -/
  number : Nat
deriving DecidableEq

instance : HasHeight Mark := ⟨Mark.height⟩

/-- The workshop that numbers its nodes; it keeps the number of nodes that there have been. -/
def Workshop.numbering : Workshop (StateM Nat) V Mark where
  note height := modifyGet fun nodes => (⟨height, nodes⟩, nodes + 1)
  observe _ := return

/-- A table whose nodes are numbered. -/
structure Edition (V : Type) where
  /-- The table with its numbers. -/
  tree : NameTable V Mark := .empty
deriving DecidableEq

namespace Edition

instance : Inhabited (Edition V) := ⟨{}⟩

/-- The table. -/
def table (e : Edition V) : NameTable V :=
  e.tree.plain

/-- The number of the root, unless the table is empty. -/
def root? (e : Edition V) : Option Nat :=
  e.tree.root?.map Mark.number

/-- Whether two editions are the very same table. -/
def sharesRoot (a b : Edition V) : Bool :=
  a.root? = b.root?

/-- Every edition is the very same table as itself. -/
theorem sharesRoot_self (e : Edition V) : e.sharesRoot e = true :=
  decide_eq_true rfl

/-- Binds an identifier. -/
def insert (e : Edition V) (b : Binding V) : StateM Nat (Edition V) :=
  return ⟨← Workshop.numbering.insert b e.tree⟩

/-- Binds identifiers one after the other, starting from the empty table. -/
def ofList (bs : List (Binding V)) : StateM Nat (Edition V) :=
  bs.foldlM (fun e b => e.insert b) {}

/-- Erases an identifier, and reports what was done. -/
def erase (e : Edition V) (i : Ident) : StateM Nat (Edition V × List Event) := do
  match ← Workshop.numbering.erase? i e.tree with
  | some r => return (⟨r.table⟩, r.log)
  | none => return (e, [])

end Edition

end MiddleEnd
