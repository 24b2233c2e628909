import MiddleEnd.Edition

/-!
# Archives

An `Archive` keeps editions of a table side by side, numbered from 0; edition 0 is the empty table
that every archive starts from. Updates may start from any edition that is kept, and give an
edition that the archive may keep in turn. The archive numbers the nodes that are made for any of
its editions one after the other, so that no two of them get the same number.
-/

namespace MiddleEnd

variable {V : Type}

/-- Editions of a table, and the number of nodes so far. -/
structure Archive (V : Type) where
  /-- The editions that are kept, oldest first. -/
  editions : Array (Edition V) := #[{}]
  /-- The number of nodes so far. -/
  nodes : Nat := 0

namespace Archive

/-- The edition at an index. -/
def get? (a : Archive V) (index : Nat) : Option (Edition V) :=
  a.editions[index]?

/-- The edition that was kept last. -/
def latest? (a : Archive V) : Option (Edition V) :=
  a.editions.back?

/-- Keeps an edition. -/
def keep (a : Archive V) (e : Edition V) : Archive V :=
  { a with editions := a.editions.push e }

/-- Binds an identifier in an edition. -/
def insert (a : Archive V) (e : Edition V) (b : Binding V) : Edition V × Archive V :=
  let (e, nodes) := (e.insert b).run a.nodes
  (e, { a with nodes := nodes })

/-- Binds identifiers one after the other, starting from the empty table. -/
def ofList (a : Archive V) (bs : List (Binding V)) : Edition V × Archive V :=
  let (e, nodes) := (Edition.ofList bs).run a.nodes
  (e, { a with nodes := nodes })

/-- Erases an identifier in an edition, and reports what was done. -/
def erase (a : Archive V) (e : Edition V) (i : Ident) : Edition V × List Event × Archive V :=
  let ((e, log), nodes) := (e.erase i).run a.nodes
  (e, log, { a with nodes := nodes })

end Archive

end MiddleEnd
