import MiddleEnd.Ascending
import MiddleEnd.Ident.Basic

/-!
# The order of identifiers

Identifiers of different kinds are ordered by kind: built-in ones first, then plain globals,
applied globals, locals of a scope, and locals. Within a kind the stamp decides, then the name,
then the scope; globals, which have no stamp, are ordered by name.

`compareStamp` looks at the stamps alone.
-/

namespace MiddleEnd.Ident

/-- The place of a kind in the order. -/
def Kind.rank : Kind → Nat
  | .builtIn => 0
  | .global => 1
  | .applied => 2
  | .scopeLocal => 3
  | .unitLocal => 4

/-- The order of identifiers. -/
def order : Ident → Ident → Ordering
  | unitLocal a s, unitLocal b t => (compare s t).then (compare a b)
  | scopeLocal a s k, scopeLocal b t l => ((compare s t).then (compare a b)).then (compare k l)
  | global a, global b => compare a b
  | applied a, applied b => compare a b
  | builtIn a s, builtIn b t => (compare s t).then (compare a b)
  | a, b => compare a.kind.rank b.kind.rank

instance : Ord Ident := ⟨order⟩

/-- The order of the stamps alone. -/
def compareStamp (a b : Ident) : Ordering :=
  compare a.stamp b.stamp

end MiddleEnd.Ident
