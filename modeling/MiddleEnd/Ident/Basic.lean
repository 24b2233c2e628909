import MiddleEnd.GlobalName
import MiddleEnd.Ident.Error

/-!
# Identifiers

Every binding that the middle end talks about is named by an `Ident`. There are five kinds, and
they disagree on what makes two names the same.

* `unitLocal` and `scopeLocal` carry a stamp drawn for them; two of them denote the same binding
  when their stamps are equal. A `scopeLocal` also records the scope that introduced it.
* `global` persists across compilation units and is unique by its name.
* `applied` is a global instantiated with arguments and is compared as a whole.
* `builtIn` is built in. Its stamp comes from a counter of its own.

`Ident.sameName` asks for the same kind and the same name, stamps apart; `Ident.same` asks for the
same binding. The two must not be mixed up. `WellFormed` says what every identifier obeys that is
minted or read: an `applied` name has an argument, and no scope is above `highestScope`.
-/

namespace MiddleEnd

/-- The integer that tells bindings of one name apart. -/
abbrev Stamp := Int64

/-- The scope of everything that is not bound inside a unit. -/
def lowestScope : UInt32 := 0

/-- The scope of local identifiers, and the bound on all scopes. -/
def highestScope : UInt32 := 100000000

/-- A name for a program entity. -/
inductive Ident where
  /-- A binding local to one compilation unit. -/
  | unitLocal (name : String) (stamp : Stamp)
  /-- A local binding that records the scope that introduced it. -/
  | scopeLocal (name : String) (stamp : Stamp) (scope : UInt32)
  /-- A persistent entity, unique by name. -/
  | global (name : String)
  /-- A persistent entity instantiated with arguments. -/
  | applied (name : GlobalName)
  /-- A built-in entity. -/
  | builtIn (name : String) (stamp : Stamp)
deriving DecidableEq

namespace Ident

/-! ## Kinds -/

/-- The five kinds of identifiers. -/
inductive Kind where
  /-- See `Ident.unitLocal`. -/
  | unitLocal
  /-- See `Ident.scopeLocal`. -/
  | scopeLocal
  /-- See `Ident.global`. -/
  | global
  /-- See `Ident.applied`. -/
  | applied
  /-- See `Ident.builtIn`. -/
  | builtIn
deriving DecidableEq

/-- The word for a kind in what is written and shown. -/
def Kind.label : Kind → String
  | unitLocal => "Local"
  | scopeLocal => "Scoped"
  | global => "Global"
  | applied => "GlobalWithArgs"
  | builtIn => "Predef"

/-- The kind of an identifier. -/
def kind : Ident → Kind
  | unitLocal _ _ => .unitLocal
  | scopeLocal _ _ _ => .scopeLocal
  | global _ => .global
  | applied _ => .applied
  | builtIn _ _ => .builtIn

/-- Whether the identifier is bound inside a unit, so that it can be renamed and have a key. -/
def isLocal : Ident → Bool
  | unitLocal _ _ => true
  | scopeLocal _ _ _ => true
  | _ => false

/-- Whether the identifier persists across compilation units. -/
def isPersistent : Ident → Bool
  | global _ => true
  | applied _ => true
  | _ => false

/-- Whether the identifier belongs to no unit in particular. -/
def isGlobal (i : Ident) : Bool :=
  !i.isLocal

/-- Whether the identifier is built in. -/
def isBuiltIn : Ident → Bool
  | builtIn _ _ => true
  | _ => false

/-- Whether the identifier is a plain global or built in. -/
def isGlobalOrBuiltIn : Ident → Bool
  | global _ => true
  | builtIn _ _ => true
  | _ => false

/-! ## Making identifiers -/

/-- A local identifier of a scope; scopes above the highest one count as the highest. -/
def ofScope (name : String) (stamp : Stamp) (scope : UInt32) : Ident :=
  .scopeLocal name stamp (min scope highestScope)

/-- The identifier of a global entity. A name without arguments is a plain global, so that an
applied one always has an argument. -/
def ofGlobalName (g : GlobalName) : Ident :=
  if g.hasArgs then .applied g else .global g.head

/-- What holds of every identifier that is minted or read. -/
def WellFormed : Ident → Prop
  | scopeLocal _ _ scope => scope ≤ highestScope
  | applied g => g.hasArgs = true
  | _ => True

/-- Checks an identifier that was written down: an applied name must have an argument, and scopes
above the highest one count as the highest. -/
def validate : Ident → Except IdentError Ident
  | applied g => if g.hasArgs then .ok (.applied g) else .error (.emptyGlobalArgs g.head)
  | scopeLocal name stamp scope => .ok (ofScope name stamp scope)
  | i => .ok i

/-! ## Parts -/

/-- The name as the source has it; an applied name with its arguments. -/
def name : Ident → String
  | unitLocal name _ => name
  | scopeLocal name _ _ => name
  | global name => name
  | applied g => g.render
  | builtIn name _ => name

/-- The name without arguments. -/
def head : Ident → String
  | applied g => g.head
  | i => i.name

/-- The stamp of a local identifier, and zero for all others: the stamps of built-in identifiers
are counted apart and are never compared with those of locals. -/
def stamp : Ident → Stamp
  | unitLocal _ stamp => stamp
  | scopeLocal _ stamp _ => stamp
  | _ => 0

/-- The scope by which bindings are ordered. -/
def scope : Ident → UInt32
  | unitLocal _ _ => highestScope
  | scopeLocal _ _ scope => scope
  | _ => lowestScope

/-- A cheap hash: the first character of the name, mixed with the stamp. -/
def quickHash (i : Ident) : Int64 :=
  let first := match i.head.toList with
    | c :: _ => c.toNat
    | [] => 0
  Int64.ofNat first ^^^ i.stamp

/-! ## Equality by name and by binding -/

/-- The same kind and the same name, stamps apart. -/
def sameName : Ident → Ident → Bool
  | unitLocal a _, unitLocal b _ => a = b
  | scopeLocal a _ _, scopeLocal b _ _ => a = b
  | global a, global b => a = b
  | applied a, applied b => a = b
  | builtIn a _, builtIn b _ => a = b
  | _, _ => false

/-- The same binding: of stamped kinds the stamps decide, of the others the names. -/
def same : Ident → Ident → Bool
  | unitLocal _ s, unitLocal _ t => s = t
  | scopeLocal _ s _, scopeLocal _ t _ => s = t
  | global a, global b => a = b
  | applied a, applied b => a = b
  | builtIn _ s, builtIn _ t => s = t
  | _, _ => false

/-! ## Form -/

instance : Described Ident where
  form i := .wrapper "Ident" <|
    match i with
    | unitLocal name stamp => .labelled i.kind.label [("name", form name), ("stamp", form stamp)]
    | scopeLocal name stamp scope =>
      .labelled i.kind.label [("name", form name), ("stamp", form stamp), ("scope", form scope)]
    | global name => .single i.kind.label (form name)
    | applied g => .single i.kind.label (form g)
    | builtIn name stamp => .labelled i.kind.label [("name", form name), ("stamp", form stamp)]

end Ident

end MiddleEnd
