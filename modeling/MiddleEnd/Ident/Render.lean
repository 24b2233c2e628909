import MiddleEnd.Ident.Basic

/-!
# The texts of identifiers

* `Ident.render` — for messages. Globals are marked by `!`; the stamp and the scope of other
  identifiers are shown on request (`RenderOptions`).
* `Ident.symbolName` — for symbols in generated code. A global gets the suffix `_0`, which no
  stamp that is minted has, so that a unit called `Foo_12` is kept apart from a local `Foo` with
  the stamp 12.
* `Ident.toplevelName` — for definitions at top level, where only locals need their stamp.
-/

namespace MiddleEnd

/-- What is shown of an identifier besides its name. -/
structure RenderOptions where
  /-- Show the stamp, behind a slash. -/
  uniqueIds : Bool := false
  /-- Show the scope, in brackets. -/
  withScope : Bool := false
deriving DecidableEq

instance : Outlined RenderOptions where
  outline o := .record "PrintOptions"
    [("unique_ids", .bool o.uniqueIds), ("with_scope", .bool o.withScope)]

namespace Ident

/-- The decimal text of a stamp. -/
def stampText (s : Stamp) : String :=
  toString s.toInt

/-- The decimal text of a scope. -/
def scopeText (s : UInt32) : String :=
  toString s.toNat

/-- The text of an identifier in messages. -/
def render (o : RenderOptions) : Ident → String
  | global name => name ++ "!"
  | applied g => g.render ++ "!"
  | unitLocal name stamp => name ++ stampSuffix stamp
  | builtIn name stamp => name ++ stampSuffix stamp
  | scopeLocal name stamp scope =>
    name ++ stampSuffix stamp ++ (if o.withScope then "[" ++ scopeText scope ++ "]" else "")
where
  /-- The stamp, when it is asked for. -/
  stampSuffix (stamp : Stamp) : String :=
    if o.uniqueIds then "/" ++ stampText stamp else ""

/-- The symbol of an identifier in generated code. -/
def symbolName : Ident → String
  | unitLocal name stamp => name ++ "_" ++ stampText stamp
  | scopeLocal name stamp _ => name ++ "_" ++ stampText stamp
  | global name => name ++ "_0"
  | applied g => g.render ++ "_0"
  | builtIn name _ => name

/-- The name of an identifier among top-level definitions. -/
def toplevelName : Ident → String
  | unitLocal name stamp => name ++ "/" ++ stampText stamp
  | scopeLocal name stamp _ => name ++ "/" ++ stampText stamp
  | global name => name
  | applied g => g.render
  | builtIn name _ => name

end Ident

end MiddleEnd
