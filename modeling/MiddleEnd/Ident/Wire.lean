import MiddleEnd.GlobalName.Wire
import MiddleEnd.Ident.Basic

/-!
# Reading identifiers

An identifier is read in two steps: `Ident.readWritten` takes the value tree as it is written, and
`Ident.validate` then refuses an applied name without arguments and bounds the scope.
-/

namespace MiddleEnd.Ident

open Wire (Value)

/-- The cases of an identifier as it is written. -/
def cases : List (Case Ident) :=
  [.labelled "Local" fun r => return .unitLocal (← r.get "name") (← r.get "stamp"),
   .labelled "Scoped" fun r =>
    return .scopeLocal (← r.get "name") (← r.get "stamp") (← r.get "scope"),
   .single "Global" .global,
   .single "GlobalWithArgs" .applied,
   .labelled "Predef" fun r => return .builtIn (← r.get "name") (← r.get "stamp")]

/-- The identifier as it is written, before it is checked. -/
def readWritten : Value → Except Fault Ident :=
  Case.readAny cases

instance : Readable Ident where
  read v := do
    let written ← readWritten v
    written.validate.mapError .invalid

end MiddleEnd.Ident
