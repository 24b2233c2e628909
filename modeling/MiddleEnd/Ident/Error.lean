import MiddleEnd.Outline

/-!
# Misuse of identifiers

Renaming an identifier, or asking for a key of it, needs a stamp of its own, and a parameterised
global needs an argument. `IdentError` names the three ways in which this can fail; each has a
message, a code for tools and, in one case, a hint.
-/

namespace MiddleEnd

/-- The ways in which an identifier can be of the wrong kind. -/
inductive IdentError where
  /-- A rename was asked of an identifier that has no stamp of its own. -/
  | renameNonLocal (name : String)
  /-- A key was asked for an identifier that has no stamp of its own. -/
  | keyOfNonLocal (name : String)
  /-- A parameterised global came with an empty list of arguments. -/
  | emptyGlobalArgs (head : String)
deriving DecidableEq

namespace IdentError

/-- The message shown to a user. -/
def message : IdentError → String
  | renameNonLocal name =>
    "cannot rename `" ++ name ++ "`: only local and scoped identifiers can be renamed"
  | keyOfNonLocal name =>
    "cannot generate a key for `" ++ name ++ "`: only local and scoped identifiers have keys"
  | emptyGlobalArgs head =>
    "global `" ++ head ++ "` is marked as parameterised but has no arguments"

/-- The code by which tools know the error. -/
def code : IdentError → String
  | renameNonLocal _ => "ident::rename_non_local"
  | keyOfNonLocal _ => "ident::key_of_non_local"
  | emptyGlobalArgs _ => "ident::empty_global_args"

/-- What to do about the error, where there is something to say. -/
def help : IdentError → Option String
  | renameNonLocal _ => none
  | keyOfNonLocal _ => none
  | emptyGlobalArgs _ => some "a global without arguments is a plain persistent identifier"

/-- The name of the kind of error. -/
def label : IdentError → String
  | renameNonLocal _ => "RenameNonLocal"
  | keyOfNonLocal _ => "KeyOfNonLocal"
  | emptyGlobalArgs _ => "EmptyGlobalArgs"

instance : Outlined IdentError where
  outline e :=
    match e with
    | renameNonLocal name => .record e.label [("name", .text name)]
    | keyOfNonLocal name => .record e.label [("name", .text name)]
    | emptyGlobalArgs head => .record e.label [("head", .text head)]

end IdentError

end MiddleEnd
