import MiddleEnd.Form

/-!
# Names of global entities

A global entity has a head and, when it is an instance of something parameterised, arguments. An
argument binds a parameter to a value, and both are global names again: `Set[Elt:Int]` has the
head `Set` and one argument that binds `Elt` to `Int`.

* `GlobalName`, `GlobalArg` — the names and their arguments.
* `GlobalName.render` — the text of a name: the head, then every argument in brackets with a
  colon between parameter and value.
* `GlobalName.order` — names are ordered by head, then by arguments, an argument by its parameter
  and then by its value, a shorter list of arguments before its extensions.
-/

namespace MiddleEnd

mutual

/-- The name of a global entity, possibly instantiated with arguments. -/
structure GlobalName where
  /-- The part of the name before the arguments. -/
  head : String
  /-- The arguments, in the order of application. -/
  args : List GlobalArg

/-- One argument of a global name. -/
structure GlobalArg where
  /-- The parameter that is instantiated. -/
  param : GlobalName
  /-- What it is instantiated with. -/
  value : GlobalName

end

namespace GlobalName

/-- A name without arguments. -/
def plain (head : String) : GlobalName :=
  ⟨head, []⟩

/-- Whether there is at least one argument. -/
def hasArgs (g : GlobalName) : Bool :=
  !g.args.isEmpty

/-! ## Text -/

mutual

/-- The text of a name. -/
def render : GlobalName → String
  | ⟨head, args⟩ => head ++ renderArgs args

/-- The text of arguments, each in brackets. -/
def renderArgs : List GlobalArg → String
  | [] => ""
  | arg :: args => "[" ++ renderArg arg ++ "]" ++ renderArgs args

/-- The text of one argument, without its brackets. -/
def renderArg : GlobalArg → String
  | ⟨param, value⟩ => render param ++ ":" ++ render value

end

/-! ## Equality -/

mutual

/-- Whether two names are equal. -/
def decEq : (a b : GlobalName) → Decidable (a = b)
  | ⟨h, as⟩, ⟨k, bs⟩ =>
    if hd : h = k then
      match decEqArgs as bs with
      | isTrue ha => isTrue (by rw [hd, ha])
      | isFalse ha => isFalse fun e => ha (by injection e)
    else isFalse fun e => hd (by injection e)

/-- Whether two lists of arguments are equal. -/
def decEqArgs : (as bs : List GlobalArg) → Decidable (as = bs)
  | [], [] => isTrue rfl
  | [], _ :: _ => isFalse nofun
  | _ :: _, [] => isFalse nofun
  | a :: as, b :: bs =>
    match decEqArg a b, decEqArgs as bs with
    | isTrue ha, isTrue has => isTrue (by rw [ha, has])
    | isFalse ha, _ => isFalse fun e => ha (by injection e)
    | _, isFalse has => isFalse fun e => has (by injection e)

/-- Whether two arguments are equal. -/
def decEqArg : (a b : GlobalArg) → Decidable (a = b)
  | ⟨p, v⟩, ⟨q, w⟩ =>
    match decEq p q, decEq v w with
    | isTrue hp, isTrue hv => isTrue (by rw [hp, hv])
    | isFalse hp, _ => isFalse fun e => hp (by injection e)
    | _, isFalse hv => isFalse fun e => hv (by injection e)

end

instance : DecidableEq GlobalName := decEq

instance : DecidableEq GlobalArg := decEqArg

/-! ## Order -/

mutual

/-- The order of names: by head, then by arguments. -/
def order : GlobalName → GlobalName → Ordering
  | ⟨h, as⟩, ⟨k, bs⟩ => (compare h k).then (orderArgs as bs)

/-- The order of lists of arguments: at the first difference, a list before its extensions. -/
def orderArgs : List GlobalArg → List GlobalArg → Ordering
  | [], [] => .eq
  | [], _ :: _ => .lt
  | _ :: _, [] => .gt
  | a :: as, b :: bs => (orderArg a b).then (orderArgs as bs)

/-- The order of arguments: by parameter, then by value. -/
def orderArg : GlobalArg → GlobalArg → Ordering
  | ⟨p, v⟩, ⟨q, w⟩ => (order p q).then (order v w)

end

instance : Ord GlobalName := ⟨order⟩

instance : Ord GlobalArg := ⟨orderArg⟩

/-! ## Form -/

mutual

/-- What a name consists of. -/
def toForm : GlobalName → Form
  | ⟨head, args⟩ => .record "GlobalName" [("head", .text head), ("args", .list (argForms args))]

/-- What arguments consist of. -/
def argForms : List GlobalArg → List Form
  | [] => []
  | arg :: args => argForm arg :: argForms args

/-- What one argument consists of. -/
def argForm : GlobalArg → Form
  | ⟨param, value⟩ => .record "GlobalArg" [("param", toForm param), ("value", toForm value)]

end

instance : Described GlobalName := ⟨toForm⟩

instance : Described GlobalArg := ⟨argForm⟩

end GlobalName

/-- The text of an argument, without its brackets. -/
def GlobalArg.render (arg : GlobalArg) : String :=
  GlobalName.renderArg arg

end MiddleEnd
