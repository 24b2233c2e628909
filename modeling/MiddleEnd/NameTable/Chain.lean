import MiddleEnd.Ident.Basic

/-!
# Chains of bindings

A `Binding` gives an identifier its data. All bindings of one name form a `Chain`, the newest
first; a chain is never empty, and a new binding shadows the older ones without replacing them.

`Chain.unlink c i` takes out the newest binding that is the same as `i`. It tells two ways of
leaving nothing apart: that no binding is the same (`none`), and that the only binding was
(`some none`). It walks down the chain (`Chain.walk`), and what it passed it puts back on top of
what is below (`Chain.restack`); `Chain.unlink_eq` says what is left.
-/

namespace MiddleEnd

variable {V : Type}

/-- An identifier with its data. -/
structure Binding (V : Type) where
  /-- What is bound. -/
  ident : Ident
  /-- What it is bound to. -/
  data : V
deriving DecidableEq

/-- The name of a binding. -/
def Binding.name (b : Binding V) : String :=
  b.ident.name

/-- The bindings of one name, at least one. -/
structure Chain (V : Type) where
  /-- The binding made last. -/
  newest : Binding V
  /-- The bindings that it shadows, newest first. -/
  older : List (Binding V)
deriving DecidableEq

namespace Chain

/-- A chain of one binding. -/
def single (b : Binding V) : Chain V :=
  ⟨b, []⟩

/-- All bindings, newest first. -/
def toList (c : Chain V) : List (Binding V) :=
  c.newest :: c.older

/-- The chain of a list of bindings, if there are any. -/
def ofList? : List (Binding V) → Option (Chain V)
  | [] => none
  | b :: bs => some ⟨b, bs⟩

/-- The name that is bound. -/
def name (c : Chain V) : String :=
  c.newest.name

/-- Shadows a chain by a new binding. -/
def push (b : Binding V) (c : Chain V) : Chain V :=
  ⟨b, c.toList⟩

/-- The chain of a name after a binding of it is made. -/
def extend (b : Binding V) : Option (Chain V) → Chain V
  | some c => c.push b
  | none => single b

/-- Walks down a list of bindings to the first one that is the same as an identifier, if there is
one. Gives the bindings that were passed, the last one first and `above` behind them, and the
bindings below. -/
def walk (i : Ident) (above : List (Binding V)) :
    List (Binding V) → Option (List (Binding V) × List (Binding V))
  | [] => none
  | b :: below => if b.ident.same i then some (above, below) else walk i (b :: above) below

/-- Puts bindings on top of a chain, one after the other. -/
def restack (rest : Option (Chain V)) (above : List (Binding V)) : Option (Chain V) :=
  above.foldl (fun rest b => some (extend b rest)) rest

/-- Takes out the newest binding that is the same as an identifier. The outer `none` says that
there is none; the inner one that nothing is left. -/
def unlink (c : Chain V) (i : Ident) : Option (Option (Chain V)) :=
  (walk i [] c.toList).map fun (above, below) => restack (ofList? below) above

@[simp] theorem toList_single (b : Binding V) : (single b).toList = [b] := rfl

@[simp] theorem toList_push (b : Binding V) (c : Chain V) : (c.push b).toList = b :: c.toList := rfl

@[simp] theorem toList_ne_nil (c : Chain V) : c.toList ≠ [] := nofun

theorem some_extend_ofList? (b : Binding V) (bs : List (Binding V)) :
    some (extend b (ofList? bs)) = ofList? (b :: bs) := by
  cases bs <;> rfl

/-- Bindings that are put back end up in the order that they were passed in. -/
theorem restack_ofList? (above below : List (Binding V)) :
    restack (ofList? below) above = ofList? (above.reverse ++ below) := by
  induction above generalizing below with
  | nil => rfl
  | cons b above ih =>
    rw [restack, List.foldl_cons, some_extend_ofList?, ← restack, ih, List.reverse_cons,
      List.append_assoc, List.singleton_append]

/-- A walk leaves out one binding, the first that is the same, and fails when there is none. -/
theorem map_walk (i : Ident) (above bs : List (Binding V)) :
    (walk i above bs).map (fun p => p.1.reverse ++ p.2) =
      if bs.any (·.ident.same i) then some (above.reverse ++ bs.eraseP (·.ident.same i))
      else none := by
  induction bs generalizing above with
  | nil => rfl
  | cons b below ih =>
    rw [walk, List.any_cons, List.eraseP_cons]
    cases b.ident.same i with
    | true => rfl
    | false => simpa using ih (b :: above)

/-- What unlinking leaves of a chain: all but the newest binding that is the same. -/
theorem unlink_eq (c : Chain V) (i : Ident) :
    c.unlink i =
      if c.toList.any (·.ident.same i) then some (ofList? (c.toList.eraseP (·.ident.same i)))
      else none := by
  have h := congrArg (Option.map ofList?) (map_walk i [] c.toList)
  rw [Option.map_map, Option.map_if] at h
  simp only [unlink, restack_ofList?]
  exact h

end Chain

end MiddleEnd
