import MiddleEnd.NameTable.Basic

/-!
# Walking through a table

A `Walk` visits the chains of a table in the order of names. It holds the nodes that are still to
be visited and that are not inside the right subtree of another one; a step takes the first of
them and goes down the left side of its right subtree. No recursion is needed, so a walk can be
left and resumed at any place.

Every step makes the number of chains still owed smaller (`owed_next`), so a walk ends, and it
visits the chains of the table in the order of names (`fold_start`). The folds over a table are
walks: `foldNewest` and `bindings` see the newest binding of every name, `foldAll` sees all of
them.
-/

namespace MiddleEnd

variable {V α : Type}

/-- A place in the chains of a table: the nodes to come, each with its right subtree. -/
structure Walk (V : Type) where
  /-- The chains to come, with what stands between each and the one behind it. -/
  pending : List (Chain V × NameTable V)

namespace Walk

/-- Puts the left side of a table in front of the nodes to come. -/
def descend : NameTable V → List (Chain V × NameTable V) → List (Chain V × NameTable V)
  | .empty, pending => pending
  | .node left chain right _, pending => descend left ((chain, right) :: pending)

/-- The walk through a whole table. -/
def start (t : NameTable V) : Walk V :=
  ⟨descend t []⟩

/-- The next chain, and the walk behind it. -/
def next? (w : Walk V) : Option (Chain V × Walk V) :=
  match w.pending with
  | [] => none
  | (chain, right) :: pending => some (chain, ⟨descend right pending⟩)

/-- The number of chains in nodes to come. -/
def owedBy : List (Chain V × NameTable V) → Nat
  | [] => 0
  | (_, right) :: pending => 1 + right.size + owedBy pending

/-- The number of chains to come. -/
def owed (w : Walk V) : Nat :=
  owedBy w.pending

theorem owedBy_descend (t : NameTable V) (pending : List (Chain V × NameTable V)) :
    owedBy (descend t pending) = t.size + owedBy pending := by
  induction t generalizing pending with
  | empty => simp [descend, NameTable.size]
  | node left chain right _ ihl _ =>
    rw [descend, ihl, owedBy, NameTable.size]
    omega

/-- A step visits one chain. -/
theorem owed_next {w w' : Walk V} {chain : Chain V} (h : w.next? = some (chain, w')) :
    w.owed = w'.owed + 1 := by
  unfold next? at h
  split at h
  · cases h
  · next right pending heq =>
    cases h
    rw [owed, heq, owedBy, owed, owedBy_descend]
    omega

/-- Visits all chains to come, in order. -/
def fold (f : α → Chain V → α) (a : α) (w : Walk V) : α :=
  match h : w.next? with
  | none => a
  | some (chain, w') =>
    have : w'.owed < w.owed := by rw [owed_next h]; omega
    fold f (f a chain) w'
termination_by w.owed

/-- The chains in nodes to come, in order. -/
def chainsOf : List (Chain V × NameTable V) → List (Chain V)
  | [] => []
  | (chain, right) :: pending => chain :: (right.chains ++ chainsOf pending)

theorem chainsOf_descend (t : NameTable V) (pending : List (Chain V × NameTable V)) :
    chainsOf (descend t pending) = t.chains ++ chainsOf pending := by
  induction t generalizing pending with
  | empty => rfl
  | node left chain right _ ihl _ =>
    rw [descend, ihl, chainsOf, NameTable.chains, List.append_assoc, List.cons_append]

/-- A walk visits the chains in nodes to come, in order. -/
theorem fold_eq_foldl (f : α → Chain V → α) (a : α) (w : Walk V) :
    w.fold f a = (chainsOf w.pending).foldl f a := by
  fun_induction fold f a w with
  | case1 a w h =>
    unfold next? at h
    split at h
    · next hp => rw [hp]; rfl
    · cases h
  | case2 a w chain w' h _ ih =>
    unfold next? at h
    split at h
    · cases h
    · next hp =>
      cases h
      rw [ih, hp, chainsOf_descend, chainsOf, List.foldl_cons]

/-- The walk through a table visits its chains in the order of names. -/
theorem fold_start (f : α → Chain V → α) (a : α) (t : NameTable V) :
    (start t).fold f a = t.chains.foldl f a := by
  rw [fold_eq_foldl, start, chainsOf_descend, chainsOf, List.append_nil]

end Walk

namespace NameTable

/-- The newest binding of every name, in the order of names. -/
def bindings (t : NameTable V) : List (Binding V) :=
  ((Walk.start t).fold (fun bs chain => chain.newest :: bs) []).reverse

/-- Folds over the newest binding of every name, in the order of names. -/
def foldNewest (f : α → Binding V → α) (a : α) (t : NameTable V) : α :=
  t.bindings.foldl f a

/-- Folds over all bindings, names in order and the bindings of a name newest first. -/
def foldAll (f : α → Binding V → α) (a : α) (t : NameTable V) : α :=
  (Walk.start t).fold (fun a chain => chain.toList.foldl f a) a

/-- Visits the newest binding of every name, in the order of names. -/
def forM {m : Type → Type} [Monad m] (t : NameTable V) (visit : Binding V → m Unit) : m Unit :=
  t.bindings.forM visit

/-- All bindings, names in order and the bindings of a name newest first. -/
def toList (t : NameTable V) : List (Binding V) :=
  (t.foldAll (fun bs b => b :: bs) []).reverse

/-- A table holds the bindings of its chains, one chain behind the other. -/
theorem toList_eq_flatMap (t : NameTable V) : t.toList = t.chains.flatMap Chain.toList := by
  have hfold : t.foldAll (fun bs b => b :: bs) [] =
      (t.chains.flatMap Chain.toList).foldl (fun bs b => b :: bs) [] := by
    rw [foldAll, Walk.fold_start, List.foldl_flatMap]
  rw [toList, hfold, List.foldl_flip_cons_eq_append', List.append_nil, List.reverse_reverse]

/-- The description of a chain: its name, and its bindings newest first. -/
def chainOutline [Outlined V] (chain : Chain V) : String × Outline :=
  (chain.name, .list (chain.toList.map fun b => .pair (outline b.ident) (outline b.data)))

instance [Outlined V] : Outlined (NameTable V) where
  outline t :=
    .dict ((Walk.start t).fold (fun entries chain => chainOutline chain :: entries) []).reverse

end NameTable

end MiddleEnd
