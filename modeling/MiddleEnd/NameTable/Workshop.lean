import MiddleEnd.Event
import MiddleEnd.NameTable.Tree

/-!
# How tables are updated

Tables are values: an update gives a new table, and shares with the old one all that it leaves
alone. It goes down the search path of a name and makes the nodes on it anew, by `balance`, which
accepts two subtrees whose heights differ by at most two.

What is done besides is up to a `Workshop`: it says what is noted in a node that is made, and it
is shown every call of `balance`, with the `Arm` that was taken. Updates are written here once, for
all workshops:

* `Workshop.insert` — binds an identifier; older bindings of the name are shadowed.
* `Workshop.erase?` — takes out the newest binding that is the same as an identifier. If the name is
  bound but no binding is the same, every binding of the name is dropped, and this is reported. If
  the name is not bound there is nothing to do, and the answer is `none`.

Of the ways through `rotate`, `Workshop.Rotates` lists those that are taken, in any workshop, and
`Workshop.rotates` says that there are no others.
-/

namespace MiddleEnd

variable {V ν : Type}

namespace NameTable

/-! ## What a workshop is shown -/

/-- The ways through `balance`, on either side. -/
inductive Arm where
  /-- The heights differ by at most one, and nothing is rotated. -/
  | level
  /-- A single rotation: the heavy subtree is highest on its outer side. -/
  | single
  /-- A double rotation: the heavy subtree is highest on its inner side. -/
  | double
  /-- Nothing is rotated, as the heavy subtree is empty. -/
  | heavyMissing
  /-- Nothing is rotated, as the inner side of the heavy subtree is empty, though the higher one. -/
  | innerMissing
deriving DecidableEq

/-- A call of `balance`. -/
structure Call (V : Type) (ν : Type := Nat) where
  /-- The left subtree that it is given. -/
  left : NameTable V ν
  /-- The chain between the subtrees. -/
  chain : Chain V
  /-- The right subtree that it is given. -/
  right : NameTable V ν
  /-- The arm that it takes. -/
  arm : Arm
  /-- The table that it makes. -/
  result : NameTable V ν
deriving DecidableEq

/-- The outcome of removing an identifier whose name is bound. -/
structure Removal (V : Type) (ν : Type := Nat) where
  /-- The table after the removal. -/
  table : NameTable V ν
  /-- What there is to report. -/
  log : List Event
deriving DecidableEq

/-- The chain of the smallest name; `chain` is that of the root, above a left subtree. -/
def minChain (chain : Chain V) : NameTable V ν → Chain V
  | empty => chain
  | node left smaller _ _ => minChain smaller left

@[simp] theorem minChain_plain [HasHeight ν] (chain : Chain V) (t : NameTable V ν) :
    minChain chain t.plain = minChain chain t := by
  induction t generalizing chain with
  | empty => rfl
  | node left smaller _ _ ih _ => exact ih smaller

end NameTable

open NameTable

/-- Where the nodes of tables are made. -/
structure Workshop (M : Type → Type) (V ν : Type) where
  /-- What is noted in a new node of a height. -/
  note : Nat → M ν
  /-- Is shown a call of `balance`. -/
  observe : Call V ν → M Unit

namespace Workshop

variable {M : Type → Type} [Monad M] [HasHeight ν] (w : Workshop M V ν)

/-! ## Making nodes -/

/-- A node over two subtrees. -/
def branch (left : NameTable V ν) (chain : Chain V) (right : NameTable V ν) :
    M (NameTable V ν) :=
  return node left chain right (← w.note (max left.height right.height + 1))

/-- A node over two subtrees whose heights differ by at most two, rotated so that the heights of
its own subtrees differ by at most one, and the arm that leads there. -/
def rotate (left : NameTable V ν) (chain : Chain V) (right : NameTable V ν) :
    M (Arm × NameTable V ν) :=
  if right.height + 1 < left.height then
    match left with
    | empty => return (.heavyMissing, ← w.branch empty chain right)
    | node outer heavy inner note =>
      if inner.height ≤ outer.height then
        return (.single, ← w.branch outer heavy (← w.branch inner chain right))
      else
        match inner with
        | node below middle above _ =>
          return (.double,
            ← w.branch (← w.branch outer heavy below) middle (← w.branch above chain right))
        | empty => return (.innerMissing, ← w.branch (node outer heavy empty note) chain right)
  else if left.height + 1 < right.height then
    match right with
    | empty => return (.heavyMissing, ← w.branch left chain empty)
    | node inner heavy outer note =>
      if inner.height ≤ outer.height then
        return (.single, ← w.branch (← w.branch left chain inner) heavy outer)
      else
        match inner with
        | node below middle above _ =>
          return (.double,
            ← w.branch (← w.branch left chain below) middle (← w.branch above heavy outer))
        | empty => return (.innerMissing, ← w.branch left chain (node empty heavy outer note))
  else return (.level, ← w.branch left chain right)

/-- The ways through `rotate` that are taken, and what is done on each. -/
inductive Rotates : NameTable V ν → Chain V → NameTable V ν → M (Arm × NameTable V ν) → Prop
  /-- The heights differ by at most one, and nothing is rotated. -/
  | level {left right : NameTable V ν} {chain : Chain V}
      (hle : left.height ≤ right.height + 1) (hge : right.height ≤ left.height + 1) :
      Rotates left chain right (return (.level, ← w.branch left chain right))
  /-- The left subtree is too high on its outer side. -/
  | fromLeft {outer inner right : NameTable V ν} {heavy chain : Chain V} {note : ν}
      (hh : right.height + 1 < HasHeight.height note) (hio : inner.height ≤ outer.height) :
      Rotates (node outer heavy inner note) chain right
        (return (.single, ← w.branch outer heavy (← w.branch inner chain right)))
  /-- The left subtree is too high on its inner side. -/
  | fromLeftInner {outer below above right : NameTable V ν} {heavy middle chain : Chain V}
      {note note' : ν} (hh : right.height + 1 < HasHeight.height note)
      (hio : outer.height < HasHeight.height note') :
      Rotates (node outer heavy (node below middle above note') note) chain right
        (return (.double,
          ← w.branch (← w.branch outer heavy below) middle (← w.branch above chain right)))
  /-- The right subtree is too high on its outer side. -/
  | fromRight {left inner outer : NameTable V ν} {heavy chain : Chain V} {note : ν}
      (hh : left.height + 1 < HasHeight.height note) (hio : inner.height ≤ outer.height) :
      Rotates left chain (node inner heavy outer note)
        (return (.single, ← w.branch (← w.branch left chain inner) heavy outer))
  /-- The right subtree is too high on its inner side. -/
  | fromRightInner {left below above outer : NameTable V ν} {heavy middle chain : Chain V}
      {note note' : ν} (hh : left.height + 1 < HasHeight.height note)
      (hio : outer.height < HasHeight.height note') :
      Rotates left chain (node (node below middle above note') heavy outer note)
        (return (.double,
          ← w.branch (← w.branch left chain below) middle (← w.branch above heavy outer)))

/-- **What `rotate` does.** No arm for a missing subtree is taken: an empty subtree has the height
zero, and is never the higher one. -/
theorem rotates (left : NameTable V ν) (chain : Chain V) (right : NameTable V ν) :
    w.Rotates left chain right (w.rotate left chain right) := by
  unfold rotate
  split
  · next hl =>
    cases left with
    | empty => exact absurd hl (Nat.not_lt_zero _)
    | node outer heavy inner note =>
      dsimp only
      split
      · next hio => exact .fromLeft hl hio
      · next hio =>
        cases inner with
        | empty => exact absurd (Nat.zero_le _) hio
        | node below middle above note' => exact .fromLeftInner hl (Nat.lt_of_not_le hio)
  · next hl =>
    split
    · next hr =>
      cases right with
      | empty => exact absurd hr (Nat.not_lt_zero _)
      | node inner heavy outer note =>
        dsimp only
        split
        · next hio => exact .fromRight hr hio
        · next hio =>
          cases inner with
          | empty => exact absurd (Nat.zero_le _) hio
          | node below middle above note' => exact .fromRightInner hr (Nat.lt_of_not_le hio)
    · next hr => exact .level (Nat.le_of_not_lt hl) (Nat.le_of_not_lt hr)

/-- Rotates a node where this is needed, and shows the workshop what was done. -/
def balance (left : NameTable V ν) (chain : Chain V) (right : NameTable V ν) :
    M (NameTable V ν) := do
  let (arm, result) ← w.rotate left chain right
  w.observe ⟨left, chain, right, arm, result⟩
  return result

/-! ## Inserting -/

/-- Binds an identifier. -/
def insert (b : Binding V) : NameTable V ν → M (NameTable V ν)
  | empty => w.branch empty (.single b) empty
  | node left chain right note =>
    match compare b.name chain.name with
    | .eq => return node left (chain.push b) right (← w.note (HasHeight.height note))
    | .lt => do w.balance (← insert b left) chain right
    | .gt => do w.balance left chain (← insert b right)

/-! ## Erasing -/

/-- What is left of a node without its smallest name. -/
def eraseMin (left : NameTable V ν) (chain : Chain V) (right : NameTable V ν) :
    M (NameTable V ν) :=
  match left with
  | empty => return right
  | node below smaller above _ => do w.balance (← eraseMin below smaller above) chain right

/-- The table of two subtrees that have lost the node above them. -/
def glue (left right : NameTable V ν) : M (NameTable V ν) :=
  match left, right with
  | empty, right => return right
  | left, empty => return left
  | left, node below chain above _ => do
    w.balance left (minChain chain below) (← w.eraseMin below chain above)

/-- What is left of a node when an identifier is removed from its chain. -/
def eraseHere (i : Ident) (left : NameTable V ν) (chain : Chain V) (right : NameTable V ν)
    (note : ν) : M (Removal V ν) :=
  match chain.unlink i with
  | some (some rest) => return ⟨node left rest right (← w.note (HasHeight.height note)), []⟩
  | some none => return ⟨← w.glue left right, []⟩
  | none => return ⟨← w.glue left right, [.nameDropped i.name i.stamp]⟩

/-- Removes an identifier; `none` when its name is not bound. -/
def erase? (i : Ident) : NameTable V ν → M (Option (Removal V ν))
  | empty => return none
  | node left chain right note =>
    match compare i.name chain.name with
    | .eq => return some (← w.eraseHere i left chain right note)
    | .lt => do
      let some r ← erase? i left | return none
      return some { r with table := ← w.balance r.table chain right }
    | .gt => do
      let some r ← erase? i right | return none
      return some { r with table := ← w.balance left chain r.table }

end Workshop

end MiddleEnd
