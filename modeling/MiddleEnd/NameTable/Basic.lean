import MiddleEnd.NameTable.Workshop

/-!
# Name tables

A `NameTable` maps names to the bindings made of them. Nodes store their height, and the two
subtrees of a node differ in height by at most one. This module has the updates of a table as it
is, without any effects:

* `NameTable.insert` — binds an identifier.
* `NameTable.erase?` — removes an identifier, unless its name is not bound; `NameTable.erase` and
  `NameTable.eraseLog` are the table and the report.

They are the updates of the workshop that takes note of heights only (`Workshop.quiet`). Of each
there are equations that say what it does at a node, and of `rotate` there is the list of its
outcomes (`Rotation`), of which it comes to one (`rotation_rotate`) and no other
(`Rotation.rotate_eq`). What is said about updates elsewhere rests on these.
-/

namespace MiddleEnd

variable {V : Type}

/-- The workshop that notes heights, and looks at no calls. -/
def Workshop.quiet : Workshop Id V Nat where
  note height := height
  observe _ := ()

namespace NameTable

/-! ## Building nodes -/

/-- A node over two subtrees, with its height. -/
def branch (left : NameTable V) (chain : Chain V) (right : NameTable V) : NameTable V :=
  (Workshop.quiet.branch left chain right).run

/-- A node over two subtrees whose heights differ by at most two, rotated so that the heights of
its own subtrees differ by at most one, and the arm that leads there. -/
def rotate (left : NameTable V) (chain : Chain V) (right : NameTable V) : Arm × NameTable V :=
  (Workshop.quiet.rotate left chain right).run

/-- A node over two subtrees whose heights differ by at most two, rotated so that the heights of
its own subtrees differ by at most one. -/
def balance (left : NameTable V) (chain : Chain V) (right : NameTable V) : NameTable V :=
  (Workshop.quiet.balance left chain right).run

theorem branch_eq (left : NameTable V) (chain : Chain V) (right : NameTable V) :
    branch left chain right = node left chain right (max left.height right.height + 1) := rfl

theorem balance_eq (left : NameTable V) (chain : Chain V) (right : NameTable V) :
    balance left chain right = (rotate left chain right).2 := rfl

/-- The outcomes of `rotate`: the node as it is, a single rotation away from the heavy side, or a
double one. -/
inductive Rotation : NameTable V → Chain V → NameTable V → Arm → NameTable V → Prop
  /-- The heights differ by at most one, and nothing is rotated. -/
  | level {left right : NameTable V} {chain : Chain V}
      (hle : left.height ≤ right.height + 1) (hge : right.height ≤ left.height + 1) :
      Rotation left chain right .level (branch left chain right)
  /-- The left subtree is too high on its outer side. -/
  | fromLeft {outer inner right : NameTable V} {heavy chain : Chain V} {h : Nat}
      (hh : right.height + 1 < h) (hio : inner.height ≤ outer.height) :
      Rotation (node outer heavy inner h) chain right .single
        (branch outer heavy (branch inner chain right))
  /-- The left subtree is too high on its inner side. -/
  | fromLeftInner {outer below above right : NameTable V} {heavy middle chain : Chain V}
      {h k : Nat} (hh : right.height + 1 < h) (hio : outer.height < k) :
      Rotation (node outer heavy (node below middle above k) h) chain right .double
        (branch (branch outer heavy below) middle (branch above chain right))
  /-- The right subtree is too high on its outer side. -/
  | fromRight {left inner outer : NameTable V} {heavy chain : Chain V} {h : Nat}
      (hh : left.height + 1 < h) (hio : inner.height ≤ outer.height) :
      Rotation left chain (node inner heavy outer h) .single
        (branch (branch left chain inner) heavy outer)
  /-- The right subtree is too high on its inner side. -/
  | fromRightInner {left below above outer : NameTable V} {heavy middle chain : Chain V}
      {h k : Nat} (hh : left.height + 1 < h) (hio : outer.height < k) :
      Rotation left chain (node (node below middle above k) heavy outer h) .double
        (branch (branch left chain below) middle (branch above heavy outer))

/-- What is done without effects is an outcome. -/
theorem rotation_of_rotates {left right : NameTable V} {chain : Chain V}
    {x : Id (Arm × NameTable V)} (h : Workshop.quiet.Rotates left chain right x) :
    Rotation left chain right x.run.1 x.run.2 := by
  cases h with
  | level hle hge => exact .level hle hge
  | fromLeft hh hio => exact .fromLeft hh hio
  | fromLeftInner hh hio => exact .fromLeftInner hh hio
  | fromRight hh hio => exact .fromRight hh hio
  | fromRightInner hh hio => exact .fromRightInner hh hio

/-- `rotate` comes to an outcome. -/
theorem rotation_rotate (left : NameTable V) (chain : Chain V) (right : NameTable V) :
    Rotation left chain right (rotate left chain right).1 (rotate left chain right).2 :=
  rotation_of_rotates (Workshop.quiet.rotates left chain right)

/-- There is but one outcome. -/
theorem Rotation.rotate_eq {left right t : NameTable V} {chain : Chain V} {arm : Arm}
    (h : Rotation left chain right arm t) : rotate left chain right = (arm, t) := by
  cases h with
  | level hle hge =>
    exact (if_neg (Nat.not_lt_of_le hle)).trans (if_neg (Nat.not_lt_of_le hge))
  | fromLeft hh hio => exact (if_pos hh).trans (if_pos hio)
  | fromLeftInner hh hio => exact (if_pos hh).trans (if_neg (Nat.not_le_of_lt hio))
  | @fromRight _ _ _ _ _ height hh hio =>
    have hl : ¬ height + 1 < left.height := by omega
    exact (if_neg hl).trans ((if_pos hh).trans (if_pos hio))
  | @fromRightInner _ _ _ _ _ _ _ height _ hh hio =>
    have hl : ¬ height + 1 < left.height := by omega
    exact (if_neg hl).trans ((if_pos hh).trans (if_neg (Nat.not_le_of_lt hio)))

@[simp] theorem chains_branch (left : NameTable V) (chain : Chain V) (right : NameTable V) :
    (branch left chain right).chains = left.chains ++ chain :: right.chains := rfl

/-- Rotations keep the order of the chains. -/
theorem Rotation.chains_eq {left right t : NameTable V} {chain : Chain V} {arm : Arm}
    (h : Rotation left chain right arm t) :
    t.chains = left.chains ++ chain :: right.chains := by
  cases h <;> simp [chains]

/-- Balancing keeps the order of the chains. -/
@[simp] theorem chains_balance (left : NameTable V) (chain : Chain V) (right : NameTable V) :
    (balance left chain right).chains = left.chains ++ chain :: right.chains :=
  (rotation_rotate left chain right).chains_eq

/-! ## Inserting -/

/-- Binds an identifier. -/
def insert (b : Binding V) (t : NameTable V) : NameTable V :=
  (Workshop.quiet.insert b t).run

/-- The table of a list of bindings, made one after the other. -/
def ofList (bs : List (Binding V)) : NameTable V :=
  bs.foldl (fun t b => t.insert b) empty

theorem insert_node (b : Binding V) (left : NameTable V) (chain : Chain V) (right : NameTable V)
    (height : Nat) :
    insert b (node left chain right height) =
      match compare b.name chain.name with
      | .eq => node left (chain.push b) right height
      | .lt => balance (insert b left) chain right
      | .gt => balance left chain (insert b right) := by
  show (Workshop.quiet.insert b (node left chain right height)).run = _
  rw [Workshop.insert]
  cases compare b.name chain.name <;> rfl

/-! ## Erasing -/

/-- What is left of a node without its smallest name. -/
def eraseMin (left : NameTable V) (chain : Chain V) (right : NameTable V) : NameTable V :=
  (Workshop.quiet.eraseMin left chain right).run

/-- The table of two subtrees that have lost the node above them. -/
def glue (left right : NameTable V) : NameTable V :=
  (Workshop.quiet.glue left right).run

/-- What is left of a node when an identifier is removed from its chain. -/
def eraseHere (i : Ident) (left : NameTable V) (chain : Chain V) (right : NameTable V)
    (height : Nat) : Removal V :=
  (Workshop.quiet.eraseHere i left chain right height).run

/-- Removes an identifier; `none` when its name is not bound. -/
def erase? (i : Ident) (t : NameTable V) : Option (Removal V) :=
  (Workshop.quiet.erase? i t).run

/-- The table after an identifier is removed, unchanged when its name is not bound. -/
def erase (i : Ident) (t : NameTable V) : NameTable V :=
  match t.erase? i with
  | some r => r.table
  | none => t

/-- What there is to report about the removal of an identifier. -/
def eraseLog (i : Ident) (t : NameTable V) : List Event :=
  match t.erase? i with
  | some r => r.log
  | none => []

theorem eraseMin_empty (chain : Chain V) (right : NameTable V) :
    eraseMin empty chain right = right := rfl

theorem eraseMin_node (below : NameTable V) (smaller : Chain V) (above : NameTable V)
    (height : Nat) (chain : Chain V) (right : NameTable V) :
    eraseMin (node below smaller above height) chain right =
      balance (eraseMin below smaller above) chain right := rfl

theorem empty_glue (right : NameTable V) : glue empty right = right := by
  cases right <;> rfl

theorem glue_empty (left : NameTable V) : glue left empty = left := by
  cases left <;> rfl

theorem glue_node (outer : NameTable V) (heavy : Chain V) (inner : NameTable V) (h : Nat)
    (below : NameTable V) (chain : Chain V) (above : NameTable V) (k : Nat) :
    glue (node outer heavy inner h) (node below chain above k) =
      balance (node outer heavy inner h) (minChain chain below) (eraseMin below chain above) := rfl

theorem eraseHere_eq (i : Ident) (left : NameTable V) (chain : Chain V) (right : NameTable V)
    (height : Nat) :
    eraseHere i left chain right height =
      match chain.unlink i with
      | some (some rest) => ⟨node left rest right height, []⟩
      | some none => ⟨glue left right, []⟩
      | none => ⟨glue left right, [.nameDropped i.name i.stamp]⟩ := by
  unfold eraseHere Workshop.eraseHere
  rcases chain.unlink i with _ | _ | rest <;> rfl

theorem erase?_empty (i : Ident) : erase? i (empty : NameTable V) = none := rfl

theorem erase?_node (i : Ident) (left : NameTable V) (chain : Chain V) (right : NameTable V)
    (height : Nat) :
    erase? i (node left chain right height) =
      match compare i.name chain.name with
      | .eq => some (eraseHere i left chain right height)
      | .lt => (erase? i left).map fun r => { r with table := balance r.table chain right }
      | .gt => (erase? i right).map fun r => { r with table := balance left chain r.table } := by
  show (Workshop.quiet.erase? i (node left chain right height)).run = _
  rw [Workshop.erase?]
  cases compare i.name chain.name with
  | eq => rfl
  | lt =>
    show Id.run (Workshop.quiet.erase? i left >>= _) = _
    rw [Id.run_bind]
    unfold erase?
    cases (Workshop.quiet.erase? i left).run <;> rfl
  | gt =>
    show Id.run (Workshop.quiet.erase? i right >>= _) = _
    rw [Id.run_bind]
    unfold erase?
    cases (Workshop.quiet.erase? i right).run <;> rfl

/-- A node is its smallest name in front of what is left without it. -/
theorem chains_eraseMin (left : NameTable V) (chain : Chain V) (right : NameTable V) :
    minChain chain left :: (eraseMin left chain right).chains =
      left.chains ++ chain :: right.chains := by
  induction left generalizing chain right with
  | empty => rfl
  | node below smaller above _ ih _ =>
    rw [eraseMin_node, minChain, chains_balance, ← List.cons_append, ih, chains]

/-- Two subtrees are glued in their order. -/
@[simp] theorem chains_glue (left right : NameTable V) :
    (glue left right).chains = left.chains ++ right.chains := by
  cases left with
  | empty => rw [empty_glue, chains, List.nil_append]
  | node _ _ _ _ =>
    cases right with
    | empty => rw [glue_empty, chains, List.append_nil]
    | node below chain above _ =>
      rw [glue_node, chains_balance, chains_eraseMin]
      rfl

end NameTable

end MiddleEnd
