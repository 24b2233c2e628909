import MiddleEnd.NameTable.Chain

/-!
# The trees of name tables

A `NameTable` maps names to the bindings made of them. It is a binary search tree ordered by name,
with the chain of one name in every node, and a note. What is noted is up to whoever makes the
nodes, as long as there is a height in it (`HasHeight`); where nothing else is said, it is the
height alone.

* `NameTable.height` — the height that is noted at the root.
* `NameTable.chains` — what a table holds, in the order of names.
* `NameTable.plain` — the table with nothing but heights noted.
-/

namespace MiddleEnd

variable {V ν : Type}

/-- What can be noted in a node: a height, perhaps among other things. -/
class HasHeight (ν : Type) where
  /-- The height that is noted. -/
  height : ν → Nat

instance : HasHeight Nat := ⟨fun height => height⟩

/-- A search tree from names to chains of bindings. -/
inductive NameTable (V : Type) (ν : Type := Nat) where
  /-- Nothing is bound. -/
  | empty
  /-- The smaller names, the chain of one name, the greater names, and what is noted. -/
  | node (left : NameTable V ν) (chain : Chain V) (right : NameTable V ν) (note : ν)
deriving DecidableEq

namespace NameTable

instance : Inhabited (NameTable V ν) := ⟨.empty⟩

/-- Whether nothing is bound. -/
def isEmpty : NameTable V ν → Bool
  | empty => true
  | node _ _ _ _ => false

/-- The height that is noted. -/
def height [HasHeight ν] : NameTable V ν → Nat
  | empty => 0
  | node _ _ _ note => HasHeight.height note

/-- What is noted at the root, unless nothing is bound. -/
def root? : NameTable V ν → Option ν
  | empty => none
  | node _ _ _ note => some note

/-- The chains in the order of names. -/
def chains : NameTable V ν → List (Chain V)
  | empty => []
  | node left chain right _ => left.chains ++ chain :: right.chains

/-- The number of names that are bound. -/
def size : NameTable V ν → Nat
  | empty => 0
  | node left _ right _ => left.size + 1 + right.size

/-- The table with nothing but heights noted. -/
def plain [HasHeight ν] : NameTable V ν → NameTable V
  | empty => empty
  | node left chain right note => node left.plain chain right.plain (HasHeight.height note)

/-- Nothing is noted at the root exactly if there is none. -/
theorem root?_eq_none_iff {t : NameTable V ν} : t.root? = none ↔ t = empty := by
  cases t with
  | empty => exact ⟨fun _ => rfl, fun _ => rfl⟩
  | node left chain right note => exact ⟨nofun, nofun⟩

/-- There is one chain for every name. -/
theorem length_chains (t : NameTable V ν) : t.chains.length = t.size := by
  induction t with
  | empty => rfl
  | node left chain right _ ihl ihr =>
    simp only [chains, size, List.length_append, List.length_cons, ihl, ihr]
    omega

@[simp] theorem height_plain [HasHeight ν] (t : NameTable V ν) : t.plain.height = t.height := by
  cases t <;> rfl

/-- Where nothing but heights is noted, there is nothing to leave out. -/
@[simp] theorem plain_self (t : NameTable V) : t.plain = t := by
  induction t with
  | empty => rfl
  | node left chain right height ihl ihr =>
    rw [plain, ihl, ihr]
    rfl

end NameTable

end MiddleEnd
