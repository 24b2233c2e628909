import MiddleEnd.Proofs.NameTable.Order
import MiddleEnd.Proofs.NameTable.Shape

/-!
# The representation invariant of name tables

* `Update`, `NameTable.run` — a history of a table: identifiers bound and removed, in any order.
  Nothing is asked of the identifiers; they may be of any kind, not well-formed, or share stamps.
* `Invariant` — the table is a strict search tree by name, its subtrees are balanced by their true
  heights, the heights that it stores are the true ones, and every chain holds bindings of one
  name.

One update keeps the invariant (`Invariant.update`), hence every history does (`Invariant.run`),
and a table that starts out empty satisfies it throughout (`invariant_of_updates`). Order and shape
are kept for different reasons: the order because an update replaces one chain, the shape because
it changes the height of a subtree by at most one level.
-/

namespace MiddleEnd.NameTable

variable {V : Type}

/-! ## Histories -/

/-- A change to a table. -/
inductive Update (V : Type) where
  /-- See `NameTable.insert`. -/
  | insert (b : Binding V)
  /-- See `NameTable.erase`. -/
  | erase (i : Ident)
deriving DecidableEq

/-- Makes a change. -/
def update (t : NameTable V) : Update V → NameTable V
  | .insert b => t.insert b
  | .erase i => t.erase i

/-- Makes changes one after the other. -/
def run (t : NameTable V) (us : List (Update V)) : NameTable V :=
  us.foldl update t

@[simp] lemma run_cons (t : NameTable V) (u : Update V) (us : List (Update V)) :
    t.run (u :: us) = (t.update u).run us := rfl

/-! ## The invariant -/

/-- What holds of every table that updates have made. -/
structure Invariant (t : NameTable V) : Prop where
  /-- Names ascend from left to right, across whole subtrees. -/
  ordered : t.Ordered
  /-- The subtrees of every node differ in true height by at most one. -/
  balanced : t.Balanced
  /-- Every node stores its true height. -/
  stored : t.HeightsStored
  /-- The chain of every node is not empty, and its bindings have one name. -/
  uniform : ∀ c ∈ t.chains, c.Uniform

/-- The invariant, from the order and the shape. -/
lemma Shaped.invariant {t : NameTable V} (hs : t.Shaped) (ho : t.Ordered)
    (hu : ∀ c ∈ t.chains, c.Uniform) : t.Invariant :=
  ⟨ho, hs.balanced, hs.stored, hu⟩

/-- The shape, from the invariant. -/
lemma Invariant.shaped {t : NameTable V} (h : t.Invariant) : t.Shaped :=
  ⟨h.balanced, h.stored⟩

/-- The empty table satisfies the invariant. -/
lemma invariant_empty : (empty : NameTable V).Invariant :=
  shaped_empty.invariant trivial nofun

/-- The chain that a lookup finds is uniform and has the name that was looked up. -/
lemma Invariant.chain?_uniform {t : NameTable V} (h : t.Invariant) {name : String} {c : Chain V}
    (hc : t.chain? name = some c) : c.Uniform ∧ c.name = name := by
  obtain ⟨hmem, hname⟩ := (chain?_eq_some_iff h.ordered).mp hc
  exact ⟨h.uniform c hmem, hname⟩

/-- A new chain that is uniform leaves all chains uniform. -/
lemma Replaces.uniform {t t' : NameTable V} {name : String} {new : Option (Chain V)}
    (hr : Replaces t name new t') (h : t.Invariant) (hnew : ∀ c ∈ new, c.Uniform) :
    ∀ c ∈ t'.chains, c.Uniform := by
  intro c hc
  rcases hr.mem_chains.mp hc with hc | ⟨hc, -⟩
  · exact hnew c hc
  · exact h.uniform c hc

/-- The chain that an erasure leaves under a name has this name and is uniform. -/
lemma Invariant.left_behind {t : NameTable V} (h : t.Invariant) (i : Ident) :
    ∀ c ∈ (t.chain? i.name).bind (·.without i), c.Uniform ∧ c.name = i.name := by
  intro c hc
  obtain ⟨whole, hwhole, hrest⟩ := Option.bind_eq_some_iff.mp hc
  obtain ⟨hu, hname⟩ := h.chain?_uniform hwhole
  obtain ⟨hcu, hcn⟩ := hu.without hrest
  exact ⟨hcu, hcn.trans hname⟩

/-! ## Updates -/

/-- Inserting keeps the invariant. -/
lemma Invariant.insert {t : NameTable V} (h : t.Invariant) (b : Binding V) :
    (t.insert b).Invariant := by
  have hrep := replaces_insert h.ordered b
  have hunif : ∀ c ∈ some (Chain.extend b (t.chain? b.name)), c.Uniform := by
    intro c hc
    rw [← Option.mem_some_iff.mp hc]
    exact Chain.uniform_extend fun c' hc' => h.chain?_uniform hc'
  exact (grown_insert b h.shaped).shaped.invariant
    (hrep.ordered h.ordered (Chain.name_of_mem_extend b _)) (hrep.uniform h hunif)

/-- Erasing keeps the invariant. -/
lemma Invariant.erase {t : NameTable V} (h : t.Invariant) (i : Ident) :
    (t.erase i).Invariant := by
  have hrep := replaces_erase h.ordered i
  have hleft := h.left_behind i
  exact (shrunk_erase i h.shaped).shaped.invariant
    (hrep.ordered h.ordered fun c hc => (hleft c hc).2)
    (hrep.uniform h fun c hc => (hleft c hc).1)

/-- One change keeps the invariant. -/
lemma Invariant.update {t : NameTable V} (h : t.Invariant) (u : Update V) :
    (t.update u).Invariant := by
  cases u with
  | insert b => exact h.insert b
  | erase i => exact h.erase i

/-- A history keeps the invariant. -/
lemma Invariant.run {t : NameTable V} (h : t.Invariant) (us : List (Update V)) :
    (t.run us).Invariant := by
  induction us generalizing t with
  | nil => exact h
  | cons u us ih => exact ih (h.update u)

/-- **Every history of the empty table keeps the representation invariant**: names are in strict
order across whole subtrees, true heights are balanced, stored heights are true, and chains are
not empty and of one name. -/
theorem invariant_of_updates (us : List (Update V)) : ((empty : NameTable V).run us).Invariant :=
  invariant_empty.run us

end MiddleEnd.NameTable
