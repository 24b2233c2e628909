import Mathlib.Tactic.Lemma
import Mathlib.Tactic.SplitIfs
import MiddleEnd.NameTable.Basic

/-!
# The shape of a name table

Heights are read from the nodes, so a stored height that is wrong would go unnoticed and misplace
every rotation above it. The shape of a table is therefore two statements, each of which needs the
other to survive an update.

* `trueHeight` — the height counted along the longest path, whatever is stored.
* `Balanced` — the true heights of the two subtrees of a node differ by at most one.
* `HeightsStored` — every node stores its true height.
* `Shaped` — both; `shaped_node_iff` says it through the stored heights alone.

**What `balance` can do** is listed by `Rotation`, and everything about shapes is derived from that
list: on shaped subtrees whose heights differ by at most two, every outcome is shaped
(`Rotation.shaped`) and as high as the higher subtree, or one level more (`Rotation.height_bounds`).

**Updates** change the height of a table by at most one: `grown_insert` upwards, `shrunk_erase`
downwards.
-/

namespace MiddleEnd.NameTable

variable {V : Type}

/-! ## Heights -/

/-- The height counted along the longest path. -/
def trueHeight : NameTable V → Nat
  | empty => 0
  | node left _ right _ => max left.trueHeight right.trueHeight + 1

/-- At every node the true heights of the two subtrees differ by at most one. -/
def Balanced : NameTable V → Prop
  | empty => True
  | node left _ right _ =>
      left.Balanced ∧ right.Balanced ∧
        left.trueHeight ≤ right.trueHeight + 1 ∧ right.trueHeight ≤ left.trueHeight + 1

/-- Every node stores its true height. -/
def HeightsStored : NameTable V → Prop
  | empty => True
  | node left chain right height =>
      left.HeightsStored ∧ right.HeightsStored ∧
        height = (node left chain right height).trueHeight

/-- A table whose nodes are balanced and store their true heights. -/
structure Shaped (t : NameTable V) : Prop where
  /-- The subtrees of every node are about equally high. -/
  balanced : t.Balanced
  /-- What is stored is right. -/
  stored : t.HeightsStored

/-- The height at the root is the true one. -/
lemma HeightsStored.height_eq {t : NameTable V} (h : t.HeightsStored) :
    t.height = t.trueHeight := by
  cases t with
  | empty => rfl
  | node left chain right height => exact h.2.2

/-- The empty table is shaped. -/
@[simp] lemma shaped_empty : (empty : NameTable V).Shaped :=
  ⟨trivial, trivial⟩

/-- A node is shaped when its subtrees are, by the heights that they store. -/
lemma shaped_node_iff {left right : NameTable V} {chain : Chain V} {height : Nat} :
    (node left chain right height).Shaped ↔
      left.Shaped ∧ right.Shaped ∧ left.height ≤ right.height + 1 ∧
        right.height ≤ left.height + 1 ∧ height = max left.height right.height + 1 := by
  constructor
  · rintro ⟨⟨hbl, hbr, hle, hge⟩, ⟨hsl, hsr, hh⟩⟩
    rw [trueHeight, ← hsl.height_eq, ← hsr.height_eq] at hh
    rw [← hsl.height_eq, ← hsr.height_eq] at hle hge
    exact ⟨⟨hbl, hsl⟩, ⟨hbr, hsr⟩, hle, hge, hh⟩
  · rintro ⟨⟨hbl, hsl⟩, ⟨hbr, hsr⟩, hle, hge, hh⟩
    rw [hsl.height_eq, hsr.height_eq] at hle hge hh
    exact ⟨⟨hbl, hbr, hle, hge⟩, hsl, hsr, hh⟩

@[simp] lemma height_empty : (empty : NameTable V).height = 0 := rfl

@[simp] lemma height_node (left : NameTable V) (chain : Chain V) (right : NameTable V)
    (height : Nat) : (node left chain right height).height = height := rfl

@[simp] lemma height_branch (left : NameTable V) (chain : Chain V) (right : NameTable V) :
    (branch left chain right).height = max left.height right.height + 1 := rfl

/-- A branch over shaped subtrees of about equal heights is shaped. -/
lemma Shaped.branch {left right : NameTable V} (hl : left.Shaped) (hr : right.Shaped)
    (hle : left.height ≤ right.height + 1) (hge : right.height ≤ left.height + 1)
    (chain : Chain V) : (branch left chain right).Shaped :=
  shaped_node_iff.mpr ⟨hl, hr, hle, hge, rfl⟩

/-! ## Rotations -/

section rotation

variable {left right t : NameTable V} {chain : Chain V} {arm : Arm}

/-- Rotations keep the shape, where the heights differ by at most two. -/
lemma Rotation.shaped (hrot : Rotation left chain right arm t) (hl : left.Shaped)
    (hr : right.Shaped) (hlr : left.height ≤ right.height + 2)
    (hrl : right.height ≤ left.height + 2) : t.Shaped := by
  cases hrot with
  | level hle hge => exact hl.branch hr hle hge chain
  | fromLeft hh hio =>
      obtain ⟨hout, hin, hle, hge, hmax⟩ := shaped_node_iff.mp hl
      rw [height_node] at hlr
      have hlow := hin.branch hr (by omega) (by omega) chain
      exact hout.branch hlow (by rw [height_branch]; omega) (by rw [height_branch]; omega) _
  | fromLeftInner hh hio =>
      obtain ⟨hout, hin, hle, hge, hmax⟩ := shaped_node_iff.mp hl
      rw [height_node] at hlr
      obtain ⟨hbel, habo, hle', hge', hmax'⟩ := shaped_node_iff.mp hin
      simp only [height_node] at hle hge hmax
      have hlow := hout.branch hbel (by omega) (by omega)
      have hhigh := habo.branch hr (by omega) (by omega) chain
      exact (hlow _).branch hhigh (by simp only [height_branch]; omega)
        (by simp only [height_branch]; omega) _
  | fromRight hh hio =>
      obtain ⟨hin, hout, hle, hge, hmax⟩ := shaped_node_iff.mp hr
      rw [height_node] at hrl
      have hlow := hl.branch hin (by omega) (by omega) chain
      exact hlow.branch hout (by rw [height_branch]; omega) (by rw [height_branch]; omega) _
  | fromRightInner hh hio =>
      obtain ⟨hin, hout, hle, hge, hmax⟩ := shaped_node_iff.mp hr
      rw [height_node] at hrl
      obtain ⟨hbel, habo, hle', hge', hmax'⟩ := shaped_node_iff.mp hin
      simp only [height_node] at hle hge hmax
      have hlow := hl.branch hbel (by omega) (by omega) chain
      have hhigh := habo.branch hout (by omega) (by omega)
      exact hlow.branch (hhigh _) (by simp only [height_branch]; omega)
        (by simp only [height_branch]; omega) _

/-- A rotation may save the level that the higher subtree is ahead by; where nothing is rotated,
nothing is saved. -/
lemma Rotation.height_bounds (hrot : Rotation left chain right arm t) (hl : left.Shaped)
    (hr : right.Shaped) (hlr : left.height ≤ right.height + 2)
    (hrl : right.height ≤ left.height + 2) :
    max left.height right.height ≤ t.height ∧ t.height ≤ max left.height right.height + 1 ∧
      (left.height ≤ right.height + 1 → right.height ≤ left.height + 1 →
        t.height = max left.height right.height + 1) := by
  cases hrot with
  | level hle hge => exact ⟨Nat.le_succ _, Nat.le_refl _, fun _ _ => rfl⟩
  | fromLeft hh hio =>
      obtain ⟨-, -, hle, hge, hmax⟩ := shaped_node_iff.mp hl
      simp only [height_branch, height_node]
      omega
  | fromLeftInner hh hio =>
      obtain ⟨-, hin, hle, hge, hmax⟩ := shaped_node_iff.mp hl
      obtain ⟨-, -, hle', hge', hmax'⟩ := shaped_node_iff.mp hin
      simp only [height_branch, height_node] at hle hge hmax ⊢
      omega
  | fromRight hh hio =>
      obtain ⟨-, -, hle, hge, hmax⟩ := shaped_node_iff.mp hr
      simp only [height_branch, height_node]
      omega
  | fromRightInner hh hio =>
      obtain ⟨hin, -, hle, hge, hmax⟩ := shaped_node_iff.mp hr
      obtain ⟨-, -, hle', hge', hmax'⟩ := shaped_node_iff.mp hin
      simp only [height_branch, height_node] at hle hge hmax ⊢
      omega

end rotation

/-! ## Growing and shrinking by one level -/

/-- The second table is shaped, and as high as the first or one level higher. -/
structure Grown (t t' : NameTable V) : Prop where
  /-- The shape after the update. -/
  shaped : t'.Shaped
  /-- Nothing is lost. -/
  height_le : t.height ≤ t'.height
  /-- At most one level is won. -/
  height_le_succ : t'.height ≤ t.height + 1

/-- The second table is shaped, and as high as the first or one level lower. -/
structure Shrunk (t t' : NameTable V) : Prop where
  /-- The shape after the update. -/
  shaped : t'.Shaped
  /-- Nothing is won. -/
  height_le : t'.height ≤ t.height
  /-- At most one level is lost. -/
  height_le_succ : t.height ≤ t'.height + 1

section replace

variable {left right new : NameTable V} {chain : Chain V} {height : Nat}

/-- A node grows at most as much as its left subtree. -/
lemma Grown.node_left (h : (node left chain right height).Shaped) (hg : Grown left new) :
    Grown (node left chain right height) (balance new chain right) := by
  obtain ⟨hl, hr, hle, hge, hmax⟩ := shaped_node_iff.mp h
  obtain ⟨hs, hlo, hhi⟩ := hg
  have hrot := rotation_rotate new chain right
  rw [← balance_eq] at hrot
  obtain ⟨hlow, hhigh, hlevel⟩ := hrot.height_bounds hs hr (by omega) (by omega)
  exact ⟨hrot.shaped hs hr (by omega) (by omega), by simp only [height_node]; omega,
    by simp only [height_node]; omega⟩

/-- A node grows at most as much as its right subtree. -/
lemma Grown.node_right (h : (node left chain right height).Shaped) (hg : Grown right new) :
    Grown (node left chain right height) (balance left chain new) := by
  obtain ⟨hl, hr, hle, hge, hmax⟩ := shaped_node_iff.mp h
  obtain ⟨hs, hlo, hhi⟩ := hg
  have hrot := rotation_rotate left chain new
  rw [← balance_eq] at hrot
  obtain ⟨hlow, hhigh, hlevel⟩ := hrot.height_bounds hl hs (by omega) (by omega)
  exact ⟨hrot.shaped hl hs (by omega) (by omega), by simp only [height_node]; omega,
    by simp only [height_node]; omega⟩

/-- A node shrinks at most as much as its left subtree. -/
lemma Shrunk.node_left (h : (node left chain right height).Shaped) (hg : Shrunk left new) :
    Shrunk (node left chain right height) (balance new chain right) := by
  obtain ⟨hl, hr, hle, hge, hmax⟩ := shaped_node_iff.mp h
  obtain ⟨hs, hhi, hlo⟩ := hg
  have hrot := rotation_rotate new chain right
  rw [← balance_eq] at hrot
  obtain ⟨hlow, hhigh, hlevel⟩ := hrot.height_bounds hs hr (by omega) (by omega)
  exact ⟨hrot.shaped hs hr (by omega) (by omega), by simp only [height_node]; omega,
    by simp only [height_node]; omega⟩

/-- A node shrinks at most as much as its right subtree, whichever chain comes to stand above. -/
lemma Shrunk.node_right (h : (node left chain right height).Shaped) (hg : Shrunk right new)
    (above : Chain V) : Shrunk (node left chain right height) (balance left above new) := by
  obtain ⟨hl, hr, hle, hge, hmax⟩ := shaped_node_iff.mp h
  obtain ⟨hs, hhi, hlo⟩ := hg
  have hrot := rotation_rotate left above new
  rw [← balance_eq] at hrot
  obtain ⟨hlow, hhigh, hlevel⟩ := hrot.height_bounds hl hs (by omega) (by omega)
  exact ⟨hrot.shaped hl hs (by omega) (by omega), by simp only [height_node]; omega,
    by simp only [height_node]; omega⟩

/-- A node without a left subtree shrinks to its right one. -/
lemma shrunk_of_left_empty (h : (node empty chain right height).Shaped) :
    Shrunk (node empty chain right height) right := by
  obtain ⟨-, hr, -, hge, hmax⟩ := shaped_node_iff.mp h
  simp only [height_empty] at hge hmax
  exact ⟨hr, by simp only [height_node]; omega, by simp only [height_node]; omega⟩

/-- A node without a right subtree shrinks to its left one. -/
lemma shrunk_of_right_empty (h : (node left chain empty height).Shaped) :
    Shrunk (node left chain empty height) left := by
  obtain ⟨hl, -, hle, -, hmax⟩ := shaped_node_iff.mp h
  simp only [height_empty] at hle hmax
  exact ⟨hl, by simp only [height_node]; omega, by simp only [height_node]; omega⟩

/-- The chain of a node has no part in its shape. -/
lemma Shaped.with_chain (h : (node left chain right height).Shaped) (other : Chain V) :
    (node left other right height).Shaped :=
  shaped_node_iff.mpr (shaped_node_iff.mp h)

end replace

/-! ## Inserting -/

/-- Inserting keeps the shape, and the height or the height but one. -/
theorem grown_insert (b : Binding V) {t : NameTable V} (ht : t.Shaped) :
    Grown t (t.insert b) := by
  induction t with
  | empty =>
      have hs := shaped_empty.branch (shaped_empty (V := V)) (by simp) (by simp) (.single b)
      exact ⟨hs, Nat.zero_le _, Nat.le_refl _⟩
  | node left chain right height ihl ihr =>
      obtain ⟨hl, hr, -⟩ := shaped_node_iff.mp ht
      rw [insert_node]
      split
      · exact ⟨ht.with_chain _, Nat.le_refl _, Nat.le_succ _⟩
      · exact (ihl hl).node_left ht
      · exact (ihr hr).node_right ht

/-! ## Erasing -/

/-- Taking out the smallest name keeps the shape. -/
lemma shrunk_eraseMin {left right : NameTable V} {chain : Chain V} {height : Nat}
    (h : (node left chain right height).Shaped) :
    Shrunk (node left chain right height) (eraseMin left chain right) := by
  induction left generalizing chain right height with
  | empty => exact shrunk_of_left_empty h
  | node below smaller above k ih _ =>
      obtain ⟨hl, -⟩ := shaped_node_iff.mp h
      exact (ih hl).node_left h

/-- Taking out a node keeps the shape: the gap is filled from the right subtree. -/
lemma shrunk_glue {left right : NameTable V} {chain : Chain V} {height : Nat}
    (h : (node left chain right height).Shaped) :
    Shrunk (node left chain right height) (glue left right) := by
  cases left with
  | empty =>
      rw [empty_glue]
      exact shrunk_of_left_empty h
  | node outer heavy inner k =>
      cases right with
      | empty => exact shrunk_of_right_empty h
      | node below smaller above m =>
          obtain ⟨-, hr, -⟩ := shaped_node_iff.mp h
          exact (shrunk_eraseMin hr).node_right h _

/-- Removing an identifier from the chain of a node keeps the shape, whether the node stays or
goes. -/
lemma shrunk_eraseHere {left right : NameTable V} {chain : Chain V} {height : Nat}
    (h : (node left chain right height).Shaped) (i : Ident) :
    Shrunk (node left chain right height) (eraseHere i left chain right height).table := by
  rw [eraseHere_eq]
  split
  · exact ⟨h.with_chain _, Nat.le_refl _, Nat.le_succ _⟩
  · exact shrunk_glue h
  · exact shrunk_glue h

/-- A removal keeps the shape. -/
lemma shrunk_of_erase?_eq_some {t : NameTable V} (ht : t.Shaped) {i : Ident} {r : Removal V}
    (hr : t.erase? i = some r) : Shrunk t r.table := by
  induction t generalizing r with
  | empty => exact absurd hr nofun
  | node left chain right height ihl ihr =>
      obtain ⟨hsl, hsr, -⟩ := shaped_node_iff.mp ht
      rw [erase?_node] at hr
      split at hr
      · cases hr
        exact shrunk_eraseHere ht i
      · obtain ⟨below, hbelow, rfl⟩ := Option.map_eq_some_iff.mp hr
        exact (ihl hsl hbelow).node_left ht
      · obtain ⟨above, habove, rfl⟩ := Option.map_eq_some_iff.mp hr
        exact (ihr hsr habove).node_right ht _

/-- Erasing keeps the shape, and the height or the height but one. -/
theorem shrunk_erase (i : Ident) {t : NameTable V} (ht : t.Shaped) : Shrunk t (t.erase i) := by
  unfold erase
  split
  · next r hr => exact shrunk_of_erase?_eq_some ht hr
  · exact ⟨ht, Nat.le_refl _, Nat.le_succ _⟩

end MiddleEnd.NameTable
