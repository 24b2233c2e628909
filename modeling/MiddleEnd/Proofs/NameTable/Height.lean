import Mathlib.Data.Nat.Fib.Basic
import Mathlib.Data.Set.Card
import Mathlib.NumberTheory.Real.GoldenRatio
import MiddleEnd.Proofs.NameTable.Refinement

/-!
# How high a name table gets

A search follows one path, so what it costs is bounded by the height of the table. This module
bounds the height by the number of names that are bound, for every history of insertions and
removals.

* `boundNames` — the names that have a binding. Nodes and bound names correspond one to one
  (`ncard_boundNames`), so that the bounds can be proved for the number of nodes.
* `Shaped.fib_height_le` — a balanced table is at least as large as the sparsest one of its height,
  and the sizes of these grow like the Fibonacci numbers.
* `two_pow_le_fib_pow` — Fibonacci numbers grow by the golden ratio, and its 29th power is above
  `2 ^ 20`. This is `height ≤ 1.45 * log₂ n` in integers.

`height_of_updates` is the main result.
-/

namespace MiddleEnd.NameTable

open Real (goldenRatio)

variable {V : Type}

/-! ## Bound names -/

/-- The names that have a binding. -/
def boundNames (t : NameTable V) : Set String :=
  {name | t.bindingsOf name ≠ []}

/-- The names that have a binding are those of the chains. -/
lemma mem_boundNames_iff {t : NameTable V} (h : t.Ordered) {name : String} :
    name ∈ t.boundNames ↔ name ∈ t.chains.map Chain.name := by
  rw [boundNames, Set.mem_ofPred_eq, bindingsOf_eq_entries, List.mem_map]
  constructor
  · intro hne
    cases hc : t.chain? name with
    | none =>
        rw [hc] at hne
        exact absurd rfl hne
    | some c => exact ⟨c, (chain?_eq_some_iff h).mp hc⟩
  · rintro ⟨c, hc⟩
    rw [(chain?_eq_some_iff h).mpr hc]
    exact c.toList_ne_nil

/-- The chains of an ordered table have different names. -/
lemma Ordered.nodup_names {t : NameTable V} (h : t.Ordered) : (t.chains.map Chain.name).Nodup := by
  rw [List.Nodup, List.pairwise_map]
  exact (ordered_iff_pairwise.mp h).imp fun hlt => hlt.ne

/-- **There are as many bound names as nodes.** -/
lemma ncard_boundNames {t : NameTable V} (h : t.Ordered) : t.boundNames.ncard = t.size := by
  have hset : t.boundNames = ↑(t.chains.map Chain.name).toFinset := by
    ext name
    rw [mem_boundNames_iff h, Finset.mem_coe, List.mem_toFinset]
  rw [hset, Set.ncard_coe_finset, List.toFinset_card_of_nodup h.nodup_names, List.length_map,
    length_chains]

/-! ## The sparsest tables -/

/-- A node one level above a subtree, with another subtree that is at most one level lower, has
room for the next Fibonacci number. -/
lemma fib_succ_le_of_subtrees {high low sizeHigh sizeLow : Nat} (hlow : high ≤ low + 1)
    (hhigh : Nat.fib (high + 2) ≤ sizeHigh + 1) (hl : Nat.fib (low + 2) ≤ sizeLow + 1) :
    Nat.fib (high + 3) ≤ sizeHigh + 1 + sizeLow + 1 := by
  have hmono : Nat.fib (high + 1) ≤ Nat.fib (low + 2) := Nat.fib_mono (by omega)
  have hrec : Nat.fib (high + 3) = Nat.fib (high + 1) + Nat.fib (high + 2) := Nat.fib_add_two
  omega

/-- **A balanced table has at least as many nodes as the sparsest one of its height.** -/
lemma Shaped.fib_height_le {t : NameTable V} (h : t.Shaped) :
    Nat.fib (t.height + 2) ≤ t.size + 1 := by
  induction t with
  | empty => exact Nat.le_refl 1
  | node left chain right height ihl ihr =>
      obtain ⟨hl, hr, hle, hge, hmax⟩ := shaped_node_iff.mp h
      rw [height_node, hmax, size]
      rcases Nat.le_total left.height right.height with hlr | hrl
      · rw [Nat.max_eq_right hlr]
        have hfib := fib_succ_le_of_subtrees hge (ihr hr) (ihl hl)
        have hsize : left.size + 1 + right.size = right.size + 1 + left.size := by omega
        rwa [hsize]
      · rw [Nat.max_eq_left hrl]
        exact fib_succ_le_of_subtrees hle (ihl hl) (ihr hr)

/-! ## The growth of Fibonacci numbers -/

/-- Powers of the golden ratio stay below the Fibonacci numbers two places further on. -/
lemma goldenRatio_pow_le_fib (n : Nat) : goldenRatio ^ n ≤ Nat.fib (n + 2) := by
  cases n with
  | zero => simp
  | succ n =>
      have hrec : Nat.fib (n + 3) = Nat.fib (n + 1) + (Nat.fib n + Nat.fib (n + 1)) := by
        rw [Nat.fib_add_two, Nat.fib_add_two]
      have hmul : goldenRatio * Nat.fib (n + 1) ≤ 2 * Nat.fib (n + 1) :=
        mul_le_mul_of_nonneg_right Real.goldenRatio_lt_two.le (Nat.cast_nonneg _)
      calc goldenRatio ^ (n + 1)
          = goldenRatio * Nat.fib (n + 1) + Nat.fib n :=
            (Real.goldenRatio_mul_fib_succ_add_fib n).symm
        _ ≤ 2 * Nat.fib (n + 1) + Nat.fib n := by linarith
        _ = Nat.fib (n + 3) := by
            rw [hrec]
            push_cast
            ring

/-- The golden ratio is above `2 ^ (20 / 29)`. -/
lemma two_pow_le_goldenRatio_pow : (2 : ℝ) ^ 20 ≤ goldenRatio ^ 29 := by
  have hsqrt : (2.226 : ℝ) ≤ √5 := Real.le_sqrt_of_sq_le (by norm_num)
  have hratio : (1.613 : ℝ) ≤ goldenRatio := by
    rw [goldenRatio]
    linarith
  calc (2 : ℝ) ^ 20 ≤ 1.613 ^ 29 := by norm_num
    _ ≤ goldenRatio ^ 29 := pow_le_pow_left₀ (by norm_num) hratio 29

/-- **Fibonacci numbers grow at least like `2 ^ (20 / 29 * n)`.** -/
lemma two_pow_le_fib_pow (n : Nat) : 2 ^ (20 * n) ≤ Nat.fib (n + 2) ^ 29 := by
  have hreal : ((2 : ℝ) ^ 20) ^ n ≤ (Nat.fib (n + 2) : ℝ) ^ 29 :=
    calc ((2 : ℝ) ^ 20) ^ n ≤ (goldenRatio ^ 29) ^ n :=
          pow_le_pow_left₀ (by positivity) two_pow_le_goldenRatio_pow n
      _ = (goldenRatio ^ n) ^ 29 := by rw [← pow_mul, ← pow_mul, Nat.mul_comm]
      _ ≤ (Nat.fib (n + 2) : ℝ) ^ 29 :=
          pow_le_pow_left₀ (pow_nonneg Real.goldenRatio_pos.le n) (goldenRatio_pow_le_fib n) 29
  rw [pow_mul]
  exact_mod_cast hreal

/-! ## The main result -/

/-- **The height of a table is logarithmic in the number of names that are bound.** After every
history of the empty table, with `n` names bound, the Fibonacci number two places behind the height
is at most `n + 1`; and `height ≤ 1.45 * log₂ (n + 2)`, both sides put into the exponent of two. -/
theorem height_of_updates (us : List (Update V)) :
    let t := (empty : NameTable V).run us
    let n := t.boundNames.ncard
    Nat.fib (t.height + 2) ≤ n + 1 ∧ 2 ^ (20 * t.height) ≤ (n + 2) ^ 29 := by
  intro t n
  have hinv : t.Invariant := invariant_empty.run us
  have hn : n = t.size := ncard_boundNames hinv.ordered
  have hfib : Nat.fib (t.height + 2) ≤ n + 1 := hn ▸ hinv.shaped.fib_height_le
  refine ⟨hfib, ?_⟩
  calc 2 ^ (20 * t.height) ≤ Nat.fib (t.height + 2) ^ 29 := two_pow_le_fib_pow t.height
    _ ≤ (n + 1) ^ 29 := Nat.pow_le_pow_left hfib 29
    _ ≤ (n + 2) ^ 29 := Nat.pow_le_pow_left (Nat.le_succ (n + 1)) 29

end MiddleEnd.NameTable
