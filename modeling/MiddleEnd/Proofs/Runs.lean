import Mathlib.Tactic.Lemma
import MiddleEnd.ScopeStack
import MiddleEnd.Session

/-!
# Runs, step by step

Sessions and scope stacks are run in the same way: a list of steps is performed one after the
other, and the answers are collected. `IsRun step run` says that `run` does this for `step`. What
follows from it is said here once:

* the answer to step number `k` is that of the state behind the first `k` steps
  (`IsRun.answer_eq`), and the next state is what this step makes of it (`IsRun.state_succ`);
* a property of states that every step of a stretch keeps holds at its end if it holds at its
  beginning (`IsRun.carry`).
-/

namespace MiddleEnd

variable {σ ι α : Type}

/-- `run` performs the steps of a list one after the other and collects their answers. -/
structure IsRun (step : σ → ι → α × σ) (run : σ → List ι → List α × σ) : Prop where
  /-- Without steps nothing happens. -/
  nil : ∀ s, run s [] = ([], s)
  /-- The first step is performed first. -/
  cons : ∀ s x xs, run s (x :: xs) =
    ((step s x).1 :: (run (step s x).2 xs).1, (run (step s x).2 xs).2)

/-- Behind the last step there is none to take. -/
lemma take_succ_of_none {xs : List ι} {k : Nat} (hx : xs[k]? = none) :
    xs.take (k + 1) = xs.take k := by
  rw [List.take_add_one, hx, Option.toList_none, List.append_nil]

namespace IsRun

variable {step : σ → ι → α × σ} {run : σ → List ι → List α × σ} (h : IsRun step run)

include h

/-- Two lists of steps are run one after the other. -/
lemma append (s : σ) (xs ys : List ι) :
    run s (xs ++ ys) =
      ((run s xs).1 ++ (run (run s xs).2 ys).1, (run (run s xs).2 ys).2) := by
  induction xs generalizing s with
  | nil => simp [h.nil]
  | cons x xs ih => simp [h.cons, ih]

/-- A step at the end is performed in the state that the others lead to. -/
lemma concat (s : σ) (xs : List ι) (x : ι) :
    run s (xs ++ [x]) =
      ((run s xs).1 ++ [(step (run s xs).2 x).1], (step (run s xs).2 x).2) := by
  rw [h.append, h.cons, h.nil]

/-- Step number `k` is answered in the state behind the first `k` steps. -/
lemma answer_eq (s : σ) (xs : List ι) (k : Nat) :
    (run s xs).1[k]? = xs[k]?.map fun x => (step (run s (xs.take k)).2 x).1 := by
  induction xs generalizing s k with
  | nil => simp [h.nil]
  | cons x xs ih =>
      rw [h.cons]
      cases k with
      | zero => simp [h.nil]
      | succ k => simp [h.cons, ih]

/-- Step number `k` leads from the state behind the first `k` steps to the next one. -/
lemma state_succ (s : σ) {xs : List ι} {k : Nat} {x : ι} (hx : xs[k]? = some x) :
    (run s (xs.take (k + 1))).2 = (step (run s (xs.take k)).2 x).2 := by
  rw [List.take_add_one, hx, Option.toList_some, h.concat]

/-- What every step from number `j` on keeps holds before step `k` if it holds before step `j`. -/
lemma carry (s : σ) (xs : List ι) {P : σ → Prop} {j k : Nat} (hjk : j ≤ k)
    (hj : P (run s (xs.take j)).2)
    (hstep : ∀ m x, j ≤ m → m < k → xs[m]? = some x →
      P (run s (xs.take m)).2 → P (step (run s (xs.take m)).2 x).2) :
    P (run s (xs.take k)).2 := by
  induction k with
  | zero => rwa [Nat.le_zero.mp hjk] at hj
  | succ k ih =>
      rcases Nat.lt_or_eq_of_le hjk with hlt | rfl
      · have hk := ih (by omega) fun m x hjm hmk hx => hstep m x hjm (by omega) hx
        cases hx : xs[k]? with
        | none =>
            rw [take_succ_of_none hx]
            exact hk
        | some x =>
            rw [h.state_succ s hx]
            exact hstep k x (by omega) (by omega) hx hk
      · exact hj

end IsRun

/-- Sessions run step by step. -/
lemma Session.isRun : IsRun Session.step Session.run :=
  ⟨fun _ => rfl, fun _ _ _ => rfl⟩

/-- Scope stacks run step by step. -/
lemma ScopeStack.isRun {V : Type} : IsRun (ScopeStack.step (V := V)) ScopeStack.run :=
  ⟨fun _ => rfl, fun _ _ _ => rfl⟩

end MiddleEnd
