/-!
# Ascending lists

* `ascending xs` — the elements of `xs` in ascending order, equal ones kept.
* `tally xs` — the different elements of `xs` in ascending order, each with the number of times it
  occurs.
* `neighbours xs` — how every element of `xs` compares with the one after it.
-/

namespace MiddleEnd

variable {α : Type} [Ord α]

/-- The elements of a list in ascending order. -/
def ascending (xs : List α) : List α :=
  xs.mergeSort fun a b => (compare a b).isLE

/-- Counts one more element in front of a tally: it is either another occurrence of the first
element counted, or a new one. -/
def countFirst (x : α) : List (α × Nat) → List (α × Nat)
  | [] => [(x, 1)]
  | (y, n) :: counted =>
    if compare x y = .eq then (y, n + 1) :: counted else (x, 1) :: (y, n) :: counted

/-- The different elements of a list in ascending order, with their numbers of occurrences. -/
def tally (xs : List α) : List (α × Nat) :=
  (ascending xs).foldr countFirst []

/-- How every element compares with its successor. -/
def neighbours (xs : List α) : List Ordering :=
  List.zipWith compare xs xs.tail

end MiddleEnd
