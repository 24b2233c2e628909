import Mathlib.Tactic.Lemma
import MiddleEnd.Ident.Order

/-!
# Identifiers are totally ordered

* `Coherent ab bc ac` — what transitivity says of the three comparisons of `a`, `b` and `c`. It
  passes through lexicographic comparison (`Coherent.then`), one place after the other, so that it
  can be carried through the mutual recursion of global names and their arguments.
* Global names: comparing is oriented, transitive, and answers `eq` only for equal names. Each of
  the three is one induction over names, lists of arguments and arguments.
* `Ident.lexicographic` — the order of identifiers as one lexicographic comparison, by kind, own
  stamp, written name and scope. It is the order of identifiers (`order_eq_lexicographic`), and
  gets its laws from those of its places.
* `ascending_eq_of_perm` — under a total order, lists with the same elements are sorted into the
  same list.

The main result is `Ident.strict_total_order`.
-/

namespace MiddleEnd

/-! ## Lexicographic comparison -/

/-- Three comparisons, of `a` with `b`, of `b` with `c` and of `a` with `c`, that agree with each
other. -/
structure Coherent (ab bc ac : Ordering) : Prop where
  /-- Below what is below. -/
  lt_trans : ab = .lt → bc = .lt → ac = .lt
  /-- What is equal on the left can be replaced. -/
  congr_left : ab = .eq → ac = bc
  /-- What is equal on the right can be replaced. -/
  congr_right : bc = .eq → ac = ab

/-- Comparisons of a type with transitive order are coherent. -/
lemma coherent_compare {α : Type} [Ord α] [Std.TransOrd α] (a b c : α) :
    Coherent (compare a b) (compare b c) (compare a c) :=
  ⟨Std.TransCmp.lt_trans, Std.TransCmp.congr_left, fun h => (Std.TransCmp.congr_right h).symm⟩

/-- **Coherent comparisons of two places are coherent one after the other.** -/
lemma Coherent.then {ab bc ac ab' bc' ac' : Ordering} (h : Coherent ab bc ac)
    (h' : Coherent ab' bc' ac') :
    Coherent (ab.then ab') (bc.then bc') (ac.then ac') := by
  refine ⟨fun hab hbc => ?_, fun hab => ?_, fun hbc => ?_⟩
  · rw [Ordering.then_eq_lt] at hab hbc ⊢
    rcases hab with hab | ⟨hab, hab'⟩
    · rcases hbc with hbc | ⟨hbc, -⟩
      · exact .inl (h.lt_trans hab hbc)
      · exact .inl ((h.congr_right hbc).trans hab)
    · rcases hbc with hbc | ⟨hbc, hbc'⟩
      · exact .inl ((h.congr_left hab).trans hbc)
      · exact .inr ⟨(h.congr_left hab).trans hbc, h'.lt_trans hab' hbc'⟩
  · rw [Ordering.then_eq_eq] at hab
    rw [h.congr_left hab.1, h'.congr_left hab.2]
  · rw [Ordering.then_eq_eq] at hbc
    rw [h.congr_right hbc.1, h'.congr_right hbc.2]

/-- Coherent comparisons are transitive. -/
lemma Coherent.isLE_trans {ab bc ac : Ordering} (h : Coherent ab bc ac) (hab : ab.isLE = true)
    (hbc : bc.isLE = true) : ac.isLE = true := by
  rcases Ordering.isLE_iff_eq_lt_or_eq_eq.mp hab with hab' | hab'
  · rcases Ordering.isLE_iff_eq_lt_or_eq_eq.mp hbc with hbc' | hbc'
    · rw [h.lt_trans hab' hbc']
      rfl
    · rwa [h.congr_right hbc']
  · rwa [h.congr_left hab']

/-! ## Global names -/

namespace GlobalName

mutual

/-- Comparing names the other way round gives the opposite answer. -/
lemma order_swap : (a b : GlobalName) → order a b = (order b a).swap
  | ⟨h, as⟩, ⟨k, bs⟩ => by
      rw [order, order, Ordering.swap_then, ← orderArgs_swap as bs,
        ← Std.OrientedOrd.eq_swap (a := h)]

/-- Comparing lists of arguments the other way round gives the opposite answer. -/
lemma orderArgs_swap : (as bs : List GlobalArg) → orderArgs as bs = (orderArgs bs as).swap
  | [], [] => rfl
  | [], _ :: _ => rfl
  | _ :: _, [] => rfl
  | a :: as, b :: bs => by
      rw [orderArgs, orderArgs, Ordering.swap_then, ← orderArg_swap a b, ← orderArgs_swap as bs]

/-- Comparing arguments the other way round gives the opposite answer. -/
lemma orderArg_swap : (a b : GlobalArg) → orderArg a b = (orderArg b a).swap
  | ⟨p, v⟩, ⟨q, w⟩ => by
      rw [orderArg, orderArg, Ordering.swap_then, ← order_swap p q, ← order_swap v w]

end

mutual

/-- Names compare as equal exactly if they are. -/
lemma order_eq_eq_iff : (a b : GlobalName) → (order a b = .eq ↔ a = b)
  | ⟨h, as⟩, ⟨k, bs⟩ => by
      rw [order, Ordering.then_eq_eq, orderArgs_eq_eq_iff as bs,
        Std.LawfulEqOrd.compare_eq_iff_eq, GlobalName.mk.injEq]

/-- Lists of arguments compare as equal exactly if they are. -/
lemma orderArgs_eq_eq_iff : (as bs : List GlobalArg) → (orderArgs as bs = .eq ↔ as = bs)
  | [], [] => by simp [orderArgs]
  | [], _ :: _ => by simp [orderArgs]
  | _ :: _, [] => by simp [orderArgs]
  | a :: as, b :: bs => by
      rw [orderArgs, Ordering.then_eq_eq, orderArg_eq_eq_iff a b, orderArgs_eq_eq_iff as bs,
        List.cons.injEq]

/-- Arguments compare as equal exactly if they are. -/
lemma orderArg_eq_eq_iff : (a b : GlobalArg) → (orderArg a b = .eq ↔ a = b)
  | ⟨p, v⟩, ⟨q, w⟩ => by
      rw [orderArg, Ordering.then_eq_eq, order_eq_eq_iff p q, order_eq_eq_iff v w,
        GlobalArg.mk.injEq]

end

mutual

/-- The order of names is transitive. -/
lemma coherent_order : (a b c : GlobalName) → Coherent (order a b) (order b c) (order a c)
  | ⟨h, as⟩, ⟨k, bs⟩, ⟨l, cs⟩ => by
      rw [order, order, order]
      exact (coherent_compare h k l).then (coherent_orderArgs as bs cs)

/-- The order of lists of arguments is transitive. -/
lemma coherent_orderArgs : (as bs cs : List GlobalArg) →
    Coherent (orderArgs as bs) (orderArgs bs cs) (orderArgs as cs)
  | [], [], [] => by constructor <;> simp [orderArgs]
  | [], [], _ :: _ => by constructor <;> simp [orderArgs]
  | [], _ :: _, [] => by constructor <;> simp [orderArgs]
  | [], _ :: _, _ :: _ => by constructor <;> simp [orderArgs]
  | _ :: _, [], [] => by constructor <;> simp [orderArgs]
  | _ :: _, [], _ :: _ => by constructor <;> simp [orderArgs]
  | _ :: _, _ :: _, [] => by constructor <;> simp [orderArgs]
  | a :: as, b :: bs, c :: cs => by
      rw [orderArgs, orderArgs, orderArgs]
      exact (coherent_orderArg a b c).then (coherent_orderArgs as bs cs)

/-- The order of arguments is transitive. -/
lemma coherent_orderArg : (a b c : GlobalArg) →
    Coherent (orderArg a b) (orderArg b c) (orderArg a c)
  | ⟨p, v⟩, ⟨q, w⟩, ⟨r, x⟩ => by
      rw [orderArg, orderArg, orderArg]
      exact (coherent_order p q r).then (coherent_order v w x)

end

instance : Std.TransOrd GlobalName where
  eq_swap := order_swap _ _
  isLE_trans := (coherent_order _ _ _).isLE_trans

instance : Std.LawfulEqOrd GlobalName where
  compare_self := (order_eq_eq_iff _ _).mpr rfl
  eq_of_compare := (order_eq_eq_iff _ _).mp

/-- Names without arguments are ordered by their heads. -/
lemma compare_plain (a b : String) : compare (plain a) (plain b) = compare a b := by
  change (compare a b).then .eq = compare a b
  exact Ordering.then_eq

end GlobalName

/-! ## Identifiers -/

namespace Ident

/-- The stamp of an identifier, that of a built-in one included. -/
def ownStamp : Ident → Stamp
  | builtIn _ stamp => stamp
  | i => i.stamp

/-- The name of an identifier as a global name; all but applied ones are without arguments. -/
def structuredName : Ident → GlobalName
  | applied g => g
  | i => .plain i.name

/-- The order of identifiers in one piece: by kind, stamp, name and scope. -/
def lexicographic : Ident → Ident → Ordering :=
  compareLex (compareOn (·.kind.rank)) <| compareLex (compareOn ownStamp) <|
    compareLex (compareOn structuredName) (compareOn scope)

/-- Kinds have different places in the order. -/
lemma Kind.rank_injective {k l : Kind} (h : k.rank = l.rank) : k = l := by
  cases k <;> cases l <;> simp_all [rank]

/-- Identifiers of different kinds are ordered by kind. -/
lemma order_of_kind_ne {a b : Ident} (h : a.kind ≠ b.kind) :
    order a b = compare a.kind.rank b.kind.rank := by
  cases a <;> cases b <;> simp_all [order, kind]

/-- Identifiers are ordered by kind, stamp, name and scope. -/
lemma order_eq_lexicographic : order = lexicographic := by
  funext a b
  by_cases hkind : a.kind = b.kind
  · -- the kinds agree, and each kind leaves out the places that it does not have
    cases a <;> cases b <;>
      simp_all [order, lexicographic, compareLex, compareOn, kind, ownStamp, stamp,
        structuredName, name, scope, GlobalName.compare_plain, Ordering.then_assoc]
  · have hrank : compare a.kind.rank b.kind.rank ≠ .eq := fun h =>
      hkind (Kind.rank_injective (Std.LawfulEqOrd.eq_of_compare h))
    rw [order_of_kind_ne hkind, lexicographic, compareLex, compareOn]
    cases hcompare : compare a.kind.rank b.kind.rank with
    | lt => rfl
    | eq => exact absurd hcompare hrank
    | gt => rfl

/-- The four places determine an identifier. -/
lemma eq_of_places {a b : Ident} (hkind : a.kind.rank = b.kind.rank)
    (hstamp : a.ownStamp = b.ownStamp) (hname : a.structuredName = b.structuredName)
    (hscope : a.scope = b.scope) : a = b := by
  cases a <;> cases b <;>
    simp_all [kind, Kind.rank, ownStamp, stamp, structuredName, name, scope, GlobalName.plain]

instance : Std.TransOrd Ident := by
  change Std.TransCmp order
  rw [order_eq_lexicographic]
  unfold lexicographic
  infer_instance

instance : Std.LawfulEqOrd Ident where
  compare_self := Std.ReflCmp.compare_self
  eq_of_compare {a b} h := by
    change order a b = .eq at h
    rw [order_eq_lexicographic] at h
    simp only [lexicographic, compareLex, compareOn, Ordering.then_eq_eq,
      Std.LawfulEqOrd.compare_eq_iff_eq] at h
    exact eq_of_places h.1 h.2.1 h.2.2.1 h.2.2.2

/-- Identifiers are equal if they are the same, with the same name and scope. -/
lemma eq_iff_same {a b : Ident} :
    a = b ↔ a.same b = true ∧ a.sameName b = true ∧ a.scope = b.scope := by
  cases a <;> cases b <;> simp [same, sameName, scope, and_comm, and_left_comm]

end Ident

/-! ## Sorted lists -/

section ascending

variable {α : Type} [Ord α]

/-- Sorting keeps the elements. -/
lemma ascending_perm (xs : List α) : (ascending xs).Perm xs :=
  List.mergeSort_perm xs _

/-- Under a transitive order, sorted lists ascend. -/
lemma pairwise_ascending [Std.TransOrd α] (xs : List α) :
    (ascending xs).Pairwise fun a b => (compare a b).isLE = true := by
  apply List.pairwise_mergeSort
  · intro a b c hab hbc
    exact Std.TransOrd.isLE_trans hab hbc
  · intro a b
    rw [Std.OrientedOrd.eq_swap (a := b)]
    cases compare a b <;> rfl

/-- **Lists with the same elements are sorted into the same list.** -/
lemma ascending_eq_of_perm [Std.TransOrd α] [Std.LawfulEqOrd α] {xs ys : List α}
    (h : xs.Perm ys) : ascending xs = ascending ys := by
  refine List.Perm.eq_of_pairwise (fun a b _ _ hab hba => ?_) (pairwise_ascending xs)
    (pairwise_ascending ys) ((ascending_perm xs).trans (h.trans (ascending_perm ys).symm))
  exact Std.LawfulEqOrd.eq_of_compare (Std.OrientedCmp.isLE_antisymm hab hba)

end ascending

/-! ## The main result -/

namespace Ident

/-- **The order of identifiers is a strict total order that agrees with equality.**

* Comparing the other way round gives the opposite answer, and to be less is transitive.
* Identifiers compare as equal exactly if they are equal, and they are equal exactly if they are
  the same and have the same name and scope.
* Locals are above locals of a scope, these above applied globals, these above plain globals, and
  these above what is built in.
* Sorting lists the same identifiers in ascending order, and the result does not depend on the
  order in which they came. -/
theorem strict_total_order :
    (∀ a b : Ident, compare a b = (compare b a).swap) ∧
      (∀ a b c : Ident, compare a b = .lt → compare b c = .lt → compare a c = .lt) ∧
      (∀ a b : Ident, (compare a b = .eq ↔ a = b) ∧
        (a = b ↔ a.same b = true ∧ a.sameName b = true ∧ a.scope = b.scope)) ∧
      ([Kind.unitLocal, .scopeLocal, .applied, .global, .builtIn].Pairwise fun k l =>
        ∀ a b : Ident, a.kind = k → b.kind = l → compare a b = .gt) ∧
      ∀ xs : List Ident, (ascending xs).Perm xs ∧
        ((ascending xs).Pairwise fun a b => (compare a b).isLE = true) ∧
        ∀ ys, xs.Perm ys → ascending xs = ascending ys := by
  refine ⟨fun a b => Std.OrientedOrd.eq_swap, fun a b c => Std.TransCmp.lt_trans,
    fun a b => ⟨Std.LawfulEqOrd.compare_eq_iff_eq, eq_iff_same⟩, ?_,
    fun xs => ⟨ascending_perm xs, pairwise_ascending xs, fun ys => ascending_eq_of_perm⟩⟩
  have hrank : [Kind.unitLocal, .scopeLocal, .applied, .global, .builtIn].Pairwise
      fun k l => compare k.rank l.rank = .gt := by decide
  refine hrank.imp fun {k l} hgt a b ha hb => ?_
  have hne : a.kind ≠ b.kind := by
    intro heq
    rw [← ha, ← hb, heq, Std.LawfulEqOrd.compare_eq_iff_eq.mpr rfl] at hgt
    cases hgt
  exact (order_of_kind_ne hne).trans (by rw [ha, hb, hgt])

/-- A built-in identifier with a great stamp, two applied globals of which one has the arguments of
the other and one more, and a local: they ascend in this order, whichever way they are listed. -/
theorem strict_total_order_applied :
    let elt : GlobalArg := ⟨.plain "Elt", .plain "Int"⟩
    let a : Ident := .builtIn "Set" 9
    let b : Ident := .applied ⟨"Set", [elt]⟩
    let c : Ident := .applied ⟨"Set", [elt, elt]⟩
    let d : Ident := .unitLocal "A" (-1)
    compare a b = .lt ∧ compare b c = .lt ∧ compare a c = .lt ∧ compare d a = .gt ∧
      [d, b, c, a].Perm [a, b, c, d] ∧ ascending [d, b, c, a] = ascending [a, b, c, d] := by
  intro elt a b c d
  have hab : compare a b = .lt := rfl
  have hbc : compare b c = .lt := by decide
  have hperm : [d, b, c, a].Perm [a, b, c, d] := by decide
  obtain ⟨-, htrans, -, hkinds, hsort⟩ := strict_total_order
  have hda : compare d a = .gt :=
    List.pairwise_iff_getElem.mp hkinds 0 4 (by decide) (by decide) (by decide) d a rfl rfl
  exact ⟨hab, hbc, htrans a b c hab hbc, hda, hperm, (hsort _).2.2 _ hperm⟩

end Ident

end MiddleEnd
