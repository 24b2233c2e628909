import Mathlib.Algebra.Order.Group.Multiset
import Mathlib.Order.Interval.Finset.Nat
import Mathlib.Order.Interval.Multiset
import Mathlib.Tactic.Abel
import MiddleEnd.Archive
import MiddleEnd.Proofs.NameTable.Invariant
import MiddleEnd.Proofs.NameTable.Workshops

/-!
# What editions share

An update draws a number for every node that it makes, and takes over the rest of the old table
with the numbers that are there. So a node of the new table can be told from all nodes there were
before, unless it is one of them.

* `Draws old n p` — numbers are drawn from `n` on, and every number of the table in `p` is one that
  was drawn, or one of `old`. Every function that makes nodes has its lemma. The number at the root
  of the old table is not needed in any of them: updates make the root anew, or drop it.
* `WellNumbered` — no two nodes have the same number, and all numbers are used up. Updates keep this
  (`WellNumbered.insert`, `WellNumbered.erase`), so that every table has a well-numbered edition
  (`WellNumbered.exists_run`).
* `table_insert` and `table_erase` — the updates of editions are those of tables.
* `WellNumbered.sharesRoot_erase_iff` — the very same table comes back exactly when there was
  nothing to remove.
-/

namespace MiddleEnd

open Workshop (numbering)

variable {V : Type}

namespace NameTable

/-! ## Numbers -/

/-- The numbers of all nodes. -/
def numbers : NameTable V Mark → Multiset ℕ
  | empty => 0
  | node left _ right mark => mark.number ::ₘ (left.numbers + right.numbers)

/-- The numbers of all nodes below the root. -/
def numbersBelow : NameTable V Mark → Multiset ℕ
  | empty => 0
  | node left _ right _ => left.numbers + right.numbers

lemma numbersBelow_le_numbers (t : NameTable V Mark) : t.numbersBelow ≤ t.numbers := by
  cases t with
  | empty => exact le_refl _
  | node left chain right mark => exact Multiset.le_cons_self _ _

/-- The number at the root is that of a node. -/
lemma number_mem_numbers {t : NameTable V Mark} {mark : Mark} (h : t.root? = some mark) :
    mark.number ∈ t.numbers := by
  cases t with
  | empty => exact absurd h nofun
  | node left chain right mark' =>
      obtain rfl := Option.some.inj h
      exact Multiset.mem_cons_self _ _

/-- No two nodes have the same number, and their numbers are among the first ones. -/
structure WellNumbered (t : NameTable V Mark) (nodes : ℕ) : Prop where
  /-- The numbers differ. -/
  nodup : t.numbers.Nodup
  /-- The numbers are used up. -/
  lt : ∀ k ∈ t.numbers, k < nodes

/-- From a number `n` of nodes one has come to a table and a number of nodes: what is in the table
was drawn in between, or is one of the `old` nodes. -/
structure Draws (old : Multiset ℕ) (n : ℕ) (p : NameTable V Mark × ℕ) : Prop where
  /-- Numbers are not given back. -/
  le : n ≤ p.2
  /-- Where the numbers of the table come from. -/
  among : p.1.numbers ≤ old + Multiset.Ico n p.2

namespace Draws

variable {old old' rest : Multiset ℕ} {n : ℕ} {p q : NameTable V Mark × ℕ}

/-- An old table comes back. -/
lemma of_le {t : NameTable V Mark} (h : t.numbers ≤ old) : Draws old n (t, n) :=
  ⟨Nat.le_refl n, h.trans (Multiset.le_add_right _ _)⟩

/-- A node is made, and gets the next number. -/
lemma node (left : NameTable V Mark) (chain : Chain V) (right : NameTable V Mark)
    (height n : ℕ) :
    Draws (left.numbers + right.numbers) n (.node left chain right ⟨height, n⟩, n + 1) := by
  refine ⟨Nat.le_succ n, le_of_eq ?_⟩
  rw [numbers, Multiset.Ico, Nat.Ico_succ_singleton, Finset.singleton_val,
    add_comm (left.numbers + right.numbers), Multiset.singleton_add]

/-- There may be more to start from. -/
lemma mono (h : Draws old n p) (hle : old ≤ old') : Draws old' n p :=
  ⟨h.le, h.among.trans (add_le_add_left hle _)⟩

/-- A table is made, and then another one with this to the left. -/
lemma then_left (h : Draws old n p) (h' : Draws (p.1.numbers + rest) p.2 q) :
    Draws (old + rest) n q := by
  refine ⟨h.le.trans h'.le, ?_⟩
  calc q.1.numbers
    _ ≤ p.1.numbers + rest + Multiset.Ico p.2 q.2 := h'.among
    _ ≤ old + Multiset.Ico n p.2 + rest + Multiset.Ico p.2 q.2 := by gcongr; exact h.among
    _ = old + rest + (Multiset.Ico n p.2 + Multiset.Ico p.2 q.2) := by abel
    _ = old + rest + Multiset.Ico n q.2 := by rw [Multiset.Ico_add_Ico_eq_Ico h.le h'.le]

/-- A table is made, and then another one with this to the right. -/
lemma then_right (h : Draws old n p) (h' : Draws (rest + p.1.numbers) p.2 q) :
    Draws (rest + old) n q := by
  rw [add_comm] at h' ⊢
  exact h.then_left h'

/-- A number of the table was there, or has been drawn. -/
lemma mem_or_le (h : Draws old n p) {k : ℕ} (hk : k ∈ p.1.numbers) : k ∈ old ∨ n ≤ k ∧ k < p.2 :=
  (Multiset.mem_add.mp (Multiset.mem_of_le h.among hk)).imp_right Multiset.mem_Ico.mp

/-- What is made from a well-numbered table is well-numbered. -/
lemma wellNumbered {t : NameTable V Mark} (h : Draws t.numbers n p) (ht : t.WellNumbered n) :
    p.1.WellNumbered p.2 := by
  refine ⟨Multiset.nodup_of_le h.among ?_, fun k hk => ?_⟩
  · refine (ht.nodup.add_iff Multiset.nodup_Ico).mpr (Multiset.disjoint_left.mpr ?_)
    intro k hold hdrawn
    exact absurd (Multiset.mem_Ico.mp hdrawn).1 (Nat.not_le_of_lt (ht.lt k hold))
  · rcases h.mem_or_le hk with hold | hdrawn
    · exact (ht.lt k hold).trans_le h.le
    · exact hdrawn.2

/-- The root of a well-numbered table is no part of what is made without it. -/
lemma root_notMem {t : NameTable V Mark} (h : Draws t.numbersBelow n p) (ht : t.WellNumbered n)
    {mark : Mark} (hroot : t.root? = some mark) : mark.number ∉ p.1.numbers := by
  cases t with
  | empty => exact absurd hroot nofun
  | node left chain right mark' =>
      obtain rfl := Option.some.inj hroot
      intro hmem
      rcases h.mem_or_le hmem with hbelow | hdrawn
      · exact (Multiset.nodup_cons.mp ht.nodup).1 hbelow
      · exact absurd hdrawn.1 (Nat.not_le_of_lt (ht.lt _ (Multiset.mem_cons_self _ _)))

end Draws

/-! ## The numbers that updates draw -/

/-- A node draws one number. -/
lemma draws_branch (left : NameTable V Mark) (chain : Chain V) (right : NameTable V Mark)
    (n : ℕ) : Draws (left.numbers + right.numbers) n ((numbering.branch left chain right).run n) :=
  .node left chain right _ n

/-- Rotations take the subtrees apart, and draw numbers for the nodes that they put together. -/
lemma draws_of_rotates {left right : NameTable V Mark} {chain : Chain V}
    {x : StateM ℕ (Arm × NameTable V Mark)} (h : numbering.Rotates left chain right x) (n : ℕ) :
    Draws (left.numbers + right.numbers) n ((x.run n).1.2, (x.run n).2) := by
  cases h with
  | level hle hge => exact draws_branch left chain right n
  | @fromLeft outer inner right heavy chain mark hh hio =>
      have hleft := numbersBelow_le_numbers (.node outer heavy inner mark)
      have hlow := draws_branch inner chain right n
      refine (hlow.then_right (draws_branch outer heavy _ _)).mono ?_
      rw [← add_assoc]
      exact add_le_add_left hleft _
  | @fromLeftInner outer below above right heavy middle chain mark mark' hh hio =>
      have hinner := numbersBelow_le_numbers (.node below middle above mark')
      have hleft :=
        numbersBelow_le_numbers (.node outer heavy (.node below middle above mark') mark)
      have hlow := draws_branch outer heavy below n
      have hhigh := draws_branch above chain right (n + 1)
      refine (hlow.then_left (hhigh.then_right (draws_branch _ middle _ _))).mono ?_
      calc outer.numbers + below.numbers + (above.numbers + right.numbers)
        _ = outer.numbers + (below.numbers + above.numbers) + right.numbers := by abel
        _ ≤ _ := add_le_add_left ((add_le_add_right hinner _).trans hleft) _
  | @fromRight left inner outer heavy chain mark hh hio =>
      have hright := numbersBelow_le_numbers (.node inner heavy outer mark)
      have hlow := draws_branch left chain inner n
      refine (hlow.then_left (draws_branch _ heavy outer _)).mono ?_
      rw [add_assoc]
      exact add_le_add_right hright _
  | @fromRightInner left below above outer heavy middle chain mark mark' hh hio =>
      have hinner := numbersBelow_le_numbers (.node below middle above mark')
      have hright :=
        numbersBelow_le_numbers (.node (.node below middle above mark') heavy outer mark)
      have hlow := draws_branch left chain below n
      have hhigh := draws_branch above heavy outer (n + 1)
      refine (hlow.then_left (hhigh.then_right (draws_branch _ middle _ _))).mono ?_
      calc left.numbers + below.numbers + (above.numbers + outer.numbers)
        _ = left.numbers + (below.numbers + above.numbers + outer.numbers) := by abel
        _ ≤ _ := add_le_add_right ((add_le_add_left hinner _).trans hright) _

lemma draws_balance (left : NameTable V Mark) (chain : Chain V) (right : NameTable V Mark)
    (n : ℕ) : Draws (left.numbers + right.numbers) n ((numbering.balance left chain right).run n) :=
  draws_of_rotates (numbering.rotates left chain right) n

/-- An insertion makes the nodes on the search path anew, the root among them. -/
lemma draws_insert (b : Binding V) (t : NameTable V Mark) (n : ℕ) :
    Draws t.numbersBelow n ((numbering.insert b t).run n) := by
  induction t generalizing n with
  | empty => exact draws_branch empty (.single b) empty n
  | node left chain right mark ihl ihr =>
      rw [Workshop.insert]
      split
      · exact .node left (chain.push b) right _ n
      · have hnew := (ihl n).mono left.numbersBelow_le_numbers
        exact hnew.then_left (draws_balance _ chain right _)
      · have hnew := (ihr n).mono right.numbersBelow_le_numbers
        exact hnew.then_right (draws_balance left chain _ _)

/-- Taking out the smallest name keeps what is to its right. -/
lemma draws_eraseMin (left : NameTable V Mark) (chain : Chain V) (right : NameTable V Mark)
    (n : ℕ) :
    Draws (left.numbers + right.numbers) n ((numbering.eraseMin left chain right).run n) := by
  induction left generalizing chain right n with
  | empty => exact .of_le (Multiset.le_add_left _ _)
  | node below smaller above mark ih _ =>
      have hrest := (ih smaller above n).mono (Multiset.le_cons_self _ mark.number)
      exact hrest.then_left (draws_balance _ chain right _)

/-- Two subtrees are glued without the node that was above them. -/
lemma draws_glue (left right : NameTable V Mark) (n : ℕ) :
    Draws (left.numbers + right.numbers) n ((numbering.glue left right).run n) := by
  cases left with
  | empty => cases right <;> exact .of_le (Multiset.le_add_left _ _)
  | node outer heavy inner mark =>
      cases right with
      | empty => exact .of_le (Multiset.le_add_right _ _)
      | node below chain above mark' =>
          have hrest :=
            (draws_eraseMin below chain above n).mono (Multiset.le_cons_self _ mark'.number)
          exact hrest.then_right (draws_balance (.node outer heavy inner mark) _ _ _)

/-- Removing an identifier from the chain of a node makes this node anew, or drops it. -/
lemma draws_eraseHere (i : Ident) (left : NameTable V Mark) (chain : Chain V)
    (right : NameTable V Mark) (mark : Mark) (n : ℕ) :
    let p := (numbering.eraseHere i left chain right mark).run n
    Draws (left.numbers + right.numbers) n (p.1.table, p.2) := by
  unfold Workshop.eraseHere
  split
  · exact .node left _ right _ n
  · exact draws_glue left right n
  · exact draws_glue left right n

/-- A removal that finds the name draws numbers; one that does not, draws none. -/
lemma draws_erase? (i : Ident) (t : NameTable V Mark) (n : ℕ) :
    match (numbering.erase? i t).run n with
    | (some r, n') => Draws t.numbersBelow n (r.table, n')
    | (none, n') => n' = n := by
  induction t generalizing n with
  | empty => rfl
  | node left chain right mark ihl ihr =>
      rw [Workshop.erase?]
      cases compare i.name chain.name with
      | eq => exact draws_eraseHere i left chain right mark n
      | lt =>
          have hbelow := ihl n
          rw [StateT.run_bind]
          rcases hrun : (numbering.erase? i left).run n with ⟨_ | r, n'⟩
          all_goals rw [hrun] at hbelow
          · exact hbelow
          · have hnew := hbelow.mono left.numbersBelow_le_numbers
            exact hnew.then_left (draws_balance r.table chain right n')
      | gt =>
          have habove := ihr n
          rw [StateT.run_bind]
          rcases hrun : (numbering.erase? i right).run n with ⟨_ | r, n'⟩
          all_goals rw [hrun] at habove
          · exact habove
          · have hnew := habove.mono right.numbersBelow_le_numbers
            exact hnew.then_right (draws_balance left chain r.table n')

end NameTable

/-! ## Editions -/

lemma numbering_notesHeights : (numbering (V := V)).NotesHeights (.state ℕ) := by
  rintro height _ ⟨n, rfl⟩
  rfl

namespace Edition

/-- The nodes of an edition are told apart by their numbers, and these are used up. -/
def WellNumbered (e : Edition V) (nodes : ℕ) : Prop :=
  e.tree.WellNumbered nodes

/-- Nothing needs no numbers. -/
lemma wellNumbered_empty : ({} : Edition V).WellNumbered 0 :=
  ⟨Multiset.nodup_zero, nofun⟩

/-- Editions bind identifiers as their tables do. -/
@[simp] lemma table_insert (e : Edition V) (b : Binding V) (n : ℕ) :
    ((e.insert b).run n).1.table = e.table.insert b :=
  numbering_notesHeights.plain_insert ⟨n, rfl⟩

/-- What a removal comes to: to the same edition, or to a table that is made without its root. -/
lemma run_erase (e : Edition V) (i : Ident) (n : ℕ) :
    (e.table.erase? i = none ∧ (e.erase i).run n = ((e, []), n)) ∨
      ∃ (r : NameTable.Removal V Mark) (n' : ℕ), e.table.erase? i = some r.plain ∧
        (e.erase i).run n = ((⟨r.table⟩, r.log), n') ∧
        NameTable.Draws e.tree.numbersBelow n (r.table, n') := by
  have hplain := numbering_notesHeights.plain_erase? (i := i) (t := e.tree) ⟨n, rfl⟩
  have hdraws := NameTable.draws_erase? i e.tree n
  rw [Edition.erase, StateT.run_bind]
  rcases hrun : (numbering.erase? i e.tree).run n with ⟨_ | r, n'⟩
  all_goals rw [hrun] at hplain hdraws
  · obtain rfl := hdraws
    exact .inl ⟨hplain.symm, rfl⟩
  · exact .inr ⟨r, n', hplain.symm, rfl, hdraws⟩

/-- Editions remove identifiers as their tables do, with the same reports. -/
lemma table_erase (e : Edition V) (i : Ident) (n : ℕ) :
    ((e.erase i).run n).1.1.table = e.table.erase i ∧
      ((e.erase i).run n).1.2 = e.table.eraseLog i := by
  unfold NameTable.erase NameTable.eraseLog
  obtain ⟨hnone, hrun⟩ | ⟨r, n', hsome, hrun, -⟩ := e.run_erase i n
  · rw [hrun, hnone]
    exact ⟨rfl, rfl⟩
  · rw [hrun, hsome]
    exact ⟨rfl, rfl⟩

section update

variable {e : Edition V} {n : ℕ} (h : e.WellNumbered n)

include h

/-- Binding an identifier keeps the nodes apart. -/
lemma WellNumbered.insert (b : Binding V) :
    ((e.insert b).run n).1.WellNumbered ((e.insert b).run n).2 := by
  have hdraws := NameTable.draws_insert b e.tree n
  exact (hdraws.mono e.tree.numbersBelow_le_numbers).wellNumbered h

/-- Removing an identifier keeps the nodes apart. -/
lemma WellNumbered.erase (i : Ident) :
    ((e.erase i).run n).1.1.WellNumbered ((e.erase i).run n).2 := by
  obtain ⟨-, hrun⟩ | ⟨r, n', -, hrun, hdraws⟩ := e.run_erase i n
  · rw [hrun]
    exact h
  · rw [hrun]
    exact (hdraws.mono e.tree.numbersBelow_le_numbers).wellNumbered h

/-- **The very same table comes back exactly when there was nothing to remove.** -/
theorem WellNumbered.sharesRoot_erase_iff (i : Ident) :
    ((e.erase i).run n).1.1.sharesRoot e = true ↔ e.table.erase? i = none := by
  obtain ⟨hnone, hrun⟩ | ⟨r, n', hsome, hrun, hdraws⟩ := e.run_erase i n
  · rw [hrun, hnone, sharesRoot_self]
    exact iff_of_true rfl rfl
  · rw [hrun, hsome]
    refine iff_of_false (fun hshares => ?_) nofun
    have hroots : r.table.root?.map Mark.number = e.tree.root?.map Mark.number :=
      of_decide_eq_true hshares
    cases hroot : e.tree.root? with
    | none =>
        -- Nothing is removed from an empty table.
        rw [table, NameTable.root?_eq_none_iff.mp hroot] at hsome
        exact absurd hsome nofun
    | some mark =>
        rw [hroot, Option.map_some] at hroots
        obtain ⟨new, hnew, hnumber⟩ := Option.map_eq_some_iff.mp hroots
        apply hdraws.root_notMem h hroot
        rw [← hnumber]
        exact NameTable.number_mem_numbers hnew

end update

/-- With `b` at the root and `c` to its right, removing `b` leaves the node of `c`, as it is: two
removals come to the very same table, which is not the old one. -/
example :
    let b : Ident := .unitLocal "b" 1
    let (e, a) := ({} : Archive ℕ).ofList [⟨b, 0⟩, ⟨.unitLocal "c" 2, 0⟩]
    let (once, _, a) := a.erase e b
    let (again, _, _) := a.erase e b
    once.sharesRoot again = true ∧ once.sharesRoot e = false := by
  decide

/-- Any updates of the table can be made to the edition. -/
lemma WellNumbered.exists_run {e : Edition V} {n : ℕ} (h : e.WellNumbered n)
    (us : List (NameTable.Update V)) :
    ∃ (e' : Edition V) (n' : ℕ), e'.WellNumbered n' ∧ e'.table = e.table.run us := by
  induction us generalizing e n with
  | nil => exact ⟨e, n, h, rfl⟩
  | cons u us ih =>
      rw [NameTable.run_cons]
      cases u with
      | insert b =>
          obtain ⟨e', n', h', htable⟩ := ih (h.insert b)
          exact ⟨e', n', h', by rw [htable, table_insert]; rfl⟩
      | erase i =>
          obtain ⟨e', n', h', htable⟩ := ih (h.erase i)
          exact ⟨e', n', h', by rw [htable, (e.table_erase i n).1]; rfl⟩

end Edition

end MiddleEnd
