import Mathlib.Control.Monad.Writer
import MiddleEnd.Proofs.NameTable.Removal
import MiddleEnd.Proofs.NameTable.Workshops

/-!
# How updates rebalance

`balance` is made for subtrees whose heights differ by at most two, and it trusts the heights that
they store. It does not check this: on other subtrees it would give a table that is not balanced.
For either side it has two arms, besides, for a subtree that should be there and is not. So it is
for the callers to stay within the contract. This module looks at every call.

* `Traced` — computations that keep a record of calls. `Traced.recording` is the workshop that puts
  every call of `balance` that it is shown on record, with arguments, arm and result, and
  `Traced.insert` and `Traced.erase?` are its updates. They compute what the updates compute
  (`Traced.value_insert`, `Traced.value_erase?`), as those of any workshop do.
* `Call.WithinContract` — what a call is given, and what is made of it.
* `Near` — a subtree that an update has replaced is shaped and at most one level away from the old
  one. That is all a caller has to know (`Near.balance_left`, `Near.balance_right`), and it holds
  of what an insertion grows and of what a removal shrinks (`Grown.near`, `Shrunk.near`).

The height of a table follows: a node whose subtrees keep their heights keeps its own
(`Shaped.height_balance_left`), so that a table can get higher or lower only where a name comes or
goes. `rebalanced_within_contract` is the main result.
-/

namespace MiddleEnd.NameTable

variable {V : Type}

/-! ## Calls -/

/-- Whether nothing is rotated for want of a subtree. -/
def Arm.fallsBack : Arm → Bool
  | level | single | double => false
  | heavyMissing | innerMissing => true

/-- No arm for a missing subtree is an outcome of `rotate`. -/
lemma Rotation.fallsBack_eq_false {left right t : NameTable V} {chain : Chain V} {arm : Arm}
    (h : Rotation left chain right arm t) : arm.fallsBack = false := by
  cases h <;> rfl

/-- A call that is given what `balance` is made for, and what `balance` makes of it. -/
structure Call.WithinContract (call : Call V) : Prop where
  /-- The left subtree is balanced and stores its true heights. -/
  left_shaped : call.left.Shaped
  /-- The right subtree is balanced and stores its true heights. -/
  right_shaped : call.right.Shaped
  /-- The left subtree is higher by two levels at most. -/
  left_le : call.left.height ≤ call.right.height + 2
  /-- The right subtree is higher by two levels at most. -/
  right_le : call.right.height ≤ call.left.height + 2
  /-- No subtree is missing. -/
  regular : call.arm.fallsBack = false
  /-- The result is that of `balance`. -/
  result_eq : call.result = balance call.left call.chain call.right
  /-- The chains stay in their order. -/
  chains_eq : call.result.chains = call.left.chains ++ call.chain :: call.right.chains

/-! ## Updates with a record of calls -/

/-- Computations that keep a record of calls. -/
abbrev Traced (V : Type) := Writer (List (Call V))

namespace Traced

variable {α β : Type}

/-- What is computed. -/
def value (x : Traced V α) : α := x.run.1

/-- The calls on the way, in their order. -/
def calls (x : Traced V α) : List (Call V) := x.run.2

lemma calls_bind (x : Traced V α) (f : α → Traced V β) :
    calls (x >>= f) = calls x ++ calls (f (value x)) := rfl

/-- The workshop that notes heights, and records the calls that it is shown. -/
def recording : Workshop (Traced V) V Nat where
  note height := return height
  observe call := tell [call]

/-- Binds an identifier, and records the calls of `balance`. -/
def insert (b : Binding V) (t : NameTable V) : Traced V (NameTable V) :=
  recording.insert b t

/-- Removes an identifier, and records the calls of `balance`. -/
def erase? (i : Ident) (t : NameTable V) : Traced V (Option (Removal V)) :=
  recording.erase? i t

/-! ### What is computed -/

/-- A recorded computation ends with its value. -/
def endings : Endings (Traced V) where
  Ends x a := x.value = a
  eq_of_pure h := h.symm
  of_bind h := ⟨_, rfl, h⟩

lemma ends_value (x : Traced V α) : endings.Ends x x.value := rfl

lemma recording_notesHeights : (recording (V := V)).NotesHeights endings :=
  fun h => h.symm

/-- Recorded insertions are insertions. -/
lemma value_insert (b : Binding V) (t : NameTable V) : value (insert b t) = t.insert b := by
  have h := recording_notesHeights.plain_insert (ends_value (insert b t))
  rwa [plain_self, plain_self] at h

lemma value_eraseMin (left : NameTable V) (chain : Chain V) (right : NameTable V) :
    value (recording.eraseMin left chain right) = left.eraseMin chain right := by
  have h := recording_notesHeights.plain_eraseMin
    (ends_value (recording.eraseMin left chain right))
  rwa [plain_self, plain_self, plain_self] at h

/-- Recorded removals are removals. -/
lemma value_erase? (i : Ident) (t : NameTable V) : value (erase? i t) = t.erase? i := by
  have h := recording_notesHeights.plain_erase? (ends_value (erase? i t))
  rwa [plain_self, Removal.map_plain_self] at h

/-! ### What is recorded -/

/-- All calls on record are within the contract. -/
def KeepsContract (x : Traced V α) : Prop :=
  ∀ call ∈ calls x, call.WithinContract

/-- Without a call there is nothing to keep. -/
lemma keepsContract_pure (a : α) : KeepsContract (pure a : Traced V α) := nofun

/-- The calls of two computations in sequence are those of the first and those of the second. -/
lemma KeepsContract.bind {x : Traced V α} {f : α → Traced V β} (hx : KeepsContract x)
    (hf : KeepsContract (f (value x))) : KeepsContract (x >>= f) := by
  intro call hcall
  rw [calls_bind, List.mem_append] at hcall
  exact hcall.elim (hx call) (hf call)

/-- Making nodes is not a call. -/
lemma calls_of_rotates {left right : NameTable V} {chain : Chain V}
    {x : Traced V (Arm × NameTable V)} (h : recording.Rotates left chain right x) :
    calls x = [] := by
  cases h <;> rfl

/-- A call of `balance` puts itself on record, and nothing else. -/
lemma calls_balance (left : NameTable V) (chain : Chain V) (right : NameTable V) :
    calls (recording.balance left chain right) =
      [⟨left, chain, right, (left.rotate chain right).1, left.balance chain right⟩] := by
  have hvalue := recording_notesHeights.plain_rotate
    (ends_value (recording.rotate left chain right))
  rw [plain_self, plain_self, plain_self] at hvalue
  rw [Workshop.balance, calls_bind, calls_of_rotates (recording.rotates left chain right),
    balance_eq, hvalue]
  rfl

/-- A call on subtrees that `balance` is made for is within the contract. -/
lemma keepsContract_balance {left right : NameTable V} (hl : left.Shaped) (hr : right.Shaped)
    (hle : left.height ≤ right.height + 2) (hge : right.height ≤ left.height + 2)
    (chain : Chain V) : KeepsContract (recording.balance left chain right) := by
  intro call hcall
  rw [calls_balance] at hcall
  obtain rfl := List.mem_singleton.mp hcall
  exact ⟨hl, hr, hle, hge, (rotation_rotate left chain right).fallsBack_eq_false, rfl,
    chains_balance left chain right⟩

end Traced

/-! ## Subtrees that have been replaced -/

/-- The second table is shaped, and at most one level higher or lower than the first. -/
structure Near (t t' : NameTable V) : Prop where
  /-- The shape after the update. -/
  shaped : t'.Shaped
  /-- At most one level is lost. -/
  le_height_succ : t.height ≤ t'.height + 1
  /-- At most one level is won. -/
  height_le_succ : t'.height ≤ t.height + 1

/-- What has grown is near. -/
lemma Grown.near {t t' : NameTable V} (h : Grown t t') : Near t t' :=
  ⟨h.shaped, h.height_le.trans (Nat.le_succ _), h.height_le_succ⟩

/-- What has shrunk is near. -/
lemma Shrunk.near {t t' : NameTable V} (h : Shrunk t t') : Near t t' :=
  ⟨h.shaped, h.height_le_succ, h.height_le.trans (Nat.le_succ _)⟩

section replace

variable {left right new : NameTable V} {chain : Chain V} {height : Nat}

open Traced (KeepsContract)

/-- A node may be rebalanced over a new left subtree that is near the old one. -/
lemma Near.balance_left (hn : Near left new) (h : (node left chain right height).Shaped) :
    KeepsContract (Traced.recording.balance new chain right) := by
  obtain ⟨-, hr, hle, hge, -⟩ := shaped_node_iff.mp h
  obtain ⟨hs, hlo, hhi⟩ := hn
  exact Traced.keepsContract_balance hs hr (by omega) (by omega) chain

/-- A node may be rebalanced over a new right subtree that is near the old one, whichever chain
comes to stand above. -/
lemma Near.balance_right (hn : Near right new) (h : (node left chain right height).Shaped)
    (above : Chain V) : KeepsContract (Traced.recording.balance left above new) := by
  obtain ⟨hl, -, hle, hge, -⟩ := shaped_node_iff.mp h
  obtain ⟨hs, hlo, hhi⟩ := hn
  exact Traced.keepsContract_balance hl hs (by omega) (by omega) above

/-- A node keeps its height over a new left subtree of the old height. -/
lemma Shaped.height_balance_left (h : (node left chain right height).Shaped) (hs : new.Shaped)
    (heq : new.height = left.height) : (balance new chain right).height = height := by
  obtain ⟨-, hr, hle, hge, hmax⟩ := shaped_node_iff.mp h
  have hrot := rotation_rotate new chain right
  obtain ⟨-, -, hlevel⟩ := hrot.height_bounds hs hr (by omega) (by omega)
  rw [balance_eq, hlevel (by omega) (by omega), heq, hmax]

/-- A node keeps its height over a new right subtree of the old height. -/
lemma Shaped.height_balance_right (h : (node left chain right height).Shaped) (hs : new.Shaped)
    (heq : new.height = right.height) : (balance left chain new).height = height := by
  obtain ⟨hl, -, hle, hge, hmax⟩ := shaped_node_iff.mp h
  have hrot := rotation_rotate left chain new
  obtain ⟨-, -, hlevel⟩ := hrot.height_bounds hl hs (by omega) (by omega)
  rw [balance_eq, hlevel (by omega) (by omega), heq, hmax]

end replace

/-! ## The calls of an update -/

namespace Traced

/-- **Inserting calls `balance` within its contract.** -/
lemma keepsContract_insert (b : Binding V) {t : NameTable V} (ht : t.Shaped) :
    KeepsContract (insert b t) := by
  induction t with
  | empty => exact (keepsContract_pure _).bind (keepsContract_pure _)
  | node left chain right height ihl ihr =>
      obtain ⟨hl, hr, -⟩ := shaped_node_iff.mp ht
      rw [insert, Workshop.insert]
      split
      · exact (keepsContract_pure _).bind (keepsContract_pure _)
      · refine (ihl hl).bind ?_
        rw [value_insert]
        exact (grown_insert b hl).near.balance_left ht
      · refine (ihr hr).bind ?_
        rw [value_insert]
        exact (grown_insert b hr).near.balance_right ht chain

/-- Taking out the smallest name calls `balance` within its contract. -/
lemma keepsContract_eraseMin {left right : NameTable V} {chain : Chain V} {height : Nat}
    (h : (node left chain right height).Shaped) :
    KeepsContract (recording.eraseMin left chain right) := by
  induction left generalizing chain right height with
  | empty => exact keepsContract_pure _
  | node below smaller above k ih _ =>
      obtain ⟨hl, -⟩ := shaped_node_iff.mp h
      rw [Workshop.eraseMin]
      refine (ih hl).bind ?_
      rw [value_eraseMin]
      exact (shrunk_eraseMin hl).near.balance_left h

/-- Taking out a node calls `balance` within its contract, also where the gap is filled. -/
lemma keepsContract_glue {left right : NameTable V} {chain : Chain V} {height : Nat}
    (h : (node left chain right height).Shaped) :
    KeepsContract (recording.glue left right) := by
  cases left with
  | empty => cases right <;> exact keepsContract_pure _
  | node outer heavy inner k =>
      cases right with
      | empty => exact keepsContract_pure _
      | node below smaller above m =>
          obtain ⟨-, hr, -⟩ := shaped_node_iff.mp h
          -- Two places where a level can be lost: on the way to the smallest name, and here.
          refine (keepsContract_eraseMin hr).bind ?_
          rw [value_eraseMin]
          exact (shrunk_eraseMin hr).near.balance_right h _

/-- Removing an identifier from the chain of a node calls `balance` within its contract. -/
lemma keepsContract_eraseHere {left right : NameTable V} {chain : Chain V} {height : Nat}
    (h : (node left chain right height).Shaped) (i : Ident) :
    KeepsContract (recording.eraseHere i left chain right height) := by
  unfold Workshop.eraseHere
  split
  · exact (keepsContract_pure _).bind (keepsContract_pure _)
  · exact (keepsContract_glue h).bind (keepsContract_pure _)
  · exact (keepsContract_glue h).bind (keepsContract_pure _)

/-- **Removing calls `balance` within its contract.** -/
lemma keepsContract_erase? (i : Ident) {t : NameTable V} (ht : t.Shaped) :
    KeepsContract (erase? i t) := by
  induction t with
  | empty => exact keepsContract_pure _
  | node left chain right height ihl ihr =>
      obtain ⟨hl, hr, -⟩ := shaped_node_iff.mp ht
      rw [erase?, Workshop.erase?]
      split
      · exact (keepsContract_eraseHere ht i).bind (keepsContract_pure _)
      · -- Where nothing is removed below, the search ends without a call.
        refine (ihl hl).bind ?_
        rw [value_erase?]
        cases hbelow : left.erase? i with
        | none => exact keepsContract_pure _
        | some r =>
            have hnear := (shrunk_of_erase?_eq_some hl hbelow).near
            exact (hnear.balance_left ht).bind (keepsContract_pure _)
      · refine (ihr hr).bind ?_
        rw [value_erase?]
        cases habove : right.erase? i with
        | none => exact keepsContract_pure _
        | some r =>
            have hnear := (shrunk_of_erase?_eq_some hr habove).near
            exact (hnear.balance_right ht chain).bind (keepsContract_pure _)

end Traced

/-! ## Heights that stay -/

/-- A table keeps its height under one more binding of a name that is bound. -/
lemma height_insert_of_chain?_eq_some {t : NameTable V} (ht : t.Shaped) {b : Binding V}
    {c : Chain V} (hc : t.chain? b.name = some c) : (t.insert b).height = t.height := by
  induction t with
  | empty => exact absurd hc nofun
  | node left chain right height ihl ihr =>
      obtain ⟨hl, hr, -⟩ := shaped_node_iff.mp ht
      rw [chain?] at hc
      rw [insert_node]
      cases hcmp : compare b.name chain.name with
      | eq => rfl
      | lt =>
          rw [hcmp] at hc
          exact ht.height_balance_left (grown_insert b hl).shaped (ihl hl hc)
      | gt =>
          rw [hcmp] at hc
          exact ht.height_balance_right (grown_insert b hr).shaped (ihr hr hc)

/-- A node stays in its place, with its height, where something is left of its chain. -/
lemma height_eraseHere_of_without_eq_some {i : Ident} {chain rest : Chain V}
    (h : chain.without i = some rest) (left right : NameTable V) (height : Nat) :
    (eraseHere i left chain right height).table.height = height := by
  have hunlink : chain.unlink i = some (some rest) := Option.join_eq_some_iff.mp h
  rw [eraseHere_eq, hunlink]
  rfl

/-- A table keeps its height where something is left of the name. -/
lemma height_of_erase?_eq_some {t : NameTable V} (ht : t.Shaped) {i : Ident} {r : Removal V}
    (hr : t.erase? i = some r) {c : Chain V}
    (hc : (t.chain? i.name).bind (·.without i) = some c) : r.table.height = t.height := by
  induction t generalizing r with
  | empty => exact absurd hr nofun
  | node left chain right height ihl ihr =>
      obtain ⟨hsl, hsr, -⟩ := shaped_node_iff.mp ht
      rw [erase?_node] at hr
      rw [chain?] at hc
      cases hcmp : compare i.name chain.name with
      | eq =>
          rw [hcmp] at hr hc
          cases hr
          exact height_eraseHere_of_without_eq_some hc left right height
      | lt =>
          rw [hcmp] at hr hc
          obtain ⟨below, hbelow, rfl⟩ := Option.map_eq_some_iff.mp hr
          exact ht.height_balance_left (shrunk_of_erase?_eq_some hsl hbelow).shaped
            (ihl hsl hbelow hc)
      | gt =>
          rw [hcmp] at hr hc
          obtain ⟨above, habove, rfl⟩ := Option.map_eq_some_iff.mp hr
          exact ht.height_balance_right (shrunk_of_erase?_eq_some hsr habove).shaped
            (ihr hsr habove hc)

/-- A name that has bindings has a chain. -/
lemma exists_chain?_of_bindingsOf_ne_nil {t : NameTable V} {name : String}
    (h : t.bindingsOf name ≠ []) : ∃ c, t.chain? name = some c := by
  apply Option.ne_none_iff_exists'.mp
  intro hnone
  rw [bindingsOf_eq_entries, hnone, Chain.entries_none] at h
  exact h rfl

section height

variable {t : NameTable V} (h : t.Invariant)

include h

/-- **A table gets higher only with a new name.** -/
lemma height_insert_of_bindingsOf_ne_nil {b : Binding V} (hb : t.bindingsOf b.name ≠ []) :
    (t.insert b).height = t.height := by
  obtain ⟨c, hc⟩ := exists_chain?_of_bindingsOf_ne_nil hb
  exact height_insert_of_chain?_eq_some h.shaped hc

/-- **A table gets lower only where a name goes.** -/
lemma height_erase_of_bindingsOf_ne_nil {i : Ident}
    (hb : (t.erase i).bindingsOf i.name ≠ []) : (t.erase i).height = t.height := by
  obtain ⟨c, hc⟩ := exists_chain?_of_bindingsOf_ne_nil hb
  have hname := fun c hc => (h.left_behind i c hc).2
  rw [(replaces_erase h.ordered i).chain? h.ordered hname, if_pos rfl] at hc
  unfold erase
  split
  · next r hr => exact height_of_erase?_eq_some h.shaped hr hc
  · rfl

end height

/-! ## The main result -/

/-- **Updates rebalance within the contract of `balance`**, and change the height by one level at
most.

Take a table with any history. An insertion and a removal are what their recorded versions compute,
and every call of `balance` on record is given balanced subtrees that store their true heights and
differ by two levels at most; it takes none of the arms for a missing subtree, and keeps the chains
in their order. An insertion leaves the height as it is or adds one level, and adds none if the name
was bound. A removal leaves the height as it is or takes one level away, and takes none if the name
was not bound, or still is. -/
theorem rebalanced_within_contract (us : List (Update V)) :
    let t := (empty : NameTable V).run us
    (∀ b : Binding V,
      (Traced.insert b t).value = t.insert b ∧
      (∀ call ∈ (Traced.insert b t).calls, call.WithinContract) ∧
      ((t.insert b).height = t.height ∨ (t.insert b).height = t.height + 1) ∧
      (t.bindingsOf b.name ≠ [] → (t.insert b).height = t.height)) ∧
    ∀ i : Ident,
      (Traced.erase? i t).value = t.erase? i ∧
      (∀ call ∈ (Traced.erase? i t).calls, call.WithinContract) ∧
      ((t.erase i).height = t.height ∨ (t.erase i).height + 1 = t.height) ∧
      (t.bindingsOf i.name = [] ∨ (t.erase i).bindingsOf i.name ≠ [] →
        (t.erase i).height = t.height) := by
  intro t
  have h : t.Invariant := invariant_empty.run us
  refine ⟨fun b => ?_, fun i => ?_⟩
  · obtain ⟨-, hlo, hhi⟩ := grown_insert b h.shaped
    exact ⟨Traced.value_insert b t, Traced.keepsContract_insert b h.shaped, by omega,
      height_insert_of_bindingsOf_ne_nil h⟩
  · obtain ⟨-, hhi, hlo⟩ := shrunk_erase i h.shaped
    refine ⟨Traced.value_erase? i t, Traced.keepsContract_erase? i h.shaped, by omega, ?_⟩
    rintro (hnil | hb)
    · rw [(erase_eq_self_iff h i).mpr hnil]
    · exact height_erase_of_bindingsOf_ne_nil h hb

/-- Seven names in four levels, `a` bound twice. To insert `cc` rotates twice at `d`, and the height
stays. To remove `e`, at the root, takes the smallest name `f` out of the right subtree and puts it
in the place of `e`, between subtrees that differ by two levels: another double rotation, and one
level less. Below the root, `b` is removed by three calls: at `d`, which loses its smallest name
`c`; at `c`, in the place of `b`; and at `e`, on the way back. The removal of `g` rotates twice on
its way back. One more binding of `a`, or one less, or the removal of a name that is not bound,
leaves the height. -/
theorem rebalanced_within_contract_twice_rotated :
    let made (name : String) (stamp : Int64) : Binding Nat := ⟨.unitLocal name stamp, 0⟩
    let us : List (Update Nat) :=
      [.insert (made "e" 1), .insert (made "b" 2), .insert (made "g" 3), .insert (made "a" 4),
        .insert (made "d" 5), .insert (made "f" 6), .insert (made "c" 7), .insert (made "a" 8)]
    let t := (empty : NameTable Nat).run us
    let inserting := Traced.insert (made "cc" 9) t
    let removing := Traced.erase? (.unitLocal "e" 1) t
    let below := Traced.erase? (.unitLocal "b" 2) t
    let beside := Traced.erase? (.unitLocal "g" 3) t
    (inserting.calls.map Call.arm = [.level, .double, .level, .level] ∧
      removing.calls.map Call.arm = [.level, .double] ∧
      below.calls.map (fun call => (call.chain.name, call.arm)) =
        [("d", .level), ("c", .level), ("e", .level)] ∧
      beside.calls.map (fun call => (call.chain.name, call.arm)) = [("e", .double)]) ∧
    (∃ call ∈ inserting.calls, call.arm = .double ∧ call.WithinContract) ∧
    (∃ call ∈ removing.calls, call.left.height = call.right.height + 2 ∧ call.WithinContract) ∧
    (∀ call ∈ below.calls ++ beside.calls, call.WithinContract) ∧
    (t.insert (made "a" 9)).height = t.height ∧
    (t.erase (.unitLocal "a" 4)).height = t.height ∧
    (t.erase (.unitLocal "x" 1)).height = t.height ∧
    (t.erase (.unitLocal "e" 1)).height + 1 = t.height ∧
    (t.erase (.unitLocal "b" 2)).height + 1 = t.height := by
  intro made us t inserting removing below beside
  obtain ⟨hinsert, herase⟩ := rebalanced_within_contract us
  obtain ⟨-, hcalls, -⟩ := hinsert (made "cc" 9)
  obtain ⟨-, hcalls', -⟩ := herase (.unitLocal "e" 1)
  obtain ⟨-, hbelow, -⟩ := herase (.unitLocal "b" 2)
  obtain ⟨-, hbeside, -⟩ := herase (.unitLocal "g" 3)
  have hdouble : ∃ call ∈ inserting.calls, call.arm = .double := by decide
  have hapart : ∃ call ∈ removing.calls, call.left.height = call.right.height + 2 := by decide
  obtain ⟨call, hcall, harm⟩ := hdouble
  obtain ⟨call', hcall', hheight⟩ := hapart
  refine ⟨⟨by decide, by decide, by decide, by decide⟩, ⟨call, hcall, harm, hcalls call hcall⟩,
    ⟨call', hcall', hheight, hcalls' call' hcall'⟩, ?_, ?_, ?_, ?_, by decide, by decide⟩
  · intro call hcall
    exact (List.mem_append.mp hcall).elim (hbelow call) (hbeside call)
  · exact (hinsert (made "a" 9)).2.2.2 (by decide)
  · exact (herase (.unitLocal "a" 4)).2.2.2 (.inr (by decide))
  · exact (herase (.unitLocal "x" 1)).2.2.2 (.inl (by decide))

end MiddleEnd.NameTable
