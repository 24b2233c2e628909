import Mathlib.Tactic.Lemma
import MiddleEnd.NameTable.Basic

/-!
# All workshops make the same tables

Updates are written once, for all workshops. What a workshop notes besides heights, and what it does
with the calls that it is shown, has no part in the tables that it makes: with nothing but heights
noted they are those of `NameTable.insert` and `NameTable.erase?`.

* `Endings` — what computations of a kind can end with. Nothing else is known of them here.
* `Workshop.NotesHeights` — a workshop notes the height that it is told.
* `NotesHeights.plain_insert` and `NotesHeights.plain_erase?` — the main results. There is one lemma
  for every function on the way, and the proofs follow the functions.
-/

namespace MiddleEnd

open NameTable

variable {M : Type → Type} [Monad M] {V ν : Type} [HasHeight ν]

/-- What computations can end with, whatever else they do. -/
structure Endings (M : Type → Type) [Monad M] where
  /-- A computation can end with a value. -/
  Ends : {α : Type} → M α → α → Prop
  /-- What does nothing ends with the value that it is given. -/
  eq_of_pure : ∀ {α : Type} {a b : α}, Ends (pure a) b → b = a
  /-- What is done in two steps ends with what the second makes of the end of the first. -/
  of_bind : ∀ {α β : Type} {x : M α} {f : α → M β} {b : β}, Ends (x >>= f) b →
    ∃ a, Ends x a ∧ Ends (f a) b

/-- What has a state ends with its value, from whatever state it starts. -/
def Endings.state (σ : Type) : Endings (StateM σ) where
  Ends x a := ∃ s, (x.run s).1 = a
  eq_of_pure := fun ⟨_, h⟩ => h.symm
  of_bind := fun {_ _ x _ _} ⟨s, h⟩ => ⟨(x.run s).1, ⟨s, rfl⟩, (x.run s).2, h⟩

/-- The removal with nothing but heights noted. -/
def NameTable.Removal.plain (r : Removal V ν) : Removal V :=
  ⟨r.table.plain, r.log⟩

/-- Where nothing but heights is noted, there is nothing to leave out. -/
lemma NameTable.Removal.map_plain_self (o : Option (Removal V)) : o.map Removal.plain = o := by
  rcases o with _ | ⟨t, log⟩
  · rfl
  · rw [Option.map_some, Removal.plain, plain_self]

/-- A workshop notes the height that it is told. -/
def Workshop.NotesHeights (E : Endings M) (w : Workshop M V ν) : Prop :=
  ∀ {h : Nat} {n : ν}, E.Ends (w.note h) n → HasHeight.height n = h

namespace Workshop.NotesHeights

variable {E : Endings M} {w : Workshop M V ν} (hw : w.NotesHeights E)

include hw

/-! ## Making nodes -/

lemma plain_branch {left right t : NameTable V ν} {chain : Chain V}
    (h : E.Ends (w.branch left chain right) t) :
    t.plain = left.plain.branch chain right.plain := by
  obtain ⟨n, hn, ht⟩ := E.of_bind h
  rw [E.eq_of_pure ht, plain, hw hn, branch_eq, height_plain, height_plain]

/-- Where the last step of a rotation is to make a node, its outcome is one if that node is. -/
lemma rotation_of_branch {left right below above : NameTable V ν} {chain chain' : Chain V}
    {arm : Arm} {p : Arm × NameTable V ν}
    (h : E.Ends (return (arm, ← w.branch below chain above)) p)
    (hrot : Rotation left.plain chain' right.plain arm (below.plain.branch chain above.plain)) :
    Rotation left.plain chain' right.plain p.1 p.2.plain := by
  obtain ⟨t, ht, hp⟩ := E.of_bind h
  rw [E.eq_of_pure hp, hw.plain_branch ht]
  exact hrot

/-- What a rotation ends with is an outcome for the plain table, with the same arm. -/
lemma rotation_plain {left right : NameTable V ν} {chain : Chain V} {x : M (Arm × NameTable V ν)}
    (hx : w.Rotates left chain right x) {p : Arm × NameTable V ν} (h : E.Ends x p) :
    Rotation left.plain chain right.plain p.1 p.2.plain := by
  cases hx with
  | level hle hge =>
      exact hw.rotation_of_branch h (.level (by simpa using hle) (by simpa using hge))
  | fromLeft hh hio =>
      obtain ⟨low, hlow, h⟩ := E.of_bind h
      refine hw.rotation_of_branch h ?_
      rw [hw.plain_branch hlow]
      exact .fromLeft (by simpa using hh) (by simpa using hio)
  | fromLeftInner hh hio =>
      obtain ⟨low, hlow, h⟩ := E.of_bind h
      obtain ⟨high, hhigh, h⟩ := E.of_bind h
      refine hw.rotation_of_branch h ?_
      rw [hw.plain_branch hlow, hw.plain_branch hhigh]
      exact .fromLeftInner (by simpa using hh) (by simpa using hio)
  | fromRight hh hio =>
      obtain ⟨low, hlow, h⟩ := E.of_bind h
      refine hw.rotation_of_branch h ?_
      rw [hw.plain_branch hlow]
      exact .fromRight (by simpa using hh) (by simpa using hio)
  | fromRightInner hh hio =>
      obtain ⟨low, hlow, h⟩ := E.of_bind h
      obtain ⟨high, hhigh, h⟩ := E.of_bind h
      refine hw.rotation_of_branch h ?_
      rw [hw.plain_branch hlow, hw.plain_branch hhigh]
      exact .fromRightInner (by simpa using hh) (by simpa using hio)

/-- Rotations are those of the plain table, and so are the arms. -/
lemma plain_rotate {left right : NameTable V ν} {chain : Chain V} {p : Arm × NameTable V ν}
    (h : E.Ends (w.rotate left chain right) p) :
    left.plain.rotate chain right.plain = (p.1, p.2.plain) :=
  (hw.rotation_plain (w.rotates left chain right) h).rotate_eq

lemma plain_balance {left right t : NameTable V ν} {chain : Chain V}
    (h : E.Ends (w.balance left chain right) t) :
    t.plain = left.plain.balance chain right.plain := by
  obtain ⟨p, hp, h⟩ := E.of_bind h
  obtain ⟨-, -, ht⟩ := E.of_bind h
  rw [E.eq_of_pure ht, balance_eq, hw.plain_rotate hp]

/-! ## Inserting -/

/-- **Insertions are those of the plain table.** -/
theorem plain_insert {b : Binding V} {t t' : NameTable V ν} (h : E.Ends (w.insert b t) t') :
    t'.plain = t.plain.insert b := by
  induction t generalizing t' with
  | empty => exact hw.plain_branch h
  | node left chain right n ihl ihr =>
      rw [Workshop.insert] at h
      rw [plain, insert_node]
      cases hcmp : compare b.name chain.name with
      | eq =>
          rw [hcmp] at h
          obtain ⟨m, hm, h⟩ := E.of_bind h
          rw [E.eq_of_pure h, plain, hw hm]
      | lt =>
          rw [hcmp] at h
          obtain ⟨new, hnew, h⟩ := E.of_bind h
          rw [hw.plain_balance h, ihl hnew]
      | gt =>
          rw [hcmp] at h
          obtain ⟨new, hnew, h⟩ := E.of_bind h
          rw [hw.plain_balance h, ihr hnew]

/-! ## Erasing -/

lemma plain_eraseMin {left right t : NameTable V ν} {chain : Chain V}
    (h : E.Ends (w.eraseMin left chain right) t) :
    t.plain = left.plain.eraseMin chain right.plain := by
  induction left generalizing chain right t with
  | empty => rw [E.eq_of_pure h, plain, eraseMin_empty]
  | node below smaller above n ih _ =>
      rw [Workshop.eraseMin] at h
      obtain ⟨new, hnew, h⟩ := E.of_bind h
      rw [hw.plain_balance h, ih hnew, plain, eraseMin_node]

lemma plain_glue {left right t : NameTable V ν} (h : E.Ends (w.glue left right) t) :
    t.plain = left.plain.glue right.plain := by
  cases left with
  | empty =>
      rw [plain, empty_glue]
      cases right <;> rw [E.eq_of_pure h]
  | node outer heavy inner n =>
      cases right with
      | empty => rw [E.eq_of_pure h, plain, plain, glue_empty]
      | node below chain above m =>
          obtain ⟨rest, hrest, h⟩ := E.of_bind h
          rw [hw.plain_balance h, hw.plain_eraseMin hrest, plain, plain, glue_node, minChain_plain]

lemma plain_eraseHere {i : Ident} {left right : NameTable V ν} {chain : Chain V} {n : ν}
    {r : Removal V ν} (h : E.Ends (w.eraseHere i left chain right n) r) :
    r.plain = left.plain.eraseHere i chain right.plain (HasHeight.height n) := by
  unfold Workshop.eraseHere at h
  rw [eraseHere_eq]
  rcases hunlink : chain.unlink i with _ | _ | rest
  all_goals rw [hunlink] at h
  · obtain ⟨t, ht, h⟩ := E.of_bind h
    rw [E.eq_of_pure h, Removal.plain, hw.plain_glue ht]
  · obtain ⟨t, ht, h⟩ := E.of_bind h
    rw [E.eq_of_pure h, Removal.plain, hw.plain_glue ht]
  · obtain ⟨m, hm, h⟩ := E.of_bind h
    rw [E.eq_of_pure h, Removal.plain, plain, hw hm]

/-- **Removals are those of the plain table**, with the same reports. -/
theorem plain_erase? {i : Ident} {t : NameTable V ν} {o : Option (Removal V ν)}
    (h : E.Ends (w.erase? i t) o) : o.map Removal.plain = t.plain.erase? i := by
  induction t generalizing o with
  | empty =>
      rw [E.eq_of_pure h]
      rfl
  | node left chain right n ihl ihr =>
      rw [Workshop.erase?] at h
      rw [plain, erase?_node]
      cases hcmp : compare i.name chain.name with
      | eq =>
          rw [hcmp] at h
          obtain ⟨r, hr, h⟩ := E.of_bind h
          rw [E.eq_of_pure h, Option.map_some, hw.plain_eraseHere hr]
      | lt =>
          rw [hcmp] at h
          obtain ⟨below, hbelow, h⟩ := E.of_bind h
          rw [← ihl hbelow]
          cases below with
          | none =>
              rw [E.eq_of_pure h]
              rfl
          | some r =>
              obtain ⟨new, hnew, h⟩ := E.of_bind h
              rw [E.eq_of_pure h, Option.map_some, Removal.plain, hw.plain_balance hnew]
              rfl
      | gt =>
          rw [hcmp] at h
          obtain ⟨above, habove, h⟩ := E.of_bind h
          rw [← ihr habove]
          cases above with
          | none =>
              rw [E.eq_of_pure h]
              rfl
          | some r =>
              obtain ⟨new, hnew, h⟩ := E.of_bind h
              rw [E.eq_of_pure h, Option.map_some, Removal.plain, hw.plain_balance hnew]
              rfl

end Workshop.NotesHeights

end MiddleEnd
