import Mathlib.Data.List.Sort
import MiddleEnd.Proofs.NameTable.Refinement

/-!
# Names are kept apart

Every update of a table rotates and glues nodes that belong to other names, and the tree that comes
out depends on the whole history. What can be asked of a table does not: the bindings of a name
depend on the changes to that name alone, and all else that can be asked depends on the bindings.

* `Update.name`, `Update.act` — the name that a change is about, and what it makes of the
  bindings of this name. `bindingsOf_update` says that it touches no other name.
* `about name us` — the changes of a history that are about a name. They decide the bindings of the
  name (`bindingsOf_run`).
* `Indistinguishable` — two tables answer everything that can be asked in the same way. For ordered
  tables it is enough that the bindings of every name agree
  (`Indistinguishable.of_bindingsOf_eq`): ascending names leave one sequence of chains
  (`chains_eq_of_meaning_eq`), and every walk follows this sequence.

The result is `names_kept_apart`: histories that agree on every name, however the changes to
different names are interleaved, lead to tables that cannot be told apart, though the trees can have
different heights (`exists_height_ne`).
-/

namespace MiddleEnd

variable {V : Type}

namespace NameTable

/-! ## Changes to one name -/

/-- The name that a change is about. -/
def Update.name : Update V → String
  | .insert b => b.name
  | .erase i => i.name

/-- What a change makes of the bindings of its name. -/
def Update.act : Update V → List (Binding V) → List (Binding V)
  | .insert b, bs => b :: bs
  | .erase i, bs => Meaning.remaining i bs

/-- The changes of a history that are about a name. -/
def about (name : String) (us : List (Update V)) : List (Update V) :=
  us.filter (·.name = name)

/-- A change is applied to the bindings of its name and leaves all others alone. -/
lemma meaning_update_apply (m : Meaning V) (u : Update V) (name : String) :
    m.update u name = if u.name = name then u.act (m name) else m name := by
  have hupdate : m.update u = Function.update m u.name (u.act (m u.name)) := by
    cases u <;> rfl
  rw [hupdate, Function.update_apply]
  by_cases hn : u.name = name
  · subst hn
    simp
  · rw [if_neg (Ne.symm hn), if_neg hn]

/-- A history applies the changes that are about a name to the bindings of the name. -/
lemma meaning_run_apply (m : Meaning V) (us : List (Update V)) (name : String) :
    m.run us name = (about name us).foldl (fun bs u => u.act bs) (m name) := by
  induction us generalizing m with
  | nil => rfl
  | cons u us ih =>
      show (m.update u).run us name = _
      rw [ih, meaning_update_apply]
      unfold about
      by_cases hn : u.name = name
      · rw [if_pos hn, List.filter_cons_of_pos (by simpa using hn), List.foldl_cons]
      · rw [if_neg hn, List.filter_cons_of_neg (by simpa using hn)]

/-- The bindings of a name after a change, to this name or to another. -/
lemma bindingsOf_update {t : NameTable V} (h : t.Invariant) (u : Update V) (name : String) :
    (t.update u).bindingsOf name =
      if u.name = name then u.act (t.bindingsOf name) else t.bindingsOf name := by
  have hname := congrFun (meaning_update h u) name
  rwa [meaning_update_apply] at hname

/-- The bindings of a name after a history depend on the changes to this name. -/
lemma bindingsOf_run {t : NameTable V} (h : t.Invariant) (us : List (Update V)) (name : String) :
    (t.run us).bindingsOf name =
      (about name us).foldl (fun bs u => u.act bs) (t.bindingsOf name) := by
  have hname := congrFun (meaning_run h us) name
  rwa [meaning_run_apply] at hname

/-- To keep only the changes to a name twice is to keep them once. -/
lemma about_about (name : String) (us : List (Update V)) :
    about name (about name us) = about name us := by
  unfold about
  simp

/-! ## What the bindings decide -/

/-- A lookup finds the chain of the bindings of a name. -/
lemma chain?_eq_ofList? (t : NameTable V) (name : String) :
    t.chain? name = Chain.ofList? (t.meaning name) := by
  show t.chain? name = Chain.ofList? (t.bindingsOf name)
  rw [bindingsOf_eq_entries]
  rcases t.chain? name with _ | c <;> rfl

/-- Ordered tables with the same bindings have the same sequence of chains. -/
lemma chains_eq_of_meaning_eq {t t' : NameTable V} (h : t.Ordered) (h' : t'.Ordered)
    (hm : t.meaning = t'.meaning) : t.chains = t'.chains := by
  have : Std.Irrefl fun a b : Chain V => a.name < b.name := ⟨fun c => lt_irrefl c.name⟩
  have : Std.Antisymm fun a b : Chain V => a.name < b.name :=
    ⟨fun a b hab hba => absurd hab (lt_asymm hba)⟩
  apply (ordered_iff_pairwise.mp h).eq_of_mem_iff (ordered_iff_pairwise.mp h')
  intro c
  have hmem : t.chain? c.name = some c ↔ c ∈ t.chains ∧ c.name = c.name := chain?_eq_some_iff h
  have hmem' : t'.chain? c.name = some c ↔ c ∈ t'.chains ∧ c.name = c.name :=
    chain?_eq_some_iff h'
  rw [chain?_eq_ofList?, hm, ← chain?_eq_ofList?, hmem'] at hmem
  simpa using hmem.symm

/-- Only the empty table is empty. -/
lemma isEmpty_iff {t : NameTable V} : t.isEmpty = true ↔ t = empty := by
  cases t <;> simp [isEmpty]

/-- A table is empty if it has no chains. -/
lemma isEmpty_eq (t : NameTable V) : t.isEmpty = t.chains.isEmpty := by
  cases t <;> simp [isEmpty, chains]

/-! ## Tables that cannot be told apart -/

/-- Everything that can be asked of a table, its height and its identity apart, is answered in the
same way by another. -/
structure Indistinguishable (t t' : NameTable V) : Prop where
  /-- Whether nothing is bound. -/
  isEmpty : t.isEmpty = t'.isEmpty
  /-- All bindings of a name. -/
  bindingsOf : ∀ name, t.bindingsOf name = t'.bindingsOf name
  /-- The newest binding of a name. -/
  newest? : ∀ name, t.newest? name = t'.newest? name
  /-- The data of an identifier. -/
  find? : ∀ i, t.find? i = t'.find? i
  /-- The bindings of a name, one at a time. -/
  cursor : ∀ name, t.cursor name = t'.cursor name
  /-- The newest bindings. -/
  bindings : t.bindings = t'.bindings
  /-- A visit to the newest bindings. -/
  forM : ∀ {m : Type → Type} [Monad m] (visit : Binding V → m Unit), t.forM visit = t'.forM visit
  /-- A fold over the newest bindings. -/
  foldNewest : ∀ {α : Type} (f : α → Binding V → α) (a : α), t.foldNewest f a = t'.foldNewest f a
  /-- A fold over all bindings. -/
  foldAll : ∀ {α : Type} (f : α → Binding V → α) (a : α), t.foldAll f a = t'.foldAll f a
  /-- The description on one line. -/
  line : ∀ [Outlined V], (outline t).line = (outline t').line
  /-- The description over many lines. -/
  page : ∀ [Outlined V], (outline t).page = (outline t').page

/-- **What can be asked of an ordered table depends on the bindings of the names.** -/
theorem Indistinguishable.of_bindingsOf_eq {t t' : NameTable V} (h : t.Ordered) (h' : t'.Ordered)
    (hb : ∀ name, t.bindingsOf name = t'.bindingsOf name) : Indistinguishable t t' := by
  have hchains : t.chains = t'.chains := chains_eq_of_meaning_eq h h' (funext hb)
  have hwalk : ∀ {α : Type} (f : α → Chain V → α) (a : α),
      (Walk.start t).fold f a = (Walk.start t').fold f a := by
    intro α f a
    rw [Walk.fold_start, Walk.fold_start, hchains]
  have hcursor : ∀ name, t.cursor name = t'.cursor name := by
    intro name
    exact congrArg Cursor.mk (hb name)
  have hbindings : t.bindings = t'.bindings := by
    unfold NameTable.bindings
    rw [hwalk]
  have houtline : ∀ [Outlined V], outline t = outline t' := by
    intro _
    show Outline.dict _ = Outline.dict _
    rw [hwalk]
  constructor
  · rw [isEmpty_eq, isEmpty_eq, hchains]
  · exact hb
  · intro name
    unfold NameTable.newest?
    rw [hcursor]
  · intro i
    unfold NameTable.find?
    rw [hcursor]
  · exact hcursor
  · exact hbindings
  · intro m _ visit
    unfold NameTable.forM
    rw [hbindings]
  · intro α f a
    unfold NameTable.foldNewest
    rw [hbindings]
  · intro α f a
    unfold NameTable.foldAll
    rw [hwalk]
  · intro _
    rw [houtline]
  · intro _
    rw [houtline]

/-! ## Histories that agree on every name -/

/-- Histories agree on every name if they agree on the names that they are about. -/
lemma about_eq_of_forall_mem {us vs : List (Update V)}
    (h : ∀ u ∈ us ++ vs, about u.name us = about u.name vs) (name : String) :
    about name us = about name vs := by
  by_cases hname : ∃ u ∈ us ++ vs, u.name = name
  · obtain ⟨u, hu, rfl⟩ := hname
    exact h u hu
  · have hnone : ∀ u ∈ us ++ vs, u.name ≠ name := fun u hu hn => hname ⟨u, hu, hn⟩
    have hus : about name us = [] := by
      unfold about
      simpa using fun u hu => hnone u (List.mem_append_left vs hu)
    have hvs : about name vs = [] := by
      unfold about
      simpa using fun u hu => hnone u (List.mem_append_right us hu)
    rw [hus, hvs]

/-- The history that binds global names in an order. -/
def bindGlobals (data : V) (names : List String) : List (Update V) :=
  names.map fun name => .insert ⟨.global name, data⟩

/-- In whatever order names are bound, every name is bound as often. -/
lemma about_bindGlobals_of_perm (data : V) {names names' : List String} (h : names.Perm names')
    (name : String) :
    about name (bindGlobals data names) = about name (bindGlobals data names') := by
  have hfilter : ∀ names : List String, about name (bindGlobals data names) =
      bindGlobals data (List.replicate (names.count name) name) := by
    intro names
    unfold about bindGlobals
    rw [List.filter_map, ← List.filter_eq]
    rfl
  rw [hfilter, hfilter, h.count_eq]

/-- The order in which names are bound can show in the height: seven names in ascending order make
a full tree, the same names from the inside out do not. -/
lemma exists_height_ne (data : V) : ∃ us vs : List (Update V),
    (∀ name, about name us = about name vs) ∧
      ((empty : NameTable V).run us).height ≠ ((empty : NameTable V).run vs).height := by
  refine ⟨bindGlobals data ["a", "b", "c", "d", "e", "f", "g"],
    bindGlobals data ["e", "c", "f", "b", "d", "g", "a"], ?_, ?_⟩
  · intro name
    apply about_bindGlobals_of_perm
    decide
  · have hfull : ((empty : NameTable V).run
        (bindGlobals data ["a", "b", "c", "d", "e", "f", "g"])).height = 3 := by cbv
    have hdeep : ((empty : NameTable V).run
        (bindGlobals data ["e", "c", "f", "b", "d", "g", "a"])).height = 4 := by cbv
    rw [hfull, hdeep]
    decide

/-- **Names do not interfere, and the shape of the tree cannot be observed.**

* Two histories of the empty table that make the same changes to every name, in whatever order
  among different names, lead to tables that cannot be told apart by anything that can be asked of
  them.
* Their heights can differ nevertheless.
* The bindings of a name after a history are those after the changes to this name alone. -/
theorem names_kept_apart :
    (∀ us vs : List (Update V), (∀ name, about name us = about name vs) →
      Indistinguishable ((empty : NameTable V).run us) ((empty : NameTable V).run vs)) ∧
    (∀ _ : V, ∃ us vs : List (Update V), (∀ name, about name us = about name vs) ∧
      ((empty : NameTable V).run us).height ≠ ((empty : NameTable V).run vs).height) ∧
    ∀ (us : List (Update V)) (name : String),
      ((empty : NameTable V).run us).bindingsOf name =
        ((empty : NameTable V).run (about name us)).bindingsOf name := by
  refine ⟨?_, exists_height_ne, ?_⟩
  · intro us vs h
    apply Indistinguishable.of_bindingsOf_eq
    · exact (invariant_empty.run us).ordered
    · exact (invariant_empty.run vs).ordered
    · intro name
      rw [bindingsOf_run invariant_empty, bindingsOf_run invariant_empty, h]
  · intro us name
    rw [bindingsOf_run invariant_empty, bindingsOf_run invariant_empty, about_about]

/-- A name that is shadowed, one that is removed and one whose bindings are all dropped, among
others that are bound in different orders: the trees differ in height, and no question tells. -/
theorem names_kept_apart_shadowed :
    let us : List (Update Nat) :=
      bindGlobals 0 ["a", "b", "c", "d", "e", "f", "g"] ++
        [.insert ⟨.unitLocal "a" 1, 1⟩, .insert ⟨.unitLocal "h" 2, 2⟩, .erase (.unitLocal "h" 2),
          .insert ⟨.unitLocal "i" 3, 3⟩, .erase (.unitLocal "i" 4)]
    let vs : List (Update Nat) :=
      [.insert ⟨.unitLocal "i" 3, 3⟩, .erase (.unitLocal "i" 4), .insert ⟨.unitLocal "h" 2, 2⟩,
        .erase (.unitLocal "h" 2)] ++
        bindGlobals 0 ["e", "c", "f", "b", "d", "g", "a"] ++ [.insert ⟨.unitLocal "a" 1, 1⟩]
    let t := (empty : NameTable Nat).run us
    let t' := (empty : NameTable Nat).run vs
    (∀ name, about name us = about name vs) ∧ t.height ≠ t'.height ∧ Indistinguishable t t' ∧
      t.bindingsOf "a" = t'.bindingsOf "a" ∧ t.bindings = t'.bindings := by
  intro us vs t t'
  have habout : ∀ name, about name us = about name vs := by
    apply about_eq_of_forall_mem
    decide
  have hsame : Indistinguishable t t' := names_kept_apart.1 us vs habout
  exact ⟨habout, by decide, hsame, hsame.bindingsOf "a", hsame.bindings⟩

end NameTable

end MiddleEnd
