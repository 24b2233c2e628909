import MiddleEnd.Proofs.Edition.Sharing
import MiddleEnd.Proofs.NameTable.Height
import MiddleEnd.Proofs.NameTable.Undoing

/-!
# Removals

To remove an identifier does one of three things, and which one is decided by the bindings of its
name: nothing when there are none, one binding less when some binding is the same, and otherwise
the whole name less, which is reported. This module says how much a removal takes away, and that
several removals take away the same in whatever order they come.

* `length_erase` and `ncard_boundNames_erase` — how many bindings, and how many names, are left.
  Both are read off the one chain that a removal replaces (`Replaces.length_toList`,
  `Replaces.size_add`).
* `eraseLog_eq` — what is reported.
* `Archive.sharesRoot_erase_iff` — the very same table comes back only when there was nothing to
  remove. Whether it does is read off the nodes.
* `Meaning.remaining_comm` — two removals from one name commute. A removal can change what the next
  one does: after it there may be no binding that is the same any more. But then the next one in
  either order ends with nothing.

The results are `outcome_of_erase` for one removal and `removals_commute` for many.
-/

namespace MiddleEnd

variable {V : Type}

/-! ## What is left of a name -/

namespace Meaning

variable {i j : Ident} {bs : List (Binding V)}

/-- Where a binding is the same, the first such binding is taken out. -/
lemma remaining_of_any (h : bs.any (·.ident.same i) = true) :
    remaining i bs = bs.eraseP (·.ident.same i) :=
  if_pos h

/-- Where no binding is the same, nothing is left. -/
lemma remaining_of_not_any (h : ¬ bs.any (·.ident.same i) = true) : remaining i bs = [] :=
  if_neg h

/-- Where there is nothing, nothing is left. -/
@[simp] lemma remaining_nil (i : Ident) : remaining i ([] : List (Binding V)) = [] := rfl

/-- Where a binding is the same, one binding goes. -/
lemma length_remaining_of_any (h : bs.any (·.ident.same i) = true) :
    (remaining i bs).length + 1 = bs.length := by
  obtain ⟨b, hb, hsame⟩ := List.any_eq_true.mp h
  rw [remaining_of_any h]
  exact List.length_eraseP_add_one hb hsame

/-- Nothing is left of a single binding, nor where no binding is the same. -/
lemma remaining_eq_nil_iff :
    remaining i bs = [] ↔ bs.length = 1 ∨ bs.any (·.ident.same i) = false := by
  by_cases h : bs.any (·.ident.same i) = true
  · have hlength := length_remaining_of_any h
    rw [← List.length_eq_zero_iff, h]
    simp only [Bool.true_eq_false, or_false]
    omega
  · simp [remaining_of_not_any h, h]

/-- Identifiers of one essence leave the same behind. -/
lemma remaining_eq_of_essence_eq (h : i.essence = j.essence) :
    remaining (V := V) i = remaining j := by
  funext bs
  unfold remaining
  simp only [Ident.same_eq_beq_essence, h]

/-- What is the same as one identifier stays when another of a different essence is removed. -/
lemma any_same_eraseP (h : i.essence ≠ j.essence) (bs : List (Binding V)) :
    (bs.eraseP (·.ident.same j)).any (·.ident.same i) = bs.any (·.ident.same i) := by
  have hkept : ∀ b : Binding V, b.ident.same i = true →
      (b ∈ bs.eraseP (·.ident.same j) ↔ b ∈ bs) := by
    intro b hi
    apply List.mem_eraseP_of_neg
    intro hj
    rw [Ident.same_eq_beq_essence, beq_iff_eq] at hi hj
    exact h (hi.symm.trans hj)
  rw [Bool.eq_iff_iff, List.any_eq_true, List.any_eq_true]
  constructor
  · rintro ⟨b, hb, hsame⟩
    exact ⟨b, (hkept b hsame).mp hb, hsame⟩
  · rintro ⟨b, hb, hsame⟩
    exact ⟨b, (hkept b hsame).mpr hb, hsame⟩

/-- A removal that empties a name does so before and behind one of a different essence. -/
lemma remaining_remaining_of_not_any (h : i.essence ≠ j.essence)
    (hi : ¬ bs.any (·.ident.same i) = true) :
    remaining i (remaining j bs) = [] ∧ remaining j (remaining i bs) = [] := by
  refine ⟨?_, by rw [remaining_of_not_any hi, remaining_nil]⟩
  by_cases hj : bs.any (·.ident.same j) = true
  · rw [remaining_of_any hj]
    apply remaining_of_not_any
    rwa [any_same_eraseP h]
  · rw [remaining_of_not_any hj, remaining_nil]

/-- **Removals from one name commute.** -/
lemma remaining_comm (i j : Ident) (bs : List (Binding V)) :
    remaining i (remaining j bs) = remaining j (remaining i bs) := by
  by_cases h : i.essence = j.essence
  · rw [remaining_eq_of_essence_eq h]
  by_cases hi : bs.any (·.ident.same i) = true
  · by_cases hj : bs.any (·.ident.same j) = true
    · -- Both find a binding, in either order, and the bindings are different.
      have hij : (bs.eraseP (·.ident.same j)).any (·.ident.same i) = true := by
        rwa [any_same_eraseP h]
      have hji : (bs.eraseP (·.ident.same i)).any (·.ident.same j) = true := by
        rwa [any_same_eraseP (Ne.symm h)]
      rw [remaining_of_any hi, remaining_of_any hj, remaining_of_any hij, remaining_of_any hji]
      apply List.eraseP_comm
      intro b _
      rw [Ident.same_eq_beq_essence, Ident.same_eq_beq_essence, beq_iff_eq, beq_iff_eq]
      exact not_and_or.mp fun hb => h (hb.2.symm.trans hb.1)
    · obtain ⟨hleft, hright⟩ := remaining_remaining_of_not_any (Ne.symm h) hj
      rw [hleft, hright]
  · obtain ⟨hleft, hright⟩ := remaining_remaining_of_not_any h hi
    rw [hleft, hright]

end Meaning

namespace NameTable

/-! ## How much is replaced -/

section replaces

variable {t t' : NameTable V} {name : String} {new : Option (Chain V)}

/-- The bindings of the old chain go, and those of the new one come. -/
lemma Replaces.length_toList (h : Replaces t name new t') :
    t'.toList.length + (t.bindingsOf name).length =
      t.toList.length + (Chain.entries new).length := by
  obtain ⟨smaller, greater, hcut, hnew⟩ := h
  simp only [toList_eq_flatMap, hcut.chains_eq, hnew, bindingsOf_eq_entries, List.flatMap_append,
    List.length_append, Chain.flatMap_toList_eq_entries]
  omega

/-- A name goes if its bindings do, and comes if they do. -/
lemma Replaces.size_add (h : Replaces t name new t') :
    t'.size + (if t.bindingsOf name = [] then 0 else 1) =
      t.size + (if Chain.entries new = [] then 0 else 1) := by
  obtain ⟨smaller, greater, hcut, hnew⟩ := h
  simp only [← length_chains, hcut.chains_eq, hnew, bindingsOf_eq_entries, List.length_append,
    ← Chain.length_toList_option]
  omega

end replaces

/-! ## One removal -/

/-- There is nothing to remove exactly where a name has no bindings. -/
lemma erase?_eq_none_iff_bindingsOf {t : NameTable V} (i : Ident) :
    t.erase? i = none ↔ t.bindingsOf i.name = [] := by
  rw [erase?_eq_none_iff, bindingsOf_eq_entries]
  rcases t.chain? i.name with _ | c <;> simp

/-- A removal reports that the name was bound and no binding was the same. -/
lemma eraseLog_eq (t : NameTable V) (i : Ident) :
    t.eraseLog i = if t.bindingsOf i.name ≠ [] ∧ (t.bindingsOf i.name).any (·.ident.same i) = false
      then [.nameDropped i.name i.stamp] else [] := by
  have hlog : t.eraseLog i = ((t.erase? i).map (·.log)).getD [] := by
    unfold eraseLog
    rcases t.erase? i with _ | r <;> rfl
  rw [hlog, map_log_erase?]
  rcases hchain : t.chain? i.name with _ | c
  · have hbindings : t.bindingsOf i.name = [] := by
      rw [bindingsOf_eq_entries, hchain, Chain.entries_none]
    simp [hbindings]
  · have hbindings : t.bindingsOf i.name = c.toList := by
      rw [bindingsOf_eq_entries, hchain, Chain.entries_some]
    rw [hbindings, Option.map_some, Option.getD_some]
    by_cases hsame : c.toList.any (·.ident.same i) = true
    · rw [if_pos hsame, if_neg fun hcond => absurd hsame (Bool.eq_false_iff.mp hcond.2)]
    · rw [if_neg hsame, if_pos ⟨c.toList_ne_nil, Bool.eq_false_iff.mpr hsame⟩]

/-- All that a removal reports is that a name was dropped. -/
lemma eq_nameDropped_of_mem_eraseLog {t : NameTable V} {i : Ident} {event : Event}
    (h : event ∈ t.eraseLog i) : event = .nameDropped i.name i.stamp := by
  rw [eraseLog_eq] at h
  split_ifs at h
  · exact List.mem_singleton.mp h
  · exact absurd h List.not_mem_nil

section erase

variable {t : NameTable V} (h : t.Invariant) (i : Ident)

include h

/-- The number of bindings after a removal. -/
lemma length_erase :
    (t.erase i).toList.length + (t.bindingsOf i.name).length =
      t.toList.length + (Meaning.remaining i (t.bindingsOf i.name)).length := by
  rw [(replaces_erase h.ordered i).length_toList, entries_bind_without, ← bindingsOf_eq_entries]

/-- The number of names after a removal. -/
lemma ncard_boundNames_erase :
    (t.erase i).boundNames.ncard + (if t.bindingsOf i.name = [] then 0 else 1) =
      t.boundNames.ncard +
        (if Meaning.remaining i (t.bindingsOf i.name) = [] then 0 else 1) := by
  rw [ncard_boundNames (h.erase i).ordered, ncard_boundNames h.ordered,
    (replaces_erase h.ordered i).size_add, entries_bind_without, ← bindingsOf_eq_entries]

/-- A removal from a bound name takes something away. -/
lemma length_erase_lt (hne : t.bindingsOf i.name ≠ []) :
    (t.erase i).toList.length < t.toList.length := by
  have hlength := length_erase h i
  have hpos := List.length_pos_iff.mpr hne
  by_cases hsame : (t.bindingsOf i.name).any (·.ident.same i) = true
  · have := Meaning.length_remaining_of_any hsame
    omega
  · rw [Meaning.remaining_of_not_any hsame, List.length_nil] at hlength
    omega

/-- A table stays as it is exactly where the name has no bindings. -/
lemma erase_eq_self_iff : t.erase i = t ↔ t.bindingsOf i.name = [] := by
  constructor
  · intro heq
    by_contra hne
    have hlt := length_erase_lt h i hne
    rw [heq] at hlt
    exact lt_irrefl _ hlt
  · intro hnil
    unfold erase
    rw [(erase?_eq_none_iff_bindingsOf i).mpr hnil]

end erase

end NameTable

/-- **The very same table comes back exactly when there was nothing to remove**, whichever edition
of the archive it is. -/
lemma Archive.sharesRoot_erase_iff (a : Archive V) {e : Edition V} (h : e.WellNumbered a.nodes)
    (i : Ident) : (a.erase e i).1.sharesRoot e = true ↔ e.table.bindingsOf i.name = [] :=
  (h.sharesRoot_erase_iff i).trans (NameTable.erase?_eq_none_iff_bindingsOf i)

namespace NameTable

/-- **The outcome of a removal** from a table with any history.

* The very same table comes back exactly when the name has no bindings, whichever edition of the
  table one starts from; there are such editions. Otherwise there are fewer bindings than before:
  one less if a binding of the name is the same, and if none is, as many less as the name had.
* In the last case, and in no other, there is one report, for debugging, with the name and the stamp
  of the identifier.
* There is one name less exactly when the name was bound, by a single binding or by none that is the
  same; otherwise there are as many as before. -/
theorem outcome_of_erase (us : List (Update V)) (i : Ident) :
    let t := (empty : NameTable V).run us
    let bs := t.bindingsOf i.name
    let found := bs.any (·.ident.same i)
    ((t.erase? i = none ↔ bs = []) ∧ (t.erase i = t ↔ bs = []) ∧
      ((∃ (a : Archive V) (e : Edition V), e.WellNumbered a.nodes ∧ e.table = t) ∧
        ∀ (a : Archive V) (e : Edition V), e.WellNumbered a.nodes → e.table = t →
          ((a.erase e i).1.table = t.erase i ∧ (a.erase e i).2.1 = t.eraseLog i) ∧
            ((a.erase e i).1.sharesRoot e = true ↔ bs = [])) ∧
      (bs ≠ [] → (t.erase i).toList.length < t.toList.length) ∧
      (bs ≠ [] → found = true → (t.erase i).toList.length + 1 = t.toList.length) ∧
      (bs ≠ [] → found = false → (t.erase i).toList.length + bs.length = t.toList.length)) ∧
    ((t.eraseLog i =
        if bs ≠ [] ∧ found = false then [.nameDropped i.name i.stamp] else []) ∧
      ∀ event ∈ t.eraseLog i, event.level = .debug ∧
        event.text = "no binding is the same identifier, dropping every binding of the name" ∧
        event.fields = [("name", encode i.name), ("stamp", encode i.stamp)]) ∧
    if bs ≠ [] ∧ (bs.length = 1 ∨ found = false) then
      (t.erase i).boundNames.ncard + 1 = t.boundNames.ncard
    else (t.erase i).boundNames.ncard = t.boundNames.ncard := by
  intro t bs found
  have h : t.Invariant := invariant_empty.run us
  have hlength : (t.erase i).toList.length + bs.length =
      t.toList.length + (Meaning.remaining i bs).length := length_erase h i
  have hnames : (t.erase i).boundNames.ncard + (if bs = [] then 0 else 1) =
      t.boundNames.ncard + (if Meaning.remaining i bs = [] then 0 else 1) :=
    ncard_boundNames_erase h i
  refine ⟨⟨erase?_eq_none_iff_bindingsOf i, erase_eq_self_iff h i, ?_, length_erase_lt h i, ?_, ?_⟩,
    ⟨eraseLog_eq t i, ?_⟩, ?_⟩
  · obtain ⟨e, nodes, he, htable⟩ := Edition.wellNumbered_empty.exists_run us
    refine ⟨⟨{ nodes := nodes }, e, he, htable⟩, fun a e he htable => ?_⟩
    rw [show bs = e.table.bindingsOf i.name by rw [htable], ← htable]
    exact ⟨e.table_erase i a.nodes, a.sharesRoot_erase_iff he i⟩
  · intro _ hfound
    have hrest := Meaning.length_remaining_of_any hfound
    omega
  · intro _ hfound
    have hrest : Meaning.remaining i bs = [] :=
      Meaning.remaining_of_not_any (Bool.not_eq_true _ ▸ hfound)
    rw [hrest, List.length_nil] at hlength
    exact hlength
  · intro event hevent
    rw [eq_nameDropped_of_mem_eraseLog hevent]
    exact ⟨rfl, rfl, rfl⟩
  · have hgone : Meaning.remaining i bs = [] ↔ bs.length = 1 ∨ found = false :=
      Meaning.remaining_eq_nil_iff
    split_ifs with hcond
    · rw [if_neg hcond.1, if_pos (hgone.mpr hcond.2)] at hnames
      exact hnames
    · by_cases hne : bs = []
      · rw [if_pos hne, if_pos (by rw [hne]; rfl)] at hnames
        exact hnames
      · rw [if_neg hne, if_neg (fun hnil => hcond ⟨hne, hgone.mp hnil⟩)] at hnames
        omega

/-- The name `x` has two bindings and `y` has one. An identifier of `x` with the stamp of a binding,
but of another kind, takes both away, and what comes back is the subtree of `y`, not the old root;
one that is the same as the older binding takes this one; and one of an unbound name takes
nothing. -/
theorem outcome_of_erase_each_way :
    let bindings : List (Binding Nat) :=
      [⟨.unitLocal "x" 1, 10⟩, ⟨.unitLocal "y" 3, 30⟩, ⟨.unitLocal "x" 2, 20⟩]
    let us : List (Update Nat) := bindings.map .insert
    let t := (empty : NameTable Nat).run us
    let e := (({} : Archive Nat).ofList bindings).1
    let a := (({} : Archive Nat).ofList bindings).2
    let other : Ident := .scopeLocal "x" 2 5
    let older : Ident := .unitLocal "x" 1
    let unbound : Ident := .unitLocal "z" 1
    (e.WellNumbered a.nodes ∧ e.table = t) ∧
    ((t.erase other).toList.length + 2 = t.toList.length ∧
      t.eraseLog other = [.nameDropped "x" 2] ∧
      (t.erase other).boundNames.ncard + 1 = t.boundNames.ncard ∧
      (a.erase e other).1.sharesRoot e = false) ∧
    ((t.erase older).toList.length + 1 = t.toList.length ∧ t.eraseLog older = [] ∧
      (t.erase older).boundNames.ncard = t.boundNames.ncard) ∧
    t.erase unbound = t ∧ (a.erase e unbound).1.sharesRoot e = true := by
  intro bindings us t e a other older unbound
  obtain ⟨⟨-, -, ⟨-, hroot⟩, -, -, hall⟩, ⟨hlog, -⟩, hnames⟩ := outcome_of_erase us other
  obtain ⟨⟨-, -, -, -, hone, -⟩, ⟨hlog', -⟩, hnames'⟩ := outcome_of_erase us older
  obtain ⟨⟨-, hself, ⟨-, hroot''⟩, -⟩, -⟩ := outcome_of_erase us unbound
  have he : e.WellNumbered a.nodes := ⟨by decide, by decide⟩
  have htable : e.table = t := by decide
  have hlength : (t.bindingsOf other.name).length = 2 := by decide
  rw [if_pos (by decide)] at hlog hnames
  rw [if_neg (by decide)] at hlog' hnames'
  refine ⟨⟨he, htable⟩, ⟨?_, hlog, hnames, ?_⟩, ⟨hone (by decide) (by decide), hlog', hnames'⟩,
    hself.mpr (by decide), (hroot'' a e he htable).2.mpr (by decide)⟩
  · rw [← hlength]
    exact hall (by decide) (by decide)
  · rw [← Bool.not_eq_true, (hroot a e he htable).2]
    decide

/-! ## Removals in any order -/

/-- **Removals commute.** Remove identifiers from a table with any history, in any two orders:
repeated ones, ones that are the same, ones that are not bound, and ones of which only the name is
bound, so that all its bindings are dropped. The bindings of every name are the same in the end, and
so is the list of all bindings. -/
theorem removals_commute (us : List (Update V)) (is js : List Ident) (h : is.Perm js) :
    let t := (empty : NameTable V).run us
    let t₁ := t.run (is.map .erase)
    let t₂ := t.run (js.map .erase)
    (∀ name, t₁.bindingsOf name = t₂.bindingsOf name) ∧ t₁.toList = t₂.toList ∧
      ∀ {α : Type} (f : α → Binding V → α) (a : α), t₁.foldAll f a = t₂.foldAll f a := by
  intro t t₁ t₂
  have ht : t.Invariant := invariant_empty.run us
  have hbindings : ∀ name, t₁.bindingsOf name = t₂.bindingsOf name := by
    intro name
    rw [bindingsOf_run ht, bindingsOf_run ht]
    apply ((h.map Update.erase).filter _).foldl_eq'
    -- Only removals are performed, and these commute.
    intro u hu v hv bs
    obtain ⟨i, -, rfl⟩ := List.mem_map.mp (List.mem_of_mem_filter hu)
    obtain ⟨j, -, rfl⟩ := List.mem_map.mp (List.mem_of_mem_filter hv)
    exact Meaning.remaining_comm j i bs
  have hsame := Indistinguishable.of_bindingsOf_eq (ht.run _).ordered (ht.run _).ordered hbindings
  exact ⟨hbindings, by unfold toList; rw [hsame.foldAll], hsame.foldAll⟩

/-- Two of the three bindings of `x` are removed, by identifiers with one stamp. Of `y`, a binding
is removed and another identifier drops the rest, before the first comes again; `z` is not bound.
The opposite order has the same outcome. -/
theorem removals_commute_reversed :
    let us : List (Update Nat) :=
      [.insert ⟨.unitLocal "x" 1, 0⟩, .insert ⟨.scopeLocal "x" 1 7, 1⟩,
        .insert ⟨.unitLocal "x" 1, 2⟩, .insert ⟨.global "y", 3⟩, .insert ⟨.unitLocal "y" 4, 4⟩]
    let is : List Ident :=
      [.unitLocal "x" 1, .scopeLocal "x" 1 0, .global "y", .unitLocal "y" 9, .unitLocal "z" 1,
        .global "y"]
    let t := (empty : NameTable Nat).run us
    let t₁ := t.run (is.map .erase)
    let t₂ := t.run (is.reverse.map .erase)
    is.Perm is.reverse ∧ t₁.bindingsOf "x" = [⟨.unitLocal "x" 1, 0⟩] ∧
      t₂.bindingsOf "x" = [⟨.unitLocal "x" 1, 0⟩] ∧ t₂.bindingsOf "y" = [] ∧
      t₁.toList = t₂.toList := by
  intro us is t t₁ t₂
  have hperm : is.Perm is.reverse := is.reverse_perm.symm
  obtain ⟨hbindings, hlist, -⟩ := removals_commute us is is.reverse hperm
  exact ⟨hperm, by decide, (hbindings "x").symm.trans (by decide),
    (hbindings "y").symm.trans (by decide), hlist⟩

end NameTable

end MiddleEnd
