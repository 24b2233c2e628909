import MiddleEnd.Proofs.NameTable.Separation

/-!
# Removal undoes insertion

To remove an identifier is to take out the newest binding that is the same, which need not be the
binding that was made of it: others that are the same can have been made later, or long before. So
removals meet chains that no sequence of insertions has produced. Still, as many removals as there
were insertions bring every name back to what it was, in whatever order they come.

* `Ident.essence` — what two identifiers of one name must share to be the same.
* `Outstanding t is t'` — of every name, `t'` holds what `t` holds, below bindings whose identifiers
  are, up to order, the same as those of `is`. Inserting makes one more identifier outstanding
  (`Outstanding.insert`). Removing an outstanding one finds a binding above what `t` holds, and
  leaves the others outstanding (`Outstanding.erase`).
* `map_log_erase?` — what a removal reports, read off the bindings of the name.

When nothing is outstanding any more, the bindings are those of `t`: this is `erase_undoes_insert`.
-/

namespace MiddleEnd

variable {V : Type}

namespace Ident

/-- An identifier without what `same` does not look at. -/
def essence : Ident → Ident
  | unitLocal _ stamp => .unitLocal "" stamp
  | scopeLocal _ stamp _ => .scopeLocal "" stamp lowestScope
  | builtIn _ stamp => .builtIn "" stamp
  | i => i

/-- Identifiers are the same if they have one essence. -/
lemma same_eq_beq_essence (a b : Ident) : a.same b = (a.essence == b.essence) := by
  rw [Bool.eq_iff_iff, beq_iff_eq]
  cases a <;> cases b <;> simp [same, essence]

end Ident

/-- To take out the first binding that is the same is to take its essence out. -/
lemma map_essence_eraseP (bs : List (Binding V)) (i : Ident) :
    (bs.eraseP (·.ident.same i)).map (·.ident.essence) =
      (bs.map (·.ident.essence)).erase i.essence := by
  rw [List.erase_eq_eraseP', List.eraseP_map]
  congr 2
  funext b
  exact b.ident.same_eq_beq_essence i

namespace NameTable

/-- The bindings of a name after a removal, of an identifier of this name or of another. -/
lemma bindingsOf_erase {t : NameTable V} (h : t.Invariant) (i : Ident) (name : String) :
    (t.erase i).bindingsOf name =
      if i.name = name then Meaning.remaining i (t.bindingsOf name) else t.bindingsOf name :=
  bindingsOf_update h (.erase i) name

/-! ## What a removal reports -/

/-- At a node, a removal reports that no binding of the chain is the same. -/
lemma log_eraseHere (i : Ident) (left : NameTable V) (chain : Chain V) (right : NameTable V)
    (height : Nat) :
    (eraseHere i left chain right height).log =
      if chain.toList.any (·.ident.same i) then [] else [.nameDropped i.name i.stamp] := by
  rw [eraseHere_eq, Chain.unlink_eq]
  split_ifs
  · rcases Chain.ofList? _ with _ | rest <;> rfl
  · rfl

/-- A removal happens where the name is bound, and reports that no binding is the same. -/
lemma map_log_erase? (t : NameTable V) (i : Ident) :
    (t.erase? i).map (·.log) = (t.chain? i.name).map fun chain =>
      if chain.toList.any (·.ident.same i) then [] else [.nameDropped i.name i.stamp] := by
  induction t with
  | empty => rfl
  | node left chain right height ihl ihr =>
      rw [erase?_node, chain?]
      rcases compare i.name chain.name
      · rw [← ihl, Option.map_map]
        rfl
      · exact congrArg some (log_eraseHere i left chain right height)
      · rw [← ihr, Option.map_map]
        rfl

/-- Where a binding is the same, it is removed and there is nothing to report. -/
lemma exists_erase?_of_any_same {t : NameTable V} {i : Ident}
    (h : (t.bindingsOf i.name).any (·.ident.same i) = true) :
    ∃ r, t.erase? i = some r ∧ r.log = [] := by
  have hlog := map_log_erase? t i
  rw [bindingsOf_eq_entries] at h
  rcases hchain : t.chain? i.name with _ | chain
  · simp [hchain] at h
  · rw [hchain, Chain.entries_some] at h
    rw [hchain, Option.map_some, if_pos h] at hlog
    exact Option.map_eq_some_iff.mp hlog

/-! ## Identifiers still to be removed -/

/-- Of every name, `t'` holds what `t` holds, below bindings whose identifiers are, up to order,
the same as those of a list. -/
def Outstanding (t : NameTable V) (is : List Ident) (t' : NameTable V) : Prop :=
  ∀ name, ∃ top, t'.bindingsOf name = top ++ t.bindingsOf name ∧
    (top.map (·.ident.essence)).Perm ((is.filter (·.name = name)).map Ident.essence)

section outstanding

variable {t t' : NameTable V} {is is' : List Ident}

/-- At first nothing is outstanding. -/
lemma outstanding_self (t : NameTable V) : Outstanding t [] t :=
  fun _ => ⟨[], rfl, List.Perm.nil⟩

/-- When nothing is outstanding, the bindings are back. -/
lemma Outstanding.bindingsOf_eq (h : Outstanding t [] t') (name : String) :
    t'.bindingsOf name = t.bindingsOf name := by
  obtain ⟨top, htop, hperm⟩ := h name
  have hnil : top = [] := by simpa using hperm
  rw [htop, hnil, List.nil_append]

/-- The order of the identifiers does not matter. -/
lemma Outstanding.perm (h : Outstanding t is t') (his : is.Perm is') : Outstanding t is' t' := by
  intro name
  obtain ⟨top, htop, hperm⟩ := h name
  exact ⟨top, htop, hperm.trans ((his.filter _).map _)⟩

/-- An identifier that is bound is outstanding. -/
lemma Outstanding.insert (h : Outstanding t is t') (hinv : t'.Invariant) (b : Binding V) :
    Outstanding t (b.ident :: is) (t'.insert b) := by
  intro name
  obtain ⟨top, htop, hperm⟩ := h name
  rw [bindingsOf_insert hinv]
  by_cases hn : b.name = name
  · refine ⟨b :: top, ?_, ?_⟩
    · rw [if_pos hn, htop, List.cons_append]
    · rw [List.filter_cons_of_pos (by simpa [Binding.name] using hn)]
      exact hperm.cons b.ident.essence
  · refine ⟨top, ?_, ?_⟩
    · rw [if_neg hn, htop]
    · rwa [List.filter_cons_of_neg (by simpa [Binding.name] using hn)]

/-- All identifiers that are bound are outstanding. -/
lemma Outstanding.run_insert (h : Outstanding t is t') (hinv : t'.Invariant)
    (bs : List (Binding V)) :
    Outstanding t (bs.map (·.ident) ++ is) (t'.run (bs.map .insert)) := by
  induction bs generalizing t' is with
  | nil => exact h
  | cons b bs ih =>
      exact (ih (h.insert hinv b) (hinv.insert b)).perm List.perm_middle

/-- **An outstanding identifier is removed from above**: there is a binding that is the same, and
without it the other identifiers are outstanding. -/
lemma Outstanding.erase {i : Ident} (h : Outstanding t (i :: is) t') (hinv : t'.Invariant) :
    (t'.bindingsOf i.name).any (·.ident.same i) = true ∧ Outstanding t is (t'.erase i) := by
  -- The essence of `i` occurs among those of the bindings on top.
  have hsame : ∀ top : List (Binding V),
      (top.map (·.ident.essence)).Perm (((i :: is).filter (·.name = i.name)).map Ident.essence) →
      top.any (·.ident.same i) = true := by
    intro top hperm
    rw [List.filter_cons_of_pos (by simp)] at hperm
    obtain ⟨b, hb, hessence⟩ := List.mem_map.mp (hperm.mem_iff.mpr List.mem_cons_self)
    refine List.any_eq_true.mpr ⟨b, hb, ?_⟩
    rw [Ident.same_eq_beq_essence, hessence, beq_self_eq_true]
  refine ⟨?_, ?_⟩
  · obtain ⟨top, htop, hperm⟩ := h i.name
    rw [htop, List.any_append, hsame top hperm, Bool.true_or]
  · intro name
    obtain ⟨top, htop, hperm⟩ := h name
    rw [bindingsOf_erase hinv, htop]
    by_cases hn : i.name = name
    · subst hn
      have htopsame := hsame top hperm
      refine ⟨top.eraseP (·.ident.same i), ?_, ?_⟩
      · unfold Meaning.remaining
        rw [if_pos rfl, List.any_append, htopsame, Bool.true_or, if_pos rfl, List.eraseP_append,
          if_pos htopsame]
      · rw [List.filter_cons_of_pos (by simp)] at hperm
        have herase := hperm.erase i.essence
        rwa [List.map_cons, List.erase_cons_head, ← map_essence_eraseP] at herase
    · refine ⟨top, if_neg hn, ?_⟩
      rwa [List.filter_cons_of_neg (by simpa using hn)] at hperm

/-- Behind the first `k` removals the remaining identifiers are outstanding. -/
lemma Outstanding.run_erase (h : Outstanding t is t') (hinv : t'.Invariant) (k : Nat) :
    Outstanding t (is.drop k) (t'.run ((is.take k).map .erase)) := by
  induction k generalizing t' is with
  | zero => simpa [run] using h
  | succ k ih =>
      rcases is with _ | ⟨i, is⟩
      · simpa [run] using h
      · exact ih (h.erase hinv).2 (hinv.erase i)

end outstanding

/-! ## Removing what was inserted -/

/-- **Removal undoes insertion in any order.** Bind identifiers in a table with any history, also
identifiers that are equal, the same, or bound already, and then remove them in any order. The
bindings of every name are what they were, so that nothing is left of an empty table; and every
removal on the way finds a binding that is the same, so that it is never reported that there is
none. -/
theorem erase_undoes_insert (us : List (Update V)) (bs : List (Binding V)) (is : List Ident)
    (h : is.Perm (bs.map (·.ident))) :
    let t := (empty : NameTable V).run us
    let full := t.run (bs.map .insert)
    (∀ name, (full.run (is.map .erase)).bindingsOf name = t.bindingsOf name) ∧
      (t = empty → full.run (is.map .erase) = empty) ∧
      ∀ k i, is[k]? = some i →
        ((full.run ((is.take k).map .erase)).bindingsOf i.name).any (·.ident.same i) = true ∧
          ∃ r, (full.run ((is.take k).map .erase)).erase? i = some r ∧ r.log = [] := by
  intro t full
  have ht : t.Invariant := invariant_empty.run us
  have hfull : full.Invariant := ht.run _
  have hout : Outstanding t is full := by
    have hinserted := (outstanding_self t).run_insert ht bs
    rw [List.append_nil] at hinserted
    exact hinserted.perm h.symm
  have hback : ∀ name, (full.run (is.map .erase)).bindingsOf name = t.bindingsOf name := by
    intro name
    have hdone := hout.run_erase hfull is.length
    rw [List.drop_length, List.take_length] at hdone
    exact hdone.bindingsOf_eq name
  refine ⟨hback, ?_, ?_⟩
  · intro hempty
    have hsame := Indistinguishable.of_bindingsOf_eq (hfull.run _).ordered ht.ordered hback
    rw [← isEmpty_iff, hsame.isEmpty, hempty]
    rfl
  · intro k i hi
    have hrest := hout.run_erase hfull k
    rw [List.drop_eq_getElem?_toList_append, hi] at hrest
    have hany := (hrest.erase (hfull.run _)).1
    exact ⟨hany, exists_erase?_of_any_same hany⟩

/-- The name `x` is bound already, and then twice more by an identifier that is the same, once by a
scoped one of the same stamp and once by a global; `y` is bound by an identifier of that stamp, too.
Removed in another order, all of them go and the first binding of `x` stays. -/
theorem erase_undoes_insert_same_stamps :
    let us : List (Update Nat) := [.insert ⟨.unitLocal "x" 1, 0⟩]
    let bs : List (Binding Nat) :=
      [⟨.unitLocal "x" 1, 1⟩, ⟨.unitLocal "y" 1, 2⟩, ⟨.scopeLocal "x" 1 7, 3⟩,
        ⟨.unitLocal "x" 1, 4⟩, ⟨.global "x", 5⟩]
    let is : List Ident :=
      [.unitLocal "x" 1, .global "x", .unitLocal "y" 1, .unitLocal "x" 1, .scopeLocal "x" 1 7]
    let t := (empty : NameTable Nat).run us
    let full := t.run (bs.map .insert)
    is.Perm (bs.map (·.ident)) ∧
      (full.run (is.map .erase)).bindingsOf "x" = [⟨.unitLocal "x" 1, 0⟩] ∧
      (full.run (is.map .erase)).bindingsOf "y" = [] ∧
      ∃ r, (full.run ((is.take 3).map .erase)).erase? (.unitLocal "x" 1) = some r ∧ r.log = [] := by
  intro us bs is t full
  have hperm : is.Perm (bs.map (·.ident)) := by decide
  obtain ⟨hback, -, hremoved⟩ := erase_undoes_insert us bs is hperm
  exact ⟨hperm, (hback "x").trans rfl, (hback "y").trans rfl,
    (hremoved 3 (.unitLocal "x" 1) rfl).2⟩

end NameTable

end MiddleEnd
