import MiddleEnd.Proofs.NameTable.Height
import MiddleEnd.Proofs.NameTable.Separation

/-!
# Traversals

A table is gone through by a walk. A walk has no place in the tree: it keeps a stack of nodes, and
what it still has to visit is what these nodes owe, each its own chain and those of its right
subtree. So its completeness and its order are read off the stack, step by step.

* `Walk.ahead` — the chains that a walk has still to visit. A call takes the first of them
  (`Walk.call_ahead`), hence `n` calls take the first `n` and leave the others
  (`Walk.calls_ahead`). When none is left, every further call answers `none`.
* `Traversal t names` — however `t` is gone through, the names in the list are visited in their
  order, each with the bindings that a lookup finds: one call after the other, by a visit, by a fold
  over the newest bindings or over all, and in the description.

`Invariant.traversal` reads a traversal off the sequence of chains; `traversal_of_updates` is the
result for all histories.
-/

namespace MiddleEnd

variable {V : Type}

/-! ## What a walk owes -/

namespace Walk

/-- The chains to come, in order. -/
def ahead (w : Walk V) : List (Chain V) :=
  chainsOf w.pending

/-- A call for the newest binding of the next name. A walk that has come to its end stays there. -/
def call (w : Walk V) : Option (Binding V) × Walk V :=
  match w.next? with
  | some (chain, w') => (some chain.newest, w')
  | none => (none, w)

/-- The answers of so many calls, and the walk behind them. -/
def calls (w : Walk V) : Nat → List (Option (Binding V)) × Walk V
  | 0 => ([], w)
  | n + 1 =>
    let (b, w) := w.call
    let (bs, w) := w.calls n
    (b :: bs, w)

/-- At the start all chains of the table are to come. -/
lemma ahead_start (t : NameTable V) : (start t).ahead = t.chains := by
  show chainsOf (descend t []) = t.chains
  rw [chainsOf_descend, chainsOf, List.append_nil]

/-- A call takes the first of the chains to come. -/
lemma call_ahead (w : Walk V) :
    w.call.1 = w.ahead.head?.map (·.newest) ∧ w.call.2.ahead = w.ahead.tail := by
  obtain ⟨pending⟩ := w
  rcases pending with _ | ⟨⟨chain, right⟩, pending⟩
  · exact ⟨rfl, rfl⟩
  · refine ⟨rfl, ?_⟩
    show chainsOf (descend right pending) = right.chains ++ chainsOf pending
    exact chainsOf_descend right pending

/-- So many calls take the first so many chains, and answer `none` when all are taken. -/
lemma calls_ahead (w : Walk V) (n : Nat) :
    (w.calls n).1 = (List.range n).map (fun k => w.ahead[k]?.map (·.newest)) ∧
      (w.calls n).2.ahead = w.ahead.drop n := by
  induction n generalizing w with
  | zero => exact ⟨rfl, rfl⟩
  | succ n ih =>
      obtain ⟨hanswer, hahead⟩ := w.call_ahead
      obtain ⟨hanswers, hrest⟩ := ih w.call.2
      rw [hahead] at hanswers hrest
      constructor
      · show w.call.1 :: (w.call.2.calls n).1 = _
        rw [hanswer, hanswers, List.range_succ_eq_map, List.map_cons, List.map_map,
          List.head?_eq_getElem?]
        simp [Function.comp_def]
      · show (w.call.2.calls n).2.ahead = _
        rw [hrest, List.drop_tail]

end Walk

namespace NameTable

/-! ## Chains and lookups -/

/-- The newest bindings are those of the chains, in their order. -/
lemma bindings_eq_map (t : NameTable V) : t.bindings = t.chains.map (·.newest) := by
  unfold bindings
  rw [Walk.fold_start, List.foldl_flip_cons_eq_append, List.append_nil, List.reverse_reverse]

/-- The names of the newest bindings are those of the chains. -/
lemma map_name_bindings (t : NameTable V) : t.bindings.map (·.name) = t.chains.map (·.name) := by
  rw [bindings_eq_map, List.map_map]
  rfl

/-- In an ordered table every chain holds what a lookup of its name finds. -/
lemma bindingsOf_name {t : NameTable V} (h : t.Ordered) {c : Chain V} (hc : c ∈ t.chains) :
    t.bindingsOf c.name = c.toList := by
  rw [bindingsOf_eq_entries, (chain?_eq_some_iff h).mpr ⟨hc, rfl⟩, Chain.entries_some]

/-- In an ordered table every chain begins with what a lookup of its name finds first. -/
lemma newest?_name {t : NameTable V} (h : t.Ordered) {c : Chain V} (hc : c ∈ t.chains) :
    t.newest? c.name = some c.newest := by
  rw [newest?_eq_head?, meaning, bindingsOf_name h hc]
  rfl

/-- All bindings, gathered name by name. -/
lemma toList_eq_flatMap_bindingsOf {t : NameTable V} (h : t.Ordered) :
    t.toList = (t.chains.map (·.name)).flatMap (t.bindingsOf ·) := by
  rw [toList_eq_flatMap, List.flatMap_map]
  apply List.flatMap_congr
  intro c hc
  exact (bindingsOf_name h hc).symm

/-- Chains of other names hold no binding of a name. -/
lemma filter_flatMap_eq_nil {cs : List (Chain V)} {name : String}
    (h : ∀ c ∈ cs, c.Uniform ∧ c.name ≠ name) :
    (cs.flatMap Chain.toList).filter (·.name = name) = [] := by
  rw [List.filter_eq_nil_iff]
  intro b hb
  obtain ⟨c, hc, hbc⟩ := List.mem_flatMap.mp hb
  obtain ⟨huniform, hne⟩ := h c hc
  simpa [Chain.uniform_iff.mp huniform b hbc] using hne

/-- Of all bindings, those of a name are the ones that a lookup finds. -/
lemma filter_toList {t : NameTable V} (h : t.Invariant) (name : String) :
    t.toList.filter (·.name = name) = t.bindingsOf name := by
  obtain ⟨smaller, greater, hcut⟩ := exists_cut h.ordered name
  have hsmaller : ∀ c ∈ smaller, c.Uniform ∧ c.name ≠ name := by
    intro c hc
    exact ⟨h.uniform c (by simp [hcut.chains_eq, hc]), (hcut.smaller_lt c hc).ne⟩
  have hgreater : ∀ c ∈ greater, c.Uniform ∧ c.name ≠ name := by
    intro c hc
    exact ⟨h.uniform c (by simp [hcut.chains_eq, hc]), (hcut.lt_greater c hc).ne'⟩
  have hhere : (t.bindingsOf name).filter (·.name = name) = t.bindingsOf name := by
    rw [bindingsOf_eq_entries, List.filter_eq_self]
    rcases hchain : t.chain? name with _ | c
    · exact nofun
    · obtain ⟨huniform, rfl⟩ := h.chain?_uniform hchain
      simpa using Chain.uniform_iff.mp huniform
  rw [toList_eq_flatMap, hcut.chains_eq, List.flatMap_append, List.flatMap_append,
    List.filter_append, List.filter_append, filter_flatMap_eq_nil hsmaller,
    filter_flatMap_eq_nil hgreater, Chain.flatMap_toList_eq_entries, ← bindingsOf_eq_entries, hhere,
    List.nil_append, List.append_nil]

/-- The description lists the chains in their order. -/
lemma outline_eq_dict [Outlined V] (t : NameTable V) :
    outline t = .dict (t.chains.map chainOutline) := by
  show Outline.dict _ = _
  rw [Walk.fold_start, List.foldl_flip_cons_eq_append, List.append_nil, List.reverse_reverse]

/-! ## Traversals of a table -/

/-- However a table is gone through, the names in a list are visited in their order. -/
structure Traversal (t : NameTable V) (names : List String) : Prop where
  /-- The names ascend, so that none comes twice. -/
  ascending : names.Pairwise (· < ·)
  /-- The names are those that are bound. -/
  mem_iff : ∀ name, name ∈ names ↔ t.bindingsOf name ≠ []
  /-- Every name is visited once, with its newest binding. -/
  bindings : t.bindings.map some = names.map (t.newest? ·)
  /-- Calls are answered one by one, and by `none` when all names are visited. -/
  calls : ∀ n, ((Walk.start t).calls n).1 = (List.range n).map (names[·]?.bind (t.newest? ·))
  /-- A visit sees the newest bindings in this order. -/
  forM : ∀ {m : Type → Type} [Monad m] (visit : Binding V → m Unit),
    t.forM visit = (names.filterMap (t.newest? ·)).forM visit
  /-- A fold over the newest bindings sees them in this order. -/
  foldNewest : ∀ {α : Type} (f : α → Binding V → α) (a : α),
    t.foldNewest f a = (names.filterMap (t.newest? ·)).foldl f a
  /-- A fold over all bindings sees those of every name, newest first, in this order. -/
  foldAll : ∀ {α : Type} (f : α → Binding V → α) (a : α),
    t.foldAll f a = (names.flatMap (t.bindingsOf ·)).foldl f a
  /-- The list of all bindings holds those of every name once, and nothing else. -/
  toList : t.toList = names.flatMap (t.bindingsOf ·) ∧
    ∀ name, t.toList.filter (·.name = name) = t.bindingsOf name
  /-- The description lists the names in this order, each with its bindings. -/
  outline : ∀ [Outlined V], outline t = .dict (names.map fun name =>
    (name, .list ((t.bindingsOf name).map fun b => .pair (outline b.ident) (outline b.data))))
  /-- The table is empty if there is nothing to visit. -/
  isEmpty : t.isEmpty = true ↔ names = []

/-- **A table is traversed along its chains.** -/
theorem Invariant.traversal {t : NameTable V} (h : t.Invariant) :
    Traversal t (t.chains.map (·.name)) := by
  have hbindings : t.bindings.map some = (t.chains.map (·.name)).map (t.newest? ·) := by
    rw [bindings_eq_map, List.map_map, List.map_map]
    apply List.map_congr_left
    intro c hc
    exact (newest?_name h.ordered hc).symm
  have hfilter : (t.chains.map (·.name)).filterMap (t.newest? ·) = t.bindings := by
    have hid := congrArg (List.filterMap id) hbindings
    rw [List.filterMap_map, List.filterMap_map] at hid
    simpa using hid.symm
  refine ⟨?_, ?_, hbindings, ?_, ?_, ?_, ?_, ?_, ?_, ?_⟩
  · rw [List.pairwise_map]
    exact ordered_iff_pairwise.mp h.ordered
  · intro name
    exact (mem_boundNames_iff h.ordered).symm
  · intro n
    rw [(Walk.calls_ahead _ n).1, Walk.ahead_start]
    apply List.map_congr_left
    intro k _
    rw [List.getElem?_map]
    rcases hc : t.chains[k]? with _ | c
    · rfl
    · exact (newest?_name h.ordered (List.mem_of_getElem? hc)).symm
  · intro m _ visit
    rw [hfilter]
    rfl
  · intro α f a
    rw [hfilter]
    rfl
  · intro α f a
    rw [← toList_eq_flatMap_bindingsOf h.ordered, toList_eq_flatMap, List.foldl_flatMap,
      ← Walk.fold_start]
    rfl
  · exact ⟨toList_eq_flatMap_bindingsOf h.ordered, filter_toList h⟩
  · intro _
    rw [outline_eq_dict, List.map_map]
    congr 1
    apply List.map_congr_left
    intro c hc
    show chainOutline c = (c.name, _)
    rw [bindingsOf_name h.ordered hc]
    rfl
  · rw [isEmpty_eq, List.isEmpty_iff, List.map_eq_nil_iff]

/-- **Traversals are complete, ordered, and agree.** After every history of the empty table the
calls of a walk come to an end. They answer the newest binding of every bound name, once, and the
names ascend; a visit and a fold over the newest bindings see the same, a fold over all bindings
sees the bindings of these names in their order, the description lists them, and a table is empty
if there is nothing to see. -/
theorem traversal_of_updates (us : List (Update V)) :
    let t := (empty : NameTable V).run us
    Traversal t (t.bindings.map (·.name)) := by
  intro t
  rw [map_name_bindings]
  exact (invariant_empty.run us).traversal

end NameTable

end MiddleEnd
