import MiddleEnd.Proofs.Edition.Sharing
import MiddleEnd.Proofs.NameTable.Refinement
import MiddleEnd.Proofs.Runs

/-!
# Lexical scoping

A scope stack never removes a binding: leaving a scope goes back to the table of its entry. That
this is lexical scoping is a statement about whole runs, in which scopes are nested to any depth,
steps may fail, and identifiers are minted in between.

* `Step.binds`, `Step.depthAfter` — what a step has to bind, and where it takes the depth. This is
  all that scoping asks of a step.
* `boundAt` — the binding that step number `n` of a run made, if it made one.
* `OpenSince` — the depth has not gone below that of step `n` since. `live` lists the bindings of
  a run whose scope is still open, newest first.
* `Closes xs e l` — the leave at step `l` closes the scope that the enter at step `e` opened.

`Effect` lists what a step does to the tables of a stack (`effect_step`). `Nested` and `Tracks` are
the invariants that carry the result `lexical_scoping`: the bindings in an outer table are a suffix
of those in every inner one, and the table at every level holds the live bindings made up to that
level. What a scope saved at its entry stays below whatever is saved inside (`suffix_saved_step`),
so that closing it undoes just what happened to the tables since (`Closes.stateAt_succ`).
-/

namespace MiddleEnd

variable {V : Type}

namespace ScopeStack

/-! ## What happens in a run -/

/-- The stack behind the first `k` steps of a run. -/
def stateAt (xs : List (Step V)) (k : Nat) : ScopeStack V :=
  (({} : ScopeStack V).run (xs.take k)).2

/-- The number of open scopes behind the first `k` steps of a run. -/
def depthAt (xs : List (Step V)) (k : Nat) : Nat :=
  (stateAt xs k).depth

/-- The name and the data that a step binds. Identifiers that are not local cannot be bound anew. -/
def Step.binds : Step V → Option (String × V)
  | .bind name data => some (name, data)
  | .rebind i data => if i.isLocal then some (i.name, data) else none
  | _ => none

/-- The depth behind a step, from that before it. -/
def Step.depthAfter : Step V → Nat → Nat
  | .enter, depth => depth + 1
  | .leave, depth => depth - 1
  | _, depth => depth

/-- The binding that a step makes, given its answer. -/
def bindingMade : Step V → Except ScopeError (Option Mint.Reply) → Option (Binding V)
  | .bind _ data, .ok (some (.ident i)) => some ⟨i, data⟩
  | .rebind _ data, .ok (some (.ident i)) => some ⟨i, data⟩
  | _, _ => none

/-- The binding that step number `n` of a run made. -/
def boundAt (xs : List (Step V)) (n : Nat) : Option (Binding V) :=
  xs[n]?.bind fun x => (({} : ScopeStack V).run xs).1[n]?.bind (bindingMade x)

/-- From step `n` to the first `k` steps, the depth has not gone below that of step `n`. -/
def OpenSince (xs : List (Step V)) (n k : Nat) : Prop :=
  ∀ m ≤ k, n ≤ m → depthAt xs n ≤ depthAt xs m

instance (xs : List (Step V)) (n k : Nat) : Decidable (OpenSince xs n k) :=
  inferInstanceAs (Decidable (∀ m ≤ k, n ≤ m → depthAt xs n ≤ depthAt xs m))

/-- The bindings made in the first `k` steps whose scope is open behind them, newest first. -/
def liveAt (xs : List (Step V)) (k : Nat) : List (Binding V) :=
  (List.range k).reverse.filterMap fun n => if OpenSince xs n k then boundAt xs n else none

/-- The bindings of a run whose scope is still open, newest first. -/
def live (xs : List (Step V)) : List (Binding V) :=
  liveAt xs xs.length

/-- The scope that is opened by entering at step `e` is closed by leaving at step `l`: it is open
before, and not behind it. -/
structure Closes (xs : List (Step V)) (e l : Nat) : Prop where
  /-- The scope is opened. -/
  enters : xs[e]? = some .enter
  /-- It is closed. -/
  leaves : xs[l]? = some .leave
  /-- It is opened first. -/
  lt : e < l
  /-- In between it stays open. -/
  inside : ∀ m ≤ l, e < m → depthAt xs e < depthAt xs m
  /-- Afterwards it is not. -/
  outside : depthAt xs (l + 1) ≤ depthAt xs e

/-- The tables of a stack, from the innermost to the outermost. -/
def tables (s : ScopeStack V) : List (NameTable V) :=
  s.table :: s.saved.map (·.table)

/-! ## What a step can do -/

/-- What a step can do to the tables of a stack, with the binding that it makes. -/
inductive Effect (s : ScopeStack V) : Option (Binding V) → ScopeStack V → Prop
  /-- At most an identifier is minted. -/
  | idle (mint : Mint) : Effect s none { s with mint := mint }
  /-- The visible table is saved. -/
  | entered : Effect s none s.enter
  /-- The table that was saved last becomes visible again. -/
  | left (outer : Edition V) (rest : List (Edition V)) (h : s.saved = outer :: rest) :
      Effect s none { s with current := outer, saved := rest }
  /-- A binding is made in the visible table. -/
  | bound (mint : Mint) (b : Binding V) : Effect s (some b) ({ s with mint := mint }.record b)

/-- A binding that is recorded is inserted into the visible table. -/
lemma table_record (s : ScopeStack V) (b : Binding V) : (s.record b).table = s.table.insert b :=
  s.current.table_insert b s.nodes

/-- Without an open scope leaving fails. -/
lemma step_leave_of_nil {s : ScopeStack V} (h : s.saved = []) :
    s.step .leave = (.error .noOpenScope, s) := by
  have hleave : s.leave = (.error .noOpenScope, s) := by simp [leave, h]
  simp only [step, hleave]
  rfl

/-- Leaving goes back to the table that was saved last. -/
lemma step_leave_of_cons {s : ScopeStack V} {outer : Edition V} {rest : List (Edition V)}
    (h : s.saved = outer :: rest) :
    s.step .leave = (.ok none, { s with current := outer, saved := rest }) := by
  have hleave : s.leave = (.ok (), { s with current := outer, saved := rest }) := by
    simp [leave, h]
  simp only [step, hleave]
  rfl

/-- Leaving closes the innermost scope or fails. -/
lemma effect_leave (s : ScopeStack V) :
    Effect s (bindingMade .leave (s.step .leave).1) (s.step .leave).2 := by
  cases h : s.saved with
  | nil =>
      rw [step_leave_of_nil h]
      exact .idle s.mint
  | cons outer rest =>
      rw [step_leave_of_cons h]
      exact .left outer rest h

/-- Binding a local identifier anew is binding its name. -/
lemma step_rebind_of_isLocal (s : ScopeStack V) {i : Ident} (data : V) (hi : i.isLocal) :
    s.step (.rebind i data) = s.step (.bind i.name data) := by
  simp only [step, rebind, Mint.rename, if_pos hi]
  rfl

/-- Other identifiers cannot be bound anew. -/
lemma step_rebind_of_not_isLocal (s : ScopeStack V) {i : Ident} (data : V) (hi : ¬ i.isLocal) :
    s.step (.rebind i data) = (.error (.cannotRebind i.name (.renameNonLocal i.name)), s) := by
  simp only [step, rebind, Mint.rename, if_neg hi]
  rfl

/-- Binding anew makes a binding or fails. -/
lemma effect_rebind (s : ScopeStack V) (i : Ident) (data : V) :
    Effect s (bindingMade (.rebind i data) (s.step (.rebind i data)).1)
      (s.step (.rebind i data)).2 := by
  by_cases hi : i.isLocal
  · rw [step_rebind_of_isLocal s data hi]
    exact .bound _ _
  · rw [step_rebind_of_not_isLocal s data hi]
    exact .idle s.mint

/-- **Every step does one of the four things.** -/
theorem effect_step (s : ScopeStack V) (x : Step V) :
    Effect s (bindingMade x (s.step x).1) (s.step x).2 := by
  cases x with
  | enter => exact .entered
  | leave => exact effect_leave s
  | bind name data => exact .bound _ _
  | rebind i data => exact effect_rebind s i data
  | mint y => exact .idle _

/-- A step that has something to bind makes a binding of it, and no other step makes one. -/
lemma bindingMade_step (s : ScopeStack V) (x : Step V) :
    (bindingMade x (s.step x).1).map (fun b => (b.name, b.data)) = x.binds := by
  cases x with
  | rebind i data =>
      by_cases hi : i.isLocal
      · rw [step_rebind_of_isLocal s data hi, Step.binds, if_pos hi]
        rfl
      · rw [step_rebind_of_not_isLocal s data hi, Step.binds, if_neg hi]
        rfl
  | leave =>
      simp only [step]
      cases s.leave.1 <;> rfl
  | _ => rfl

/-- The binding that step number `n` made is that of its own answer. -/
lemma boundAt_eq (xs : List (Step V)) (n : Nat) :
    boundAt xs n = xs[n]?.bind fun x => bindingMade x ((stateAt xs n).step x).1 := by
  unfold boundAt
  rw [isRun.answer_eq]
  cases xs[n]? <;> rfl

/-- Step number `k` of a run. -/
lemma stateAt_succ {xs : List (Step V)} {k : Nat} {x : Step V} (hx : xs[k]? = some x) :
    stateAt xs (k + 1) = ((stateAt xs k).step x).2 :=
  isRun.state_succ _ hx

/-- Behind the last step nothing happens. -/
lemma stateAt_succ_of_none {xs : List (Step V)} {k : Nat} (hx : xs[k]? = none) :
    stateAt xs (k + 1) = stateAt xs k := by
  rw [stateAt, take_succ_of_none hx, stateAt]

/-- The effect of step number `k` of a run. -/
lemma effect_at {xs : List (Step V)} {k : Nat} {x : Step V} (hx : xs[k]? = some x) :
    Effect (stateAt xs k) (boundAt xs k) (stateAt xs (k + 1)) := by
  rw [boundAt_eq, stateAt_succ hx, hx]
  exact effect_step _ x

/-! ## Nested tables -/

/-- Every table is in order, and what an outer table holds of a name is a suffix of what an inner
one holds. -/
structure Nested (s : ScopeStack V) : Prop where
  /-- The tables are in order. -/
  invariant : ∀ t ∈ s.tables, t.Invariant
  /-- Inner tables extend outer ones. -/
  suffix : s.tables.Pairwise fun inner outer =>
    ∀ name, outer.bindingsOf name <:+ inner.bindingsOf name

/-- A new stack is nested. -/
lemma nested_new : ({} : ScopeStack V).Nested := by
  refine ⟨fun t ht => ?_, List.pairwise_singleton _ _⟩
  rw [List.mem_singleton.mp ht]
  exact NameTable.invariant_empty

/-- A step keeps the tables nested. -/
lemma Effect.nested {s s' : ScopeStack V} {o : Option (Binding V)} (he : Effect s o s')
    (h : s.Nested) : s'.Nested := by
  obtain ⟨hinv, hsuf⟩ := h
  obtain ⟨hhead, htail⟩ := List.pairwise_cons.mp hsuf
  cases he with
  | idle mint => exact ⟨hinv, hsuf⟩
  | entered =>
      refine ⟨fun t ht => ?_, List.pairwise_cons.mpr ⟨fun t ht => ?_, hsuf⟩⟩
      · rcases List.mem_cons.mp ht with rfl | ht
        · exact hinv _ List.mem_cons_self
        · exact hinv t ht
      · rcases List.mem_cons.mp ht with rfl | ht
        · exact fun name => List.suffix_refl _
        · exact hhead t ht
  | left outer rest hs =>
      have htables : s.tables = s.table :: (outer.table :: rest.map (·.table)) := by
        rw [tables, hs, List.map_cons]
      rw [hs, List.map_cons] at htail
      exact ⟨fun t ht => hinv t (htables ▸ List.mem_cons_of_mem _ ht), htail⟩
  | bound mint b =>
      have htable : s.table.Invariant := hinv _ List.mem_cons_self
      refine ⟨fun t ht => ?_, List.pairwise_cons.mpr ⟨fun t ht name => ?_, htail⟩⟩
      · rcases List.mem_cons.mp ht with rfl | ht
        · rw [table_record]
          exact htable.insert b
        · exact hinv t (List.mem_cons_of_mem _ ht)
      · have hinsert : s.table.bindingsOf name <:+ (s.table.insert b).bindingsOf name := by
          rw [NameTable.bindingsOf_insert htable]
          split_ifs
          · exact List.suffix_cons _ _
          · exact List.suffix_refl _
        rw [table_record]
        exact (hhead t ht name).trans hinsert

/-- The tables are nested at every place of a run. -/
lemma nested_stateAt (xs : List (Step V)) (k : Nat) : (stateAt xs k).Nested :=
  isRun.carry {} xs (Nat.zero_le k) nested_new fun _ x _ _ _ h => (effect_step _ x).nested h

/-! ## Live bindings by depth -/

/-- The binding that step number `n` made, with its depth, if it is live behind the first `k`
steps. -/
def entryAt (xs : List (Step V)) (k n : Nat) : Option (Nat × Binding V) :=
  if OpenSince xs n k then (boundAt xs n).map fun b => (depthAt xs n, b) else none

/-- The live bindings behind the first `k` steps, each with the depth at which it was made. -/
def entriesAt (xs : List (Step V)) (k : Nat) : List (Nat × Binding V) :=
  (List.range k).reverse.filterMap (entryAt xs k)

lemma liveAt_eq_map_entriesAt (xs : List (Step V)) (k : Nat) :
    liveAt xs k = (entriesAt xs k).map (·.2) := by
  rw [entriesAt, List.map_filterMap, liveAt]
  congr 1
  funext n
  unfold entryAt
  split_ifs
  · rw [Option.map_map]
    exact Option.map_id'.symm
  · rfl

/-- A scope is open one step later if it is open and the depth has not gone below it. -/
lemma openSince_succ {xs : List (Step V)} {n k : Nat} (hn : n ≤ k) :
    OpenSince xs n (k + 1) ↔ OpenSince xs n k ∧ depthAt xs n ≤ depthAt xs (k + 1) := by
  constructor
  · intro h
    exact ⟨fun m hm => h m (by omega), h (k + 1) (Nat.le_refl _) (by omega)⟩
  · rintro ⟨h, hlast⟩ m hm hnm
    rcases Nat.lt_or_eq_of_le hm with hlt | rfl
    · exact h m (by omega) hnm
    · exact hlast

/-- A live binding stays so for one more step unless the depth goes below its own. -/
lemma entryAt_succ_of_lt {xs : List (Step V)} {n k : Nat} (hn : n < k) :
    entryAt xs (k + 1) n = (entryAt xs k n).filter (·.1 ≤ depthAt xs (k + 1)) := by
  unfold entryAt
  rw [if_congr (openSince_succ (Nat.le_of_lt hn)) rfl rfl]
  by_cases ho : OpenSince xs n k
  · cases boundAt xs n with
    | none => simp
    | some b =>
        by_cases hd : depthAt xs n ≤ depthAt xs (k + 1) <;> simp [ho, hd, Option.filter]
  · simp [ho]

/-- The binding of a step is live behind it unless the step closes a scope. -/
lemma entryAt_succ_self (xs : List (Step V)) (k : Nat) :
    entryAt xs (k + 1) k =
      if depthAt xs k ≤ depthAt xs (k + 1) then (boundAt xs k).map fun b => (depthAt xs k, b)
      else none := by
  have hself : OpenSince xs k k := by
    intro m hm hkm
    rw [Nat.le_antisymm hm hkm]
  unfold entryAt
  rw [if_congr ((openSince_succ (Nat.le_refl k)).trans (and_iff_right hself)) rfl rfl]

/-- The live bindings after one more step: the one that it makes, before those whose depth is still
reached. -/
def advance (es : List (Nat × Binding V)) (before : Nat) (o : Option (Binding V)) (after : Nat) :
    List (Nat × Binding V) :=
  (if before ≤ after then o.map fun b => (before, b) else none).toList ++
    es.filter (·.1 ≤ after)

/-- One more step. -/
lemma entriesAt_succ (xs : List (Step V)) (k : Nat) :
    entriesAt xs (k + 1) =
      advance (entriesAt xs k) (depthAt xs k) (boundAt xs k) (depthAt xs (k + 1)) := by
  have hold : (List.range k).reverse.filterMap (entryAt xs (k + 1)) =
      (entriesAt xs k).filter (·.1 ≤ depthAt xs (k + 1)) := by
    rw [entriesAt, List.filter_filterMap]
    apply List.filterMap_congr
    intro n hn
    exact entryAt_succ_of_lt (List.mem_range.mp (List.mem_reverse.mp hn))
  rw [entriesAt, List.range_succ, List.reverse_append, List.filterMap_append, hold, advance,
    ← entryAt_succ_self]
  congr 1

/-! ## Tables and live bindings -/

/-- The entries of a name that were made outside of the `n` innermost scopes of `depth`. -/
def outside (es : List (Nat × Binding V)) (depth n : Nat) (name : String) : List (Binding V) :=
  ((es.filter (·.1 + n ≤ depth)).map (·.2)).filter (·.name = name)

/-- The tables of a stack hold the live bindings, each table those made outside of the scopes that
were entered since. -/
structure Tracks (es : List (Nat × Binding V)) (s : ScopeStack V) : Prop where
  /-- No live binding was made in a deeper scope than the innermost open one. -/
  shallow : ∀ p ∈ es, p.1 ≤ s.depth
  /-- What the tables hold. -/
  holds : ∀ n t, s.tables[n]? = some t → ∀ name, t.bindingsOf name = outside es s.depth n name

/-- In a new stack nothing is live. -/
lemma tracks_new : Tracks [] ({} : ScopeStack V) := by
  refine ⟨nofun, fun n t ht name => ?_⟩
  cases n with
  | zero =>
      cases ht
      rfl
  | succ n => cases ht

/-- Entries that no scope is deeper than all stay. -/
lemma filter_eq_self_of_shallow {es : List (Nat × Binding V)} {depth after : Nat}
    (h : ∀ p ∈ es, p.1 ≤ depth) (hle : depth ≤ after) : es.filter (·.1 ≤ after) = es := by
  rw [List.filter_eq_self]
  intro p hp
  exact decide_eq_true ((h p hp).trans hle)

/-- Where no binding is made and no scope is closed, all entries stay. -/
lemma advance_none_of_le {es : List (Nat × Binding V)} {depth after : Nat}
    (h : ∀ p ∈ es, p.1 ≤ depth) (hle : depth ≤ after) : advance es depth none after = es := by
  simp [advance, filter_eq_self_of_shallow h hle]

section effect

variable {s : ScopeStack V} {es : List (Nat × Binding V)}

/-- Entering a scope repeats the innermost table. -/
lemma Tracks.enter (h : Tracks es s) :
    Tracks (advance es s.depth none s.enter.depth) s.enter := by
  have hdepth : s.enter.depth = s.depth + 1 := rfl
  rw [hdepth, advance_none_of_le h.shallow (Nat.le_succ _)]
  refine ⟨fun p hp => Nat.le_succ_of_le (h.shallow p hp), fun n t ht name => ?_⟩
  rw [hdepth]
  cases n with
  | zero =>
      rw [h.holds 0 t ht, outside, outside]
      have hsame := filter_eq_self_of_shallow h.shallow (Nat.le_refl s.depth)
      have hsucc := filter_eq_self_of_shallow h.shallow (Nat.le_succ s.depth)
      simp only [Nat.add_zero]
      rw [hsame, hsucc]
  | succ n =>
      rw [h.holds n t ht, outside, outside]
      simp only [← Nat.add_assoc, Nat.add_le_add_iff_right]

/-- Leaving a scope drops the innermost table, and the entries made in the scope. -/
lemma Tracks.leave (h : Tracks es s) {outer : Edition V} {rest : List (Edition V)}
    (hs : s.saved = outer :: rest) :
    Tracks (advance es s.depth none { s with current := outer, saved := rest }.depth)
      { s with current := outer, saved := rest } := by
  have hdepth : s.depth = rest.length + 1 := by rw [depth, hs, List.length_cons]
  have hadvance : advance es s.depth none rest.length = es.filter (·.1 ≤ rest.length) := by
    simp [advance]
  have htables : s.tables = s.table :: (outer.table :: rest.map (·.table)) := by
    rw [tables, hs, List.map_cons]
  change Tracks (advance es s.depth none rest.length) _
  rw [hadvance]
  refine ⟨fun p hp => ?_, fun n t ht name => ?_⟩
  · exact of_decide_eq_true (List.mem_filter.mp hp).2
  · have ht' : s.tables[n + 1]? = some t := by rw [htables]; exact ht
    rw [h.holds (n + 1) t ht', hdepth]
    change _ = outside _ rest.length n name
    rw [outside, outside, List.filter_filter]
    congr 3
    funext p
    rw [← Bool.decide_and]
    exact decide_eq_decide.mpr (by omega)

/-- Binding adds an entry at the innermost depth, and to the innermost table. -/
lemma Tracks.record (h : Tracks es s) (hn : s.Nested) (mint : Mint) (b : Binding V) :
    Tracks (advance es s.depth (some b) ({ s with mint := mint }.record b).depth)
      ({ s with mint := mint }.record b) := by
  have hadvance : advance es s.depth (some b) s.depth = (s.depth, b) :: es := by
    simp [advance, filter_eq_self_of_shallow h.shallow (Nat.le_refl _)]
  change Tracks (advance es s.depth (some b) s.depth) _
  rw [hadvance]
  refine ⟨fun p hp => ?_, fun n t ht name => ?_⟩
  · rcases List.mem_cons.mp hp with rfl | hp
    · exact Nat.le_refl _
    · exact h.shallow p hp
  · change _ = outside _ s.depth n name
    cases n with
    | zero =>
        cases ht
        rw [table_record]
        change (s.table.insert b).bindingsOf name = _
        rw [NameTable.bindingsOf_insert (hn.invariant _ List.mem_cons_self), h.holds 0 _ rfl,
          outside, outside]
        by_cases hname : b.name = name <;> simp [hname]
    | succ n =>
        have hdeep : ¬ s.depth + (n + 1) ≤ s.depth := by omega
        rw [h.holds (n + 1) t ht, outside, outside, List.filter_cons_of_neg (by simp)]

/-- A step keeps track of the live bindings. -/
lemma Tracks.effect (h : Tracks es s) (hn : s.Nested) {o : Option (Binding V)} {s' : ScopeStack V}
    (he : Effect s o s') : Tracks (advance es s.depth o s'.depth) s' := by
  cases he with
  | idle mint =>
      change Tracks (advance es s.depth none s.depth) _
      rw [advance_none_of_le h.shallow (Nat.le_refl _)]
      exact ⟨h.shallow, h.holds⟩
  | entered => exact h.enter
  | left outer rest hs => exact h.leave hs
  | bound mint b => exact h.record hn mint b

end effect

/-- The tables hold the live bindings at every place of a run. -/
lemma tracks_stateAt (xs : List (Step V)) (k : Nat) : Tracks (entriesAt xs k) (stateAt xs k) := by
  induction k with
  | zero => exact tracks_new
  | succ k ih =>
      rw [entriesAt_succ]
      cases hx : xs[k]? with
      | some x => exact ih.effect (nested_stateAt xs k) (effect_at hx)
      | none =>
          have hbound : boundAt xs k = none := by rw [boundAt_eq, hx, Option.bind_none]
          rw [hbound, depthAt, depthAt, stateAt_succ_of_none hx,
            advance_none_of_le ih.shallow (Nat.le_refl _)]
          exact ih

/-- The visible bindings of a name are its live ones. -/
lemma bindingsOf_stateAt (xs : List (Step V)) (k : Nat) (name : String) :
    (stateAt xs k).table.bindingsOf name = (liveAt xs k).filter (·.name = name) := by
  have h := tracks_stateAt xs k
  rw [h.holds 0 _ rfl, outside, liveAt_eq_map_entriesAt]
  simp only [Nat.add_zero]
  rw [filter_eq_self_of_shallow h.shallow (Nat.le_refl _)]

/-! ## Leaving -/

/-- What a step does to the saved tables. -/
lemma saved_step (s : ScopeStack V) (x : Step V) :
    (s.step x).2.saved =
      match x with
      | .enter => s.current :: s.saved
      | .leave => s.saved.tail
      | _ => s.saved := by
  cases x with
  | leave =>
      cases hs : s.saved with
      | nil => rw [step_leave_of_nil hs, hs, List.tail_nil]
      | cons outer rest => rw [step_leave_of_cons hs, List.tail_cons]
  | rebind i data =>
      by_cases hi : i.isLocal
      · rw [step_rebind_of_isLocal s data hi]
        rfl
      · rw [step_rebind_of_not_isLocal s data hi]
  | _ => rfl

/-- What a step does to the depth. -/
lemma depth_step (s : ScopeStack V) (x : Step V) : (s.step x).2.depth = x.depthAfter s.depth := by
  unfold depth
  rw [saved_step]
  cases x with
  | leave => exact List.length_tail
  | _ => rfl

/-- The depth behind every step of a run. -/
lemma depthAt_succ {xs : List (Step V)} {k : Nat} {x : Step V} (hx : xs[k]? = some x) :
    depthAt xs (k + 1) = x.depthAfter (depthAt xs k) := by
  rw [depthAt, stateAt_succ hx]
  exact depth_step _ x

/-- Only entering makes the stack deeper. -/
lemma Step.eq_enter_of_lt_depthAfter {x : Step V} {depth : Nat} (h : depth < x.depthAfter depth) :
    x = .enter := by
  cases x with
  | enter => rfl
  | leave => exact absurd h (Nat.not_lt.mpr (Nat.sub_le depth 1))
  | _ => exact absurd h (Nat.lt_irrefl depth)

/-- Every open scope was opened by entering, and has been open since. -/
lemma exists_enter (xs : List (Step V)) (k : Nat) {d : Nat} (hd : d < depthAt xs k) :
    ∃ e < k, xs[e]? = some .enter ∧ depthAt xs e = d ∧
      ∀ m ≤ k, e < m → d < depthAt xs m := by
  induction k with
  | zero => exact absurd hd (Nat.not_lt_zero d)
  | succ k ih =>
      by_cases hk : d < depthAt xs k
      · obtain ⟨e, hek, hx, hdepth, hinside⟩ := ih hk
        refine ⟨e, Nat.lt_succ_of_lt hek, hx, hdepth, fun m hm hem => ?_⟩
        rcases Nat.lt_or_eq_of_le hm with hlt | rfl
        · exact hinside m (Nat.lt_succ_iff.mp hlt) hem
        · exact hd
      · -- The scope is new: it is the one that step number `k` opens.
        cases hx : xs[k]? with
        | none =>
            rw [depthAt, stateAt_succ_of_none hx] at hd
            exact absurd hd hk
        | some x =>
            have hle : depthAt xs k ≤ d := Nat.le_of_not_lt hk
            have hsucc := depthAt_succ hx
            have henter : x = .enter :=
              Step.eq_enter_of_lt_depthAfter (hsucc ▸ Nat.lt_of_le_of_lt hle hd)
            subst henter
            have hdepth : depthAt xs k = d := by
              rw [hsucc, Step.depthAfter] at hd
              omega
            refine ⟨k, Nat.lt_succ_self k, hx, hdepth, fun m hm hkm => ?_⟩
            rwa [Nat.le_antisymm hm hkm]

/-- Leaving with a scope open closes the scope of some enter. -/
lemma exists_closes {xs : List (Step V)} {l : Nat} (hx : xs[l]? = some .leave)
    (hopen : 0 < depthAt xs l) : ∃ e, Closes xs e l := by
  obtain ⟨e, hlt, henter, hdepth, hinside⟩ :=
    exists_enter xs l (d := depthAt xs l - 1) (Nat.sub_lt hopen Nat.one_pos)
  refine ⟨e, henter, hx, hlt, ?_, ?_⟩
  · rwa [hdepth]
  · rw [depthAt_succ hx, hdepth]
    exact Nat.le_refl _

/-- What was saved outside of a scope stays saved while the scope is open. -/
lemma suffix_saved_step {s : ScopeStack V} {x : Step V} {base : List (Edition V)}
    (h : base <:+ s.saved) (hopen : base.length ≤ (s.step x).2.depth) :
    base <:+ (s.step x).2.saved := by
  unfold depth at hopen
  rw [saved_step] at hopen ⊢
  cases x with
  | enter => exact h.trans (List.suffix_cons _ _)
  | leave =>
      cases hs : s.saved with
      | nil => rwa [hs] at h
      | cons outer rest =>
          rw [hs] at h hopen
          rcases List.suffix_cons_iff.mp h with rfl | hrest
          · exact absurd hopen (Nat.not_succ_le_self _)
          · exact hrest
  | _ => exact h

/-- Before a scope is closed, its entry is what was saved last. -/
lemma Closes.saved_eq {xs : List (Step V)} {e l : Nat} (h : Closes xs e l) :
    (stateAt xs l).saved = (stateAt xs e).current :: (stateAt xs e).saved := by
  have hentered : (stateAt xs (e + 1)).saved = (stateAt xs e).current :: (stateAt xs e).saved := by
    rw [stateAt_succ h.enters, saved_step]
  have hsuffix : (stateAt xs e).current :: (stateAt xs e).saved <:+ (stateAt xs l).saved := by
    refine isRun.carry {} xs (P := fun t => _ <:+ t.saved) (j := e + 1) h.lt ?_ ?_
    · exact hentered ▸ List.suffix_refl _
    · intro m x hm hml hx hsuf
      refine suffix_saved_step hsuf ?_
      have hdeep := h.inside (m + 1) hml (by omega)
      rw [depthAt, depthAt, stateAt_succ hx] at hdeep
      exact hdeep
  have hlength : depthAt xs l - 1 ≤ depthAt xs e := by
    have hafter := h.outside
    rw [depthAt_succ h.leaves] at hafter
    exact hafter
  refine (hsuffix.eq_of_length_le ?_).symm
  rw [List.length_cons]
  exact Nat.sub_le_iff_le_add.mp hlength

/-- Closing a scope undoes all that happened to the tables since its entry, and nothing else. -/
lemma Closes.stateAt_succ {xs : List (Step V)} {e l : Nat} (h : Closes xs e l) :
    stateAt xs (l + 1) =
      { stateAt xs l with current := (stateAt xs e).current, saved := (stateAt xs e).saved } := by
  rw [ScopeStack.stateAt_succ h.leaves, step_leave_of_cons h.saved_eq]

/-- Leaving without an open scope changes nothing. -/
lemma stateAt_succ_of_leave_of_depthAt_eq_zero {xs : List (Step V)} {l : Nat}
    (hx : xs[l]? = some .leave) (hopen : depthAt xs l = 0) :
    stateAt xs (l + 1) = stateAt xs l := by
  rw [stateAt_succ hx, step_leave_of_nil (List.eq_nil_of_length_eq_zero hopen)]

/-- **Scope stacks implement lexical scoping.** Behind every run of a new stack

* the bindings of a name in an outer table are a suffix of those in every inner one;
* entering has opened a scope, leaving has closed one if there was one, and no other step has
  changed the depth;
* the steps that have something to bind, and only they, have made a binding of it, and the visible
  bindings of a name are those among them whose scope is still open, newest first; looking the name
  up answers the data of the first;
* leaving without an open scope has changed nothing; with one, it has closed the scope of some
  enter, and behind it the table is the very same as at that enter, the depth is that before it, and
  the mint is that before leaving. -/
theorem lexical_scoping (xs : List (Step V)) :
    let s := (({} : ScopeStack V).run xs).2
    (s.tables.Pairwise fun inner outer =>
      ∀ name, outer.bindingsOf name <:+ inner.bindingsOf name) ∧
    (∀ n x, xs[n]? = some x → depthAt xs (n + 1) = x.depthAfter (depthAt xs n)) ∧
    (∀ n, (boundAt xs n).map (fun b => (b.name, b.data)) = xs[n]?.bind Step.binds) ∧
    (∀ name,
      s.table.bindingsOf name = (live xs).filter (·.name = name) ∧
      s.lookup name = ((live xs).filter (·.name = name)).head?.map (·.data)) ∧
    (∀ l, xs[l]? = some .leave →
      (depthAt xs l = 0 ∧ stateAt xs (l + 1) = stateAt xs l) ∨ ∃ e, Closes xs e l) ∧
    ∀ e l, Closes xs e l →
      (stateAt xs (l + 1)).current = (stateAt xs e).current ∧
      (stateAt xs (l + 1)).current.sharesRoot (stateAt xs e).current = true ∧
      depthAt xs (l + 1) = depthAt xs e ∧
      (stateAt xs (l + 1)).mint = (stateAt xs l).mint := by
  intro s
  have hs : s = stateAt xs xs.length := by rw [stateAt, List.take_length]
  have hvisible : ∀ name, s.table.bindingsOf name = (live xs).filter (·.name = name) := by
    rw [hs]
    exact bindingsOf_stateAt xs xs.length
  refine ⟨?_, fun n x hx => depthAt_succ hx, fun n => ?_, fun name => ⟨hvisible name, ?_⟩,
    fun l hx => ?_, fun e l h => ?_⟩
  · rw [hs]
    exact (nested_stateAt xs xs.length).suffix
  · rw [boundAt_eq, Option.map_bind]
    congr 1
    funext x
    exact bindingMade_step _ x
  · rw [lookup, NameTable.newest?_eq_head?, NameTable.meaning, hvisible]
  · rcases Nat.eq_zero_or_pos (depthAt xs l) with hzero | hopen
    · exact .inl ⟨hzero, stateAt_succ_of_leave_of_depthAt_eq_zero hx hzero⟩
    · exact .inr (exists_closes hx hopen)
  · have hback := h.stateAt_succ
    have hcurrent : (stateAt xs (l + 1)).current = (stateAt xs e).current := by rw [hback]
    refine ⟨hcurrent, ?_, ?_, ?_⟩
    · rw [hcurrent, Edition.sharesRoot_self]
    · rw [depthAt, hback]
      rfl
    · rw [hback]

/-- Two scopes, one inside the other, with a failing leave before them and a failing rebind
behind the inner one: leaving the outer one brings the first binding of `x` back, and the counter
of the mint stays. -/
theorem lexical_scoping_two_scopes :
    let xs : List (Step Nat) :=
      [.leave, .bind "x" 1, .enter, .bind "x" 2, .enter, .rebind (.unitLocal "x" 2) 3, .leave,
        .rebind (.global "x") 4, .mint .reset, .leave]
    let s := (({} : ScopeStack Nat).run xs).2
    Closes xs 4 6 ∧ Closes xs 2 9 ∧
      (stateAt xs 7).current = (stateAt xs 4).current ∧ s.current = (stateAt xs 2).current ∧
      s.depth = 0 ∧ s.mint.current = 3 ∧
      s.table.bindingsOf "x" = [⟨.unitLocal "x" 1, 1⟩] ∧ s.lookup "x" = some 1 := by
  intro xs s
  have hinner : Closes xs 4 6 := ⟨rfl, rfl, by decide, by decide, by decide⟩
  have houter : Closes xs 2 9 := ⟨rfl, rfl, by decide, by decide, by decide⟩
  obtain ⟨-, -, -, hlive, -, hback⟩ := lexical_scoping xs
  obtain ⟨hvisible, hlookup⟩ := hlive "x"
  have hx : (live xs).filter (·.name = "x") = [⟨.unitLocal "x" 1, 1⟩] := by decide
  exact ⟨hinner, houter, (hback 4 6 hinner).1, (hback 2 9 houter).1, (hback 2 9 houter).2.2.1,
    rfl, hvisible.trans hx, by rw [hlookup, hx]; rfl⟩

end ScopeStack

end MiddleEnd
