import Mathlib.Data.List.Nodup
import MiddleEnd.Proofs.ScopeStack.Scoping
import MiddleEnd.Proofs.Session.Identity

/-!
# Resolving identifiers in scopes

Looking a name up finds its newest binding. Looking an identifier up finds its own binding, however
often the name was bound again, as long as no other binding in sight has its stamp. This is a
statement about the counter of locals over a whole run:

* `Move` lists what a step can do to the counter and to the checkpoint (`move_step`).
* `NeverWraps` — no step of a run moves the counter past its end; a run of fewer than `2 ^ 63`
  steps never does (`neverWraps_of_length_lt`).
* With one reset at the most the counter never goes back (`current_mono`), and every step that
  binds takes the next stamp (`Fresh`). So later bindings have greater stamps
  (`stamp_lt_of_boundAt`), and the live bindings of a run descend by stamp (`pairwise_liveAt`).

All tables of a stack hold live bindings only (`sublist_liveAt`), which gives
`identity_resolution`: an identifier that a run bound is resolved to its data exactly while its
scope is open, and no table holds a stamp twice.
-/

namespace MiddleEnd.ScopeStack

variable {V : Type}

/-! ## What a step does to the counter -/

/-- Whether a step resets the mint. -/
def Step.isReset : Step V → Bool
  | .mint .reset => true
  | _ => false

/-- What a step can do to the counter of locals and to the checkpoint. -/
inductive Move (m : Mint) (x : Step V) : Stamp → Option Stamp → Prop
  /-- No stamp is drawn. -/
  | rested : Move m x m.current m.checkpoint
  /-- The next stamp is drawn. -/
  | drew : Move m x (m.current + 1) m.checkpoint
  /-- The checkpoint is recorded. -/
  | recorded (hx : x.isReset = true) (hc : m.checkpoint = none) :
      Move m x m.current (some m.current)
  /-- The counter goes back to the checkpoint. -/
  | restored (level : Stamp) (hx : x.isReset = true) (hc : m.checkpoint = some level) :
      Move m x level (some level)

/-- A reset records the checkpoint or goes back to it. -/
lemma move_reset (s : ScopeStack V) :
    Move s.mint (.mint .reset : Step V) (s.step (.mint .reset)).2.mint.current
      (s.step (.mint .reset)).2.mint.checkpoint := by
  change Move _ _ s.mint.reset.2.current s.mint.reset.2.checkpoint
  unfold Mint.reset
  cases hc : s.mint.checkpoint with
  | none => exact .recorded rfl hc
  | some level =>
      have hrestored := Move.restored (x := (.mint .reset : Step V)) level rfl hc
      simpa only [hc] using hrestored

/-- Renaming draws a stamp or fails. -/
lemma move_rename (s : ScopeStack V) (i : Ident) :
    Move s.mint (.mint (.rename i) : Step V) (s.step (.mint (.rename i))).2.mint.current
      (s.step (.mint (.rename i))).2.mint.checkpoint := by
  change Move _ _ (s.mint.rename i).2.current (s.mint.rename i).2.checkpoint
  unfold Mint.rename
  split
  · exact .drew
  · exact .rested

/-- **Every step does what is listed.** -/
theorem move_step (s : ScopeStack V) (x : Step V) :
    Move s.mint x (s.step x).2.mint.current (s.step x).2.mint.checkpoint := by
  cases x with
  | enter => exact .rested
  | leave =>
      cases hs : s.saved with
      | nil => rw [step_leave_of_nil hs]; exact .rested
      | cons outer rest => rw [step_leave_of_cons hs]; exact .rested
  | bind name data => exact .drew
  | rebind i data =>
      by_cases hi : i.isLocal
      · rw [step_rebind_of_isLocal s data hi]; exact .drew
      · rw [step_rebind_of_not_isLocal s data hi]; exact .rested
  | mint y =>
      cases y with
      | mintLocal name => exact .drew
      | mintScoped name scope => exact .drew
      | mintBuiltIn name => exact .rested
      | rename i => exact move_rename s i
      | reset => exact move_reset s

/-- A binding takes the stamp that the counter shows behind the step. -/
structure Fresh (m m' : Mint) (b : Binding V) : Prop where
  /-- A local identifier is bound. -/
  ident_eq : b.ident = .unitLocal b.name m'.current
  /-- Its stamp is new. -/
  current_eq : m'.current = m.current + 1

/-- A step that makes a binding draws a stamp for it. -/
lemma fresh_of_bindingMade {s : ScopeStack V} {x : Step V} {b : Binding V}
    (h : bindingMade x (s.step x).1 = some b) : Fresh s.mint (s.step x).2.mint b := by
  cases x with
  | enter => cases h
  | leave =>
      cases hs : s.saved with
      | nil => rw [step_leave_of_nil hs] at h; cases h
      | cons outer rest => rw [step_leave_of_cons hs] at h; cases h
  | bind name data => cases h; exact ⟨rfl, rfl⟩
  | rebind i data =>
      by_cases hi : i.isLocal
      · rw [step_rebind_of_isLocal s data hi] at h ⊢
        cases h
        exact ⟨rfl, rfl⟩
      · rw [step_rebind_of_not_isLocal s data hi] at h
        cases h
  | mint y => cases h

/-! ## A counter that never goes back -/

/-- No step of a run moves the counter of locals past its end. -/
def NeverWraps (xs : List (Step V)) : Prop :=
  ∀ n < xs.length, (stateAt xs (n + 1)).mint.current = (stateAt xs n).mint.current + 1 →
    (stateAt xs n).mint.current < (stateAt xs (n + 1)).mint.current

/-- The counter goes back in a restoring reset only. -/
lemma Move.current_le {m : Mint} {x : Step V} {current : Stamp} {checkpoint : Option Stamp}
    (h : Move m x current checkpoint) (hw : current = m.current + 1 → m.current < current)
    (hx : x.isReset = true → m.checkpoint = none) : m.current ≤ current := by
  cases h with
  | rested => exact Int64.le_refl _
  | drew => exact Int64.le_of_lt (hw rfl)
  | recorded _ _ => exact Int64.le_refl _
  | restored level hreset hc => cases (hx hreset).symm.trans hc

/-- The checkpoint changes in a reset only. -/
lemma Move.checkpoint_eq {m : Mint} {x : Step V} {current : Stamp} {checkpoint : Option Stamp}
    (h : Move m x current checkpoint) (hx : ¬ x.isReset = true) : checkpoint = m.checkpoint := by
  cases h with
  | rested => rfl
  | drew => rfl
  | recorded hreset _ => exact absurd hreset hx
  | restored level hreset _ => exact absurd hreset hx

/-- Every step of a run does what is listed. -/
lemma move_stateAt {xs : List (Step V)} {k : Nat} {x : Step V} (hx : xs[k]? = some x) :
    Move (stateAt xs k).mint x (stateAt xs (k + 1)).mint.current
      (stateAt xs (k + 1)).mint.checkpoint := by
  rw [stateAt_succ hx]
  exact move_step _ x

/-- Behind the first `k` steps there is no checkpoint if there was no reset among them. -/
lemma checkpoint_eq_none (xs : List (Step V)) (k : Nat) :
    (xs.take k).countP Step.isReset = 0 → (stateAt xs k).mint.checkpoint = none := by
  induction k with
  | zero => intro _; rfl
  | succ k ih =>
      intro hcount
      cases hx : xs[k]? with
      | none =>
          rw [take_succ_of_none hx] at hcount
          rw [stateAt_succ_of_none hx]
          exact ih hcount
      | some x =>
          rw [List.take_add_one, hx, Option.toList_some, List.countP_append,
            List.countP_singleton] at hcount
          have hreset : ¬ x.isReset = true := by
            intro hreset
            rw [if_pos hreset] at hcount
            omega
          rw [(move_stateAt hx).checkpoint_eq hreset]
          exact ih (by omega)

/-- The only reset of a run finds no checkpoint. -/
lemma checkpoint_eq_none_of_isReset {xs : List (Step V)} (hr : xs.countP Step.isReset ≤ 1)
    {k : Nat} {x : Step V} (hx : xs[k]? = some x) (hreset : x.isReset = true) :
    (stateAt xs k).mint.checkpoint = none := by
  apply checkpoint_eq_none
  have hle : (xs.take (k + 1)).countP Step.isReset ≤ 1 :=
    ((List.take_sublist _ _).countP_le).trans hr
  rw [List.take_add_one, hx, Option.toList_some, List.countP_append, List.countP_singleton,
    if_pos hreset] at hle
  omega

section run

variable {xs : List (Step V)}

/-- With one reset at the most, the counter of locals never goes back. -/
lemma current_mono (hw : NeverWraps xs) (hr : xs.countP Step.isReset ≤ 1) {j k : Nat}
    (hjk : j ≤ k) : (stateAt xs j).mint.current ≤ (stateAt xs k).mint.current := by
  refine isRun.carry {} xs (P := fun t => (stateAt xs j).mint.current ≤ t.mint.current) hjk
    (Int64.le_refl _) fun m x _ _ hx hle => ?_
  have hlt : m < xs.length := (List.getElem?_eq_some_iff.mp hx).1
  have hwrap := hw m hlt
  rw [stateAt_succ hx] at hwrap
  exact Int64.le_trans hle
    ((move_step _ x).current_le hwrap (checkpoint_eq_none_of_isReset hr hx))

/-- The step that made a binding drew the stamp for it. -/
lemma fresh_of_boundAt {n : Nat} {b : Binding V} (h : boundAt xs n = some b) :
    n < xs.length ∧ Fresh (stateAt xs n).mint (stateAt xs (n + 1)).mint b := by
  rw [boundAt_eq] at h
  obtain ⟨x, hx, hb⟩ := Option.bind_eq_some_iff.mp h
  refine ⟨(List.getElem?_eq_some_iff.mp hx).1, ?_⟩
  rw [stateAt_succ hx]
  exact fresh_of_bindingMade hb

/-- The stamp of a binding lies above the counter before the step that made it, and is the counter
behind it. -/
lemma stamp_of_boundAt (hw : NeverWraps xs) {n : Nat} {b : Binding V}
    (h : boundAt xs n = some b) :
    (stateAt xs n).mint.current < b.ident.stamp ∧
      b.ident.stamp = (stateAt xs (n + 1)).mint.current := by
  obtain ⟨hn, hfresh⟩ := fresh_of_boundAt h
  have hstamp : b.ident.stamp = (stateAt xs (n + 1)).mint.current := by
    rw [hfresh.ident_eq, Ident.stamp]
  exact ⟨hstamp ▸ hw n hn hfresh.current_eq, hstamp⟩

variable (hw : NeverWraps xs) (hr : xs.countP Step.isReset ≤ 1)

include hw hr

/-- Of two bindings, the later one has the greater stamp. -/
lemma stamp_lt_of_boundAt {j k : Nat} (hjk : j < k) {a b : Binding V}
    (ha : boundAt xs j = some a) (hb : boundAt xs k = some b) : a.ident.stamp < b.ident.stamp := by
  have hle : a.ident.stamp ≤ (stateAt xs k).mint.current := by
    rw [(stamp_of_boundAt hw ha).2]
    exact current_mono hw hr hjk
  exact Int64.lt_of_le_of_lt hle (stamp_of_boundAt hw hb).1

/-- Bindings with one stamp were made by one step. -/
lemma eq_of_stamp_eq {j k : Nat} {a b : Binding V} (ha : boundAt xs j = some a)
    (hb : boundAt xs k = some b) (hab : a.ident.stamp = b.ident.stamp) : j = k := by
  rcases Nat.lt_trichotomy j k with hlt | heq | hgt
  · exact absurd (hab ▸ stamp_lt_of_boundAt hw hr hlt ha hb) Int64.lt_irrefl
  · exact heq
  · exact absurd (hab ▸ stamp_lt_of_boundAt hw hr hgt hb ha) Int64.lt_irrefl

/-- The stamp of a binding lies between one and the counter at every later place of the run. -/
lemma stamp_bounds {n k : Nat} (hnk : n < k) {b : Binding V} (h : boundAt xs n = some b) :
    1 ≤ b.ident.stamp ∧ b.ident.stamp ≤ (stateAt xs k).mint.current := by
  obtain ⟨hlt, heq⟩ := stamp_of_boundAt hw h
  have hstart : (stateAt xs 0).mint.current = 0 := rfl
  have hpos : (stateAt xs 0).mint.current < b.ident.stamp :=
    Int64.lt_of_le_of_lt (current_mono hw hr (Nat.zero_le n)) hlt
  constructor
  · rw [hstart, Int64.lt_iff_toInt_lt, Int64.toInt_zero] at hpos
    rw [Int64.le_iff_toInt_le, Int64.toInt_one]
    exact hpos
  · rw [heq]
    exact current_mono hw hr hnk

end run

/-! ## Live bindings by stamp -/

/-- A live binding was made by some step whose scope is open. -/
lemma mem_liveAt {xs : List (Step V)} {k : Nat} {b : Binding V} :
    b ∈ liveAt xs k ↔ ∃ n < k, OpenSince xs n k ∧ boundAt xs n = some b := by
  simp only [liveAt, List.mem_filterMap, List.mem_reverse, List.mem_range,
    Option.ite_none_right_eq_some]

/-- Live bindings descend by stamp, from the newest to the oldest. -/
lemma pairwise_liveAt {xs : List (Step V)} (hw : NeverWraps xs)
    (hr : xs.countP Step.isReset ≤ 1) (k : Nat) :
    (liveAt xs k).Pairwise fun newer older => older.ident.stamp < newer.ident.stamp := by
  rw [liveAt, List.pairwise_filterMap, List.pairwise_reverse]
  refine List.pairwise_lt_range.imp fun {j n} hjn newer hnewer older holder => ?_
  exact stamp_lt_of_boundAt hw hr hjn (Option.ite_none_right_eq_some.mp holder).2
    (Option.ite_none_right_eq_some.mp hnewer).2

/-- Every table of a stack holds live bindings, in their order. -/
lemma sublist_liveAt (xs : List (Step V)) (k : Nat) {t : NameTable V}
    (ht : t ∈ (stateAt xs k).tables) (name : String) :
    (t.bindingsOf name).Sublist (liveAt xs k) := by
  obtain ⟨n, hn⟩ := List.mem_iff_getElem?.mp ht
  rw [(tracks_stateAt xs k).holds n t hn, outside, liveAt_eq_map_entriesAt]
  exact List.filter_sublist.trans (List.filter_sublist.map _)

/-- In a table of live bindings that descend by stamp, no stamp occurs twice. -/
lemma nodup_stamps {t : NameTable V} (ht : t.Invariant)
    (hdesc : ∀ name, (t.bindingsOf name).Pairwise
      fun newer older => older.ident.stamp < newer.ident.stamp)
    (hinj : ∀ a ∈ t.toList, ∀ b ∈ t.toList, a.ident.stamp = b.ident.stamp → a = b) :
    (t.toList.map (·.ident.stamp)).Nodup := by
  refine List.Nodup.map_on hinj ?_
  rw [NameTable.toList_eq_flatMap, List.nodup_flatMap]
  constructor
  · intro c hc
    have hchain : t.bindingsOf c.name = c.toList := by
      rw [NameTable.bindingsOf_eq_entries,
        (NameTable.chain?_eq_some_iff ht.ordered).mpr ⟨hc, rfl⟩, Chain.entries_some]
    have hpair := hdesc c.name
    rw [hchain] at hpair
    refine List.Pairwise.imp (fun {a b} hlt => ?_) hpair
    rintro rfl
    exact Int64.lt_irrefl hlt
  · -- two chains have different names, and a binding is in the chain of its name only
    have hnames := NameTable.ordered_iff_pairwise.mp ht.ordered
    refine hnames.imp_of_mem fun {c d} hc hd hlt b hb hb' => ?_
    have hcb := Chain.uniform_iff.mp (ht.uniform c hc) b hb
    have hdb := Chain.uniform_iff.mp (ht.uniform d hd) b hb'
    rw [← hcb, ← hdb] at hlt
    exact String.lt_irrefl _ hlt

/-! ## Resolution -/

section resolution

variable {xs : List (Step V)} (hw : NeverWraps xs) (hr : xs.countP Step.isReset ≤ 1)

include hw hr

/-- A visible binding whose identifier is that of a step is the binding of this step, and the scope
of the step is open. -/
lemma openSince_of_same {n k : Nat} {a b : Binding V} (hb : boundAt xs n = some b)
    (ha : a ∈ (stateAt xs k).table.bindingsOf b.name) (hab : a.ident.same b.ident = true) :
    OpenSince xs n k ∧ a = b := by
  rw [bindingsOf_stateAt, List.mem_filter] at ha
  obtain ⟨m, -, hopen, hbound⟩ := mem_liveAt.mp ha.1
  cases eq_of_stamp_eq hw hr hbound hb (Ident.kind_stamp_eq_of_same hab).2
  exact ⟨hopen, Option.some.inj (hbound.symm.trans hb)⟩

/-- While its scope is open, an identifier is resolved to its data. -/
lemma find?_of_openSince {n k : Nat} {b : Binding V} (hb : boundAt xs n = some b) (hnk : n < k)
    (hopen : OpenSince xs n k) : (stateAt xs k).table.find? b.ident = some b.data := by
  have hmem : b ∈ (stateAt xs k).table.bindingsOf b.name := by
    rw [bindingsOf_stateAt, List.mem_filter]
    exact ⟨mem_liveAt.mpr ⟨n, hnk, hopen, hb⟩, decide_eq_true rfl⟩
  change (((stateAt xs k).table.bindingsOf b.name).find? _).map _ = _
  cases hfind : ((stateAt xs k).table.bindingsOf b.name).find? (·.ident.same b.ident) with
  | none => exact absurd b.ident.same_refl (List.find?_eq_none.mp hfind b hmem)
  | some a =>
      have hsame : a.ident.same b.ident = true := by simpa using List.find?_some hfind
      rw [(openSince_of_same hw hr hb (List.mem_of_find?_eq_some hfind) hsame).2]
      rfl

/-- Once its scope is closed, an identifier is not resolved. -/
lemma find?_of_not_openSince {n k : Nat} {b : Binding V} (hb : boundAt xs n = some b)
    (hclosed : ¬ OpenSince xs n k) : (stateAt xs k).table.find? b.ident = none := by
  have hfind : ((stateAt xs k).table.bindingsOf b.name).find? (·.ident.same b.ident) = none := by
    rw [List.find?_eq_none]
    intro a ha hsame
    exact hclosed (openSince_of_same hw hr hb ha hsame).1
  change (((stateAt xs k).table.bindingsOf b.name).find? _).map _ = _
  rw [hfind, Option.map_none]

end resolution

/-! ## Short runs -/

/-- A step moves the counter and the checkpoint up by one at the most. -/
lemma Move.counters_le {m : Mint} {x : Step V} {current : Stamp} {checkpoint : Option Stamp}
    (h : Move m x current checkpoint) {bound : Int} (hcurrent : m.current.toInt ≤ bound)
    (hcheckpoint : ∀ level, m.checkpoint = some level → level.toInt ≤ bound) :
    current.toInt ≤ bound + 1 ∧ ∀ level, checkpoint = some level → level.toInt ≤ bound + 1 := by
  have hkept : ∀ level, m.checkpoint = some level → level.toInt ≤ bound + 1 := by
    intro level hlevel
    have := hcheckpoint level hlevel
    omega
  cases h with
  | rested => exact ⟨by omega, hkept⟩
  | drew =>
      have := Session.toInt_add_one_le m.current
      exact ⟨by omega, hkept⟩
  | recorded _ _ =>
      refine ⟨by omega, fun level hlevel => ?_⟩
      cases hlevel
      omega
  | restored _ _ hc =>
      refine ⟨hkept _ hc, fun level hlevel => ?_⟩
      cases hlevel
      exact hkept _ hc

/-- Behind `k` steps neither the counter nor the checkpoint is above `k`. -/
lemma counters_le (xs : List (Step V)) (k : Nat) :
    (stateAt xs k).mint.current.toInt ≤ k ∧
      ∀ level, (stateAt xs k).mint.checkpoint = some level → level.toInt ≤ k := by
  induction k with
  | zero => exact ⟨Int.le_refl 0, nofun⟩
  | succ k ih =>
      obtain ⟨hcurrent, hcheckpoint⟩ := ih
      rw [Int.natCast_succ]
      cases hx : xs[k]? with
      | none =>
          rw [stateAt_succ_of_none hx]
          exact ⟨by omega, fun level hlevel => Int.le_add_one (hcheckpoint level hlevel)⟩
      | some x => exact (move_stateAt hx).counters_le hcurrent hcheckpoint

/-- **A run of fewer than `2 ^ 63` steps does not move the counter past its end.** -/
theorem neverWraps_of_length_lt {xs : List (Step V)} (h : xs.length < 2 ^ 63) : NeverWraps xs := by
  intro n hn heq
  have hle := (counters_le xs n).1
  have hlo := (stateAt xs n).mint.current.le_toInt
  rw [heq, Int64.lt_iff_toInt_lt, Int64.toInt_add, Int64.toInt_one, Int.bmod_def]
  split <;> omega

/-! ## The main result -/

/-- **Identifiers resolve to their own bindings.** Take a run of a new stack with one reset of the
mint at the most, in which the counter of locals does not pass its end.

* An identifier that a step bound is resolved to the data of that step as long as the scope of the
  step is open, and to nothing once it is closed.
* In every table of the stack, visible or saved, the stamps of a name descend from the newest
  binding to the oldest, all stamps lie between one and the counter, and no stamp occurs twice. -/
theorem identity_resolution (xs : List (Step V)) (hw : NeverWraps xs)
    (hr : xs.countP Step.isReset ≤ 1) :
    let s := (({} : ScopeStack V).run xs).2
    (∀ n b, boundAt xs n = some b →
      (OpenSince xs n xs.length → s.table.find? b.ident = some b.data) ∧
      (¬ OpenSince xs n xs.length → s.table.find? b.ident = none)) ∧
    ∀ t ∈ s.tables,
      (∀ name, (t.bindingsOf name).Pairwise
        fun newer older => older.ident.stamp < newer.ident.stamp) ∧
      (∀ b ∈ t.toList, 1 ≤ b.ident.stamp ∧ b.ident.stamp ≤ s.mint.current) ∧
      (t.toList.map (·.ident.stamp)).Nodup := by
  intro s
  have hs : s = stateAt xs xs.length := by rw [stateAt, List.take_length]
  rw [hs]
  refine ⟨fun n b hb => ⟨fun hopen => ?_, fun hclosed => ?_⟩, fun t ht => ?_⟩
  · exact find?_of_openSince hw hr hb (fresh_of_boundAt hb).1 hopen
  · exact find?_of_not_openSince hw hr hb hclosed
  · have hinv : t.Invariant := (nested_stateAt xs xs.length).invariant t ht
    have hlive : ∀ b ∈ t.toList, ∃ n < xs.length, boundAt xs n = some b := by
      intro b hb
      have hmem := (sublist_liveAt xs _ ht b.name).subset ((NameTable.mem_toList_iff hinv).mp hb)
      obtain ⟨n, hn, -, hbound⟩ := mem_liveAt.mp hmem
      exact ⟨n, hn, hbound⟩
    have hdesc := fun name =>
      (pairwise_liveAt hw hr xs.length).sublist (sublist_liveAt xs _ ht name)
    refine ⟨hdesc, fun b hb => ?_, nodup_stamps hinv hdesc fun a ha b hb hab => ?_⟩
    · obtain ⟨n, hn, hbound⟩ := hlive b hb
      exact stamp_bounds hw hr hn hbound
    · obtain ⟨j, -, hj⟩ := hlive a ha
      obtain ⟨k, -, hk⟩ := hlive b hb
      cases eq_of_stamp_eq hw hr hj hk hab
      exact Option.some.inj (hj.symm.trans hk)

/-- The name `x` is bound outside of a scope, twice inside, and again in a second scope behind a
reset: the first and the last binding are found by identity, those of the closed scope are not. -/
theorem identity_resolution_two_scopes :
    let xs : List (Step Nat) :=
      [.bind "x" 1, .enter, .bind "x" 2, .rebind (.unitLocal "x" 2) 3, .leave, .mint .reset,
        .enter, .mint (.mintScoped "x" 7), .bind "x" 4]
    let s := (({} : ScopeStack Nat).run xs).2
    NeverWraps xs ∧ xs.countP Step.isReset ≤ 1 ∧
      boundAt xs 0 = some ⟨.unitLocal "x" 1, 1⟩ ∧ OpenSince xs 0 xs.length ∧
      boundAt xs 3 = some ⟨.unitLocal "x" 3, 3⟩ ∧ ¬ OpenSince xs 3 xs.length ∧
      boundAt xs 8 = some ⟨.unitLocal "x" 5, 4⟩ ∧ OpenSince xs 8 xs.length ∧
      s.table.find? (.unitLocal "x" 1) = some 1 ∧ s.table.find? (.unitLocal "x" 3) = none ∧
      s.table.find? (.unitLocal "x" 5) = some 4 ∧
      (s.table.toList.map (·.ident.stamp)).Nodup := by
  intro xs s
  have hw : NeverWraps xs := neverWraps_of_length_lt (by decide)
  have hr : xs.countP Step.isReset ≤ 1 := by decide
  have hfirst : boundAt xs 0 = some ⟨.unitLocal "x" 1, 1⟩ := rfl
  have hinner : boundAt xs 3 = some ⟨.unitLocal "x" 3, 3⟩ := rfl
  have hlast : boundAt xs 8 = some ⟨.unitLocal "x" 5, 4⟩ := rfl
  have hopen : OpenSince xs 0 xs.length := by decide
  have hclosed : ¬ OpenSince xs 3 xs.length := by decide
  have hopen' : OpenSince xs 8 xs.length := by decide
  obtain ⟨hfind, htables⟩ := identity_resolution xs hw hr
  exact ⟨hw, hr, hfirst, hopen, hinner, hclosed, hlast, hopen', (hfind 0 _ hfirst).1 hopen,
    (hfind 3 _ hinner).2 hclosed, (hfind 8 _ hlast).1 hopen',
    (htables s.table List.mem_cons_self).2.2⟩

end MiddleEnd.ScopeStack
