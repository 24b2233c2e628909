import Mathlib.Tactic.ByContra
import MiddleEnd.Proofs.Session.Counters

/-!
# Identity over whole sessions

`Ident.same` looks at stamps and not at names, so that it tells bindings apart rests on how stamps
are given out over a whole session.

* `MadeAt`, `KeyAt` — step number `n` of a run made an identifier, or a key. Adopted identifiers
  are not made by the session; nothing is said of them.
* `RestoresAt` — step number `n` is a reset, and not the first one.
* `SpentBelow` — no counter will give out the stamp of an identifier before it is taken back below
  a bound. With the counter of locals as the bound, this lasts until the next restoring reset
  (`Spent.carry`); with the lowest value that it can be taken back to, it lasts for good
  (`Kept.carry`).

What is spent differs from what is drawn next (`Outcome.same_eq_false`). So two identifiers that a
session made are the same only if both are locals above the checkpoint with a restoring reset
between them (`identity_of_run`); without one, to be the same is to be equal.
-/

namespace MiddleEnd

namespace Ident

/-- Every identifier is the same as itself. -/
lemma same_refl (i : Ident) : i.same i = true := by
  cases i <;> simp [same]

/-- To be the same is symmetric. -/
lemma same_comm (a b : Ident) : a.same b = b.same a := by
  cases a <;> cases b <;> simp [same, eq_comm]

/-- Identifiers that are the same are of one kind and have one stamp. -/
lemma kind_stamp_eq_of_same {a b : Ident} (h : a.same b = true) :
    a.kind = b.kind ∧ a.stamp = b.stamp := by
  cases a <;> cases b <;> simp_all [same, kind, stamp]

/-- Whether an identifier is local depends on its kind. -/
lemma isLocal_eq_of_kind_eq {a b : Ident} (h : a.kind = b.kind) : a.isLocal = b.isLocal := by
  cases a <;> cases b <;> simp_all [kind, isLocal]

/-- Local identifiers are of one of two kinds. -/
lemma kind_of_isLocal {i : Ident} (h : i.isLocal = true) :
    i.kind = .unitLocal ∨ i.kind = .scopeLocal := by
  cases i <;> simp_all [kind, isLocal]

/-- Persistent identifiers are the same only as themselves. -/
lemma eq_of_same_of_isPersistent {a b : Ident} (ha : a.isPersistent = true)
    (h : a.same b = true) : a = b := by
  cases a <;> cases b <;> simp_all [same, isPersistent]

/-- Equal names are of equal identifiers. -/
lemma sameName_refl (i : Ident) : i.sameName i = true := by
  cases i <;> simp [sameName]

end Ident

namespace Session

/-! ## Steps of a run -/

/-- Step number `n` of a run made an identifier, and did not adopt it. -/
def MadeAt (s : Session) (xs : List (Step Operand)) (n : Nat) (i : Ident) : Prop :=
  (s.run xs).1[n]? = some (.ok (.ident i)) ∧ ∀ j, xs[n]? ≠ some (.adopt j)

/-- Step number `n` of a run made a key. -/
def KeyAt (s : Session) (xs : List (Step Operand)) (n : Nat) (i : Ident) : Prop :=
  MadeAt s xs n i ∧ ∃ target, xs[n]? = some (.key target)

/-- Step number `n` is a reset. -/
def ResetsAt (xs : List (Step Operand)) (n : Nat) : Prop :=
  xs[n]? = some (.mint .reset)

/-- Step number `n` is a reset after an earlier one, and so takes the counter of locals back. -/
def RestoresAt (xs : List (Step Operand)) (n : Nat) : Prop :=
  ResetsAt xs n ∧ ∃ r < n, ResetsAt xs r

/-- The identifiers that a run made, and those of global entities. -/
def Obtained (s : Session) (xs : List (Step Operand)) (i : Ident) : Prop :=
  (∃ n, MadeAt s xs n i) ∨ (∃ name, i = .global name) ∨ ∃ g, i = .ofGlobalName g

/-- The step that made an identifier, with its outcome. -/
lemma MadeAt.outcome {s : Session} {xs : List (Step Operand)} {n : Nat} {i : Ident}
    (h : MadeAt s xs n i) :
    ∃ x, xs[n]? = some x ∧ (∀ j, x ≠ .adopt j) ∧
      Outcome (s.stateAt xs n) x (.ok (.ident i)) (s.stateAt xs (n + 1)).mint
        (s.stateAt xs (n + 1)).keys := by
  obtain ⟨hanswer, hadopt⟩ := h
  rw [isRun.answer_eq] at hanswer
  obtain ⟨x, hx, hi⟩ := Option.map_eq_some_iff.mp hanswer
  refine ⟨x, hx, fun j hj => hadopt j (hj ▸ hx), ?_⟩
  have ho := outcome_step (s.stateAt xs n) x
  unfold stateAt at ho ⊢
  rw [isRun.state_succ _ hx]
  rwa [hi] at ho

/-- The outcome of any step of a run, and that no counter wraps in it. -/
lemma NeverWraps.outcome {s : Session} {xs : List (Step Operand)} (hw : s.NeverWraps xs) {n : Nat}
    {x : Step Operand} (hx : xs[n]? = some x) :
    Outcome (s.stateAt xs n) x ((s.stateAt xs n).step x).1 ((s.stateAt xs n).step x).2.mint
        ((s.stateAt xs n).step x).2.keys ∧
      Unwrapped (s.stateAt xs n).mint (s.stateAt xs n).keys ((s.stateAt xs n).step x).2.mint
        ((s.stateAt xs n).step x).2.keys := by
  refine ⟨outcome_step _ x, ?_⟩
  have hn : n < xs.length := (List.getElem?_eq_some_iff.mp hx).1
  have hun := hw n hn
  unfold stateAt at hun ⊢
  rwa [isRun.state_succ _ hx] at hun

/-! ## Spent stamps -/

/-- The stamp of an identifier was given out, and will not be again until the counter of locals is
taken back below a bound. -/
def SpentBelow (bound : Stamp) (m : Mint) (k : KeySource) : Ident → Prop
  | .unitLocal _ stamp => 0 < stamp ∧ stamp ≤ bound ∨ k.next < stamp ∧ stamp < 0
  | .scopeLocal _ stamp _ => 0 < stamp ∧ stamp ≤ bound
  | .builtIn _ stamp => 0 < stamp ∧ stamp ≤ m.currentBuiltIn
  | .global _ => False
  | .applied _ => False

/-- The stamp was given out and is not due before the next restoring reset. -/
def Spent (s : Session) (i : Ident) : Prop :=
  SpentBelow s.mint.current s.mint s.keys i

/-- The stamp was given out and is not due again. -/
def Kept (s : Session) (i : Ident) : Prop :=
  SpentBelow (lowest s.mint) s.mint s.keys i

/-- What is spent stays so while the counters move on. -/
lemma SpentBelow.mono {bound bound' : Stamp} {m m' : Mint} {k k' : KeySource} {i : Ident}
    (h : SpentBelow bound m k i) (hbound : bound ≤ bound')
    (hbuiltIn : m.currentBuiltIn ≤ m'.currentBuiltIn) (hkeys : k'.next ≤ k.next) :
    SpentBelow bound' m' k' i := by
  cases i with
  | unitLocal name stamp =>
      rcases h with ⟨hpos, hle⟩ | ⟨hlt, hneg⟩
      · exact .inl ⟨hpos, Int64.le_trans hle hbound⟩
      · exact .inr ⟨Int64.lt_of_le_of_lt hkeys hlt, hneg⟩
  | scopeLocal name stamp scope => exact ⟨h.1, Int64.le_trans h.2 hbound⟩
  | builtIn name stamp => exact ⟨h.1, Int64.le_trans h.2 hbuiltIn⟩
  | global name => exact h
  | applied g => exact h

section outcome

variable {s : Session} {x : Step Operand} {m : Mint} {k : KeySource} {i : Ident}

/-- A step that answers an identifier leaves the checkpoint alone. -/
lemma Outcome.checkpoint_eq_of_ident (ho : Outcome s x (.ok (.ident i)) m k) :
    m.checkpoint = s.mint.checkpoint := by
  cases ho <;> rfl

/-- What a step makes is spent behind it. -/
lemma Outcome.spent (ho : Outcome s x (.ok (.ident i)) m k) (hx : ∀ j, x ≠ .adopt j)
    (h : Sound s.mint s.keys) (hw : Unwrapped s.mint s.keys m k) :
    SpentBelow m.current m k i := by
  obtain ⟨hl, hb, hk, -⟩ := h
  cases ho with
  | adopted i hadopt => exact absurd hadopt (hx i)
  | drewLocal y name _ => exact .inl ⟨Int64.lt_of_le_of_lt hl (hw.locals rfl), Int64.le_refl _⟩
  | drewScoped y name scope _ => exact ⟨Int64.lt_of_le_of_lt hl (hw.locals rfl), Int64.le_refl _⟩
  | drewBuiltIn y name _ => exact ⟨Int64.lt_of_le_of_lt hb (hw.builtIns rfl), Int64.le_refl _⟩
  | drewKey target _ => exact .inr ⟨hw.keys rfl, hk⟩

/-- **What is spent is not made again.** -/
lemma Outcome.same_eq_false (ho : Outcome s x (.ok (.ident i)) m k) (hx : ∀ j, x ≠ .adopt j)
    (h : Sound s.mint s.keys) (hw : Unwrapped s.mint s.keys m k) {old : Ident}
    (hold : SpentBelow s.mint.current s.mint s.keys old) : old.same i = false := by
  obtain ⟨hl, hb, hk, -⟩ := h
  cases ho with
  | adopted i hadopt => exact absurd hadopt (hx i)
  | drewLocal y name _ =>
      have hlt := hw.locals rfl
      cases old with
      | unitLocal name' stamp => simp only [SpentBelow, Ident.same] at hold ⊢; grind
      | _ => rfl
  | drewScoped y name scope _ =>
      have hlt := hw.locals rfl
      cases old with
      | scopeLocal name' stamp scope' =>
          simp only [SpentBelow, Ident.ofScope, Ident.same] at hold ⊢; grind
      | _ => rfl
  | drewBuiltIn y name _ =>
      have hlt := hw.builtIns rfl
      cases old with
      | builtIn name' stamp => simp only [SpentBelow, Ident.same] at hold ⊢; grind
      | _ => rfl
  | drewKey target _ =>
      cases old with
      | unitLocal name' stamp => simp only [SpentBelow, Ident.same] at hold ⊢; grind
      | _ => rfl

end outcome

/-- What is kept is spent. -/
lemma Kept.spent {s : Session} {i : Ident} (h : Kept s i) (hs : Sound s.mint s.keys) : Spent s i :=
  h.mono hs.lowest_bounds.2 (Int64.le_refl _) (Int64.le_refl _)

/-- As long as no checkpoint is recorded, what is spent is kept. -/
lemma Spent.kept {s : Session} {i : Ident} (h : Spent s i) (hc : s.mint.checkpoint = none) :
    Kept s i := by
  unfold Kept lowest
  rw [hc]
  exact h

/-- What is spent but not kept is a local above the checkpoint. -/
lemma Spent.above_checkpoint {s : Session} {i : Ident} (h : Spent s i) (hk : ¬ Kept s i) :
    i.isLocal ∧ ∃ level, s.mint.checkpoint = some level ∧ level < i.stamp := by
  cases hc : s.mint.checkpoint with
  | none => exact absurd (h.kept hc) hk
  | some level =>
      unfold Kept lowest at hk
      rw [hc, Option.getD_some] at hk
      cases i with
      | unitLocal name stamp =>
          rcases h with ⟨hpos, hle⟩ | hkey
          · have hlt : level < stamp := by
              rw [← Int64.not_le]
              exact fun hge => hk (.inl ⟨hpos, hge⟩)
            exact ⟨rfl, level, rfl, hlt⟩
          · exact absurd (.inr hkey) hk
      | scopeLocal name stamp scope =>
          have hlt : level < stamp := by
            rw [← Int64.not_le]
            exact fun hge => hk ⟨h.1, hge⟩
          exact ⟨rfl, level, rfl, hlt⟩
      | builtIn name stamp => exact absurd h hk
      | global name => exact h.elim
      | applied g => exact h.elim

/-! ## What a run keeps -/

section run

variable {settings : Settings} {xs : List (Step Operand)} {i : Ident} {j k n : Nat}

/-- The counters are sound before every step. -/
lemma sound_stateAt (hw : (fresh settings).NeverWraps xs) (n : Nat) :
    Sound ((fresh settings).stateAt xs n).mint ((fresh settings).stateAt xs n).keys := by
  refine isRun.carry (fresh settings) xs (P := fun t => Sound t.mint t.keys) (Nat.zero_le n)
    (sound_fresh settings) fun m x _ _ hx hs => ?_
  obtain ⟨ho, hun⟩ := hw.outcome hx
  exact ho.sound hs hun

/-- Without a reset no checkpoint is recorded. -/
lemma checkpoint_eq_none_of_no_reset (h : ∀ r < n, ¬ ResetsAt xs r) :
    ((fresh settings).stateAt xs n).mint.checkpoint = none := by
  refine isRun.carry (fresh settings) xs (P := fun t => t.mint.checkpoint = none) (Nat.zero_le n)
    rfl fun m x _ hm hx hs => ?_
  refine (outcome_step _ x).checkpoint_eq_none (fun hreset => ?_) hs
  exact h m hm (hx.trans (congrArg some hreset))

/-- A checkpoint that is recorded is the one at the end of the run. -/
lemma checkpoint_eq_at_end {level : Stamp}
    (h : ((fresh settings).stateAt xs n).mint.checkpoint = some level) :
    ((fresh settings).run xs).2.mint.checkpoint = some level := by
  have hend : ((fresh settings).run (xs.take (max n xs.length))).2.mint.checkpoint = some level :=
    isRun.carry (fresh settings) xs (P := fun t => t.mint.checkpoint = some level)
      (Nat.le_max_left n xs.length) h fun m x _ _ _ hs => (outcome_step _ x).checkpoint_eq hs
  rwa [List.take_of_length_le (Nat.le_max_right n xs.length)] at hend

/-- What is kept stays so to the end. -/
lemma Kept.carry (hw : (fresh settings).NeverWraps xs) (hjk : j ≤ k)
    (h : Kept ((fresh settings).stateAt xs j) i) : Kept ((fresh settings).stateAt xs k) i := by
  refine isRun.carry (fresh settings) xs (P := fun t => Kept t i) hjk h fun m x _ _ hx hs => ?_
  obtain ⟨ho, hun⟩ := hw.outcome hx
  exact hs.mono (ho.lowest_le hun) (ho.builtIns_le hun) (ho.keys_le hun)

/-- What is spent stays so up to the next restoring reset. -/
lemma Spent.carry (hw : (fresh settings).NeverWraps xs) (hjk : j ≤ k)
    (hno : ∀ m, j ≤ m → m < k → ¬ RestoresAt xs m)
    (h : Spent ((fresh settings).stateAt xs j) i) : Spent ((fresh settings).stateAt xs k) i := by
  refine isRun.carry (fresh settings) xs (P := fun t => Spent t i) hjk h
    fun m x hjm hmk hx hs => ?_
  obtain ⟨ho, hun⟩ := hw.outcome hx
  have hfirst : x = .mint .reset → ((fresh settings).stateAt xs m).mint.checkpoint = none := by
    rintro rfl
    exact checkpoint_eq_none_of_no_reset fun r hr hreset => hno m hjm hmk ⟨hx, r, hr, hreset⟩
  exact hs.mono (ho.locals_le hun hfirst) (ho.builtIns_le hun) (ho.keys_le hun)

/-- An identifier is spent behind the step that made it. -/
lemma MadeAt.spent (hw : (fresh settings).NeverWraps xs) (h : MadeAt (fresh settings) xs n i) :
    Spent ((fresh settings).stateAt xs (n + 1)) i := by
  obtain ⟨x, hx, hadopt, ho⟩ := h.outcome
  have hn : n < xs.length := (List.getElem?_eq_some_iff.mp hx).1
  exact ho.spent hadopt (sound_stateAt hw n) (hw n hn)

/-- What is spent before a step is not the same as what the step makes. -/
lemma MadeAt.same_eq_false (hw : (fresh settings).NeverWraps xs)
    (h : MadeAt (fresh settings) xs n i) {old : Ident}
    (hold : Spent ((fresh settings).stateAt xs n) old) : old.same i = false := by
  obtain ⟨x, hx, hadopt, ho⟩ := h.outcome
  have hn : n < xs.length := (List.getElem?_eq_some_iff.mp hx).1
  exact ho.same_eq_false hadopt (sound_stateAt hw n) (hw n hn) hold

/-- Behind a step that made an identifier there is no checkpoint if there was no reset. -/
lemma MadeAt.checkpoint_eq_none (h : MadeAt (fresh settings) xs n i)
    (hno : ∀ r < n, ¬ ResetsAt xs r) :
    ((fresh settings).stateAt xs (n + 1)).mint.checkpoint = none := by
  obtain ⟨x, -, -, ho⟩ := h.outcome
  rw [ho.checkpoint_eq_of_ident]
  exact checkpoint_eq_none_of_no_reset hno

/-- The stamp of a key is negative. -/
lemma KeyAt.stamp_neg (hw : (fresh settings).NeverWraps xs) (h : KeyAt (fresh settings) xs n i) :
    i.stamp < 0 := by
  obtain ⟨hmade, target, htarget⟩ := h
  obtain ⟨x, hx, -, ho⟩ := hmade.outcome
  cases htarget.symm.trans hx
  have hneg := (sound_stateAt hw n).keys
  generalize ((fresh settings).stateAt xs (n + 1)).mint = m at ho
  generalize ((fresh settings).stateAt xs (n + 1)).keys = k at ho
  cases ho with
  | drewKey target _ => exact hneg
  | adopted i hadopt => cases hadopt
  | drewLocal y name hmint => cases hmint
  | drewScoped y name scope hmint => cases hmint
  | drewBuiltIn y name hmint => cases hmint

/-! ## Identity -/

variable {a b : Ident}

/-- What is kept is not the same as anything made later. -/
lemma Kept.same_eq_false (hw : (fresh settings).NeverWraps xs) (hjk : j ≤ k)
    (h : Kept ((fresh settings).stateAt xs j) a) (hb : MadeAt (fresh settings) xs k b) :
    a.same b = false :=
  hb.same_eq_false hw ((h.carry hw hjk).spent (sound_stateAt hw k))

/-- Between two identifiers that are the same the counter of locals was restored. -/
lemma MadeAt.restores_of_same (hw : (fresh settings).NeverWraps xs) (hjk : j < k)
    (ha : MadeAt (fresh settings) xs j a) (hb : MadeAt (fresh settings) xs k b)
    (hab : a.same b = true) : ∃ m, j < m ∧ m < k ∧ RestoresAt xs m := by
  by_contra hno
  have hspent := (ha.spent hw).carry hw hjk fun m hjm hmk hm => hno ⟨m, hjm, hmk, hm⟩
  rw [hb.same_eq_false hw hspent] at hab
  cases hab

/-- Two identifiers that are the same are locals above the checkpoint. -/
lemma MadeAt.above_checkpoint_of_same (hw : (fresh settings).NeverWraps xs) (hjk : j < k)
    (ha : MadeAt (fresh settings) xs j a) (hb : MadeAt (fresh settings) xs k b)
    (hab : a.same b = true) :
    a.isLocal ∧ ∃ level, ((fresh settings).run xs).2.mint.checkpoint = some level ∧ 0 ≤ level ∧
      level < a.stamp ∧ level < b.stamp := by
  have hkept : ¬ Kept ((fresh settings).stateAt xs (j + 1)) a := by
    intro hkept
    rw [hkept.same_eq_false hw hjk hb] at hab
    cases hab
  obtain ⟨hlocal, level, hlevel, hlt⟩ := (ha.spent hw).above_checkpoint hkept
  have hpos := ((sound_stateAt hw (j + 1)).checkpoint level hlevel).1
  have hstamp := (Ident.kind_stamp_eq_of_same hab).2
  exact ⟨hlocal, level, checkpoint_eq_at_end hlevel, hpos, hlt, hstamp ▸ hlt⟩

/-- Built-in identifiers and keys are made once. -/
lemma MadeAt.same_eq_false_of_once (hw : (fresh settings).NeverWraps xs) (hjk : j ≠ k)
    (ha : MadeAt (fresh settings) xs j a) (hb : MadeAt (fresh settings) xs k b)
    (honce : a.kind = .builtIn ∨ KeyAt (fresh settings) xs j a) : a.same b = false := by
  rw [Bool.eq_false_iff]
  intro hab
  obtain ⟨hkind, hstamp⟩ := Ident.kind_stamp_eq_of_same hab
  -- whichever came first, the other is a local above a checkpoint, which is not negative
  have habove : a.isLocal ∧ 0 < a.stamp := by
    rcases Nat.lt_or_gt_of_ne hjk with hlt | hgt
    · obtain ⟨hlocal, level, -, hpos, hlevel, -⟩ := ha.above_checkpoint_of_same hw hlt hb hab
      exact ⟨hlocal, Int64.lt_of_le_of_lt hpos hlevel⟩
    · rw [Ident.same_comm] at hab
      obtain ⟨hlocal, level, -, hpos, -, hlevel⟩ := hb.above_checkpoint_of_same hw hgt ha hab
      refine ⟨?_, Int64.lt_of_le_of_lt hpos hlevel⟩
      rwa [Ident.isLocal_eq_of_kind_eq hkind]
  rcases honce with hbuiltIn | hkey
  · rw [Ident.isLocal_eq_of_kind_eq (b := .builtIn "" 0) hbuiltIn] at habove
    cases habove.1
  · exact absurd (Int64.lt_trans habove.2 (hkey.stamp_neg hw)) Int64.lt_irrefl

/-- Without a restoring reset, identifiers that a run made are the same only at one step. -/
lemma MadeAt.eq_of_same (hw : (fresh settings).NeverWraps xs) (hno : ∀ m, ¬ RestoresAt xs m)
    (ha : MadeAt (fresh settings) xs j a) (hb : MadeAt (fresh settings) xs k b)
    (hab : a.same b = true) : a = b := by
  rcases Nat.lt_trichotomy j k with hjk | rfl | hkj
  · obtain ⟨m, -, -, hm⟩ := ha.restores_of_same hw hjk hb hab
    exact absurd hm (hno m)
  · have hanswer := ha.1.symm.trans hb.1
    cases hanswer
    rfl
  · rw [Ident.same_comm] at hab
    obtain ⟨m, -, -, hm⟩ := hb.restores_of_same hw hkj ha hab
    exact absurd hm (hno m)

/-- What is obtained is made at some step or persistent. -/
lemma Obtained.made_or_persistent (h : Obtained (fresh settings) xs a) :
    (∃ n, MadeAt (fresh settings) xs n a) ∨ a.isPersistent = true := by
  rcases h with hmade | ⟨name, rfl⟩ | ⟨g, rfl⟩
  · exact .inl hmade
  · exact .inr rfl
  · refine .inr ?_
    unfold Ident.ofGlobalName
    split <;> rfl

/-- Without a restoring reset, identifiers that were obtained are the same only if equal. -/
lemma Obtained.eq_of_same (hw : (fresh settings).NeverWraps xs) (hno : ∀ m, ¬ RestoresAt xs m)
    (ha : Obtained (fresh settings) xs a) (hb : Obtained (fresh settings) xs b)
    (hab : a.same b = true) : a = b := by
  rcases ha.made_or_persistent with ⟨j, hj⟩ | hpers
  · rcases hb.made_or_persistent with ⟨k, hk⟩ | hpers
    · exact hj.eq_of_same hw hno hk hab
    · rw [Ident.same_comm] at hab
      exact (Ident.eq_of_same_of_isPersistent hpers hab).symm
  · exact Ident.eq_of_same_of_isPersistent hpers hab

end run

/-- **Identity is sound over whole sessions.** Take a run of a fresh session in which no counter
passes its end, and identifiers `a` and `b` that it made at different steps, by the mint or as
keys.

* They are the same only if both are locals of one kind, both stamps are above the checkpoint and
  a restoring reset stands between them.
* A built-in identifier or a key is not the same as any other that was made.
* What was made before the checkpoint is not the same as anything made later.
* Without a restoring reset, identifiers that were made or are global are the same exactly if they
  are equal; then they also have the same name. -/
theorem identity_of_run (settings : Settings) (xs : List (Step Operand))
    (hw : (fresh settings).NeverWraps xs) :
    (∀ j k a b, j < k → MadeAt (fresh settings) xs j a → MadeAt (fresh settings) xs k b →
        a.same b = true →
        (a.kind = .unitLocal ∧ b.kind = .unitLocal ∨ a.kind = .scopeLocal ∧ b.kind = .scopeLocal) ∧
          (∃ level, ((fresh settings).run xs).2.mint.checkpoint = some level ∧
            level < a.stamp ∧ level < b.stamp) ∧
          ∃ m, j < m ∧ m < k ∧ RestoresAt xs m) ∧
      (∀ j k a b, j ≠ k → MadeAt (fresh settings) xs j a → MadeAt (fresh settings) xs k b →
        a.kind = .builtIn ∨ KeyAt (fresh settings) xs j a → a.same b = false) ∧
      (∀ j k a b, j < k → MadeAt (fresh settings) xs j a → MadeAt (fresh settings) xs k b →
        (∀ r < j, ¬ ResetsAt xs r) → a.same b = false) ∧
      ((∀ m, ¬ RestoresAt xs m) → ∀ a b, Obtained (fresh settings) xs a →
        Obtained (fresh settings) xs b →
        (a.same b = true ↔ a = b) ∧ (a.same b = true → a.sameName b = true)) := by
  refine ⟨?_, ?_, ?_, ?_⟩
  · intro j k a b hjk ha hb hab
    obtain ⟨hlocal, level, hlevel, -, halt, hblt⟩ := ha.above_checkpoint_of_same hw hjk hb hab
    have hkind := (Ident.kind_stamp_eq_of_same hab).1
    refine ⟨?_, ⟨level, hlevel, halt, hblt⟩, ha.restores_of_same hw hjk hb hab⟩
    rw [← hkind, and_self, and_self]
    exact Ident.kind_of_isLocal hlocal
  · intro j k a b hjk ha hb honce
    exact ha.same_eq_false_of_once hw hjk hb honce
  · intro j k a b hjk ha hb hnone
    have hkept := (ha.spent hw).kept (ha.checkpoint_eq_none hnone)
    exact hkept.same_eq_false hw hjk hb
  · intro hno a b ha hb
    have heq : a.same b = true → a = b := ha.eq_of_same hw hno hb
    refine ⟨⟨heq, ?_⟩, ?_⟩
    · rintro rfl
      exact a.same_refl
    · intro hab
      rw [heq hab]
      exact b.sameName_refl

/-- A local above the checkpoint is made again behind a restoring reset; the key in between, the
failing rename and the local below the checkpoint are not. -/
theorem identity_of_run_restored :
    let xs : List (Step Operand) :=
      [.mint (.mintLocal "x"), .mint .reset, .mint (.mintLocal "y"), .key (.register 0),
        .mint (.rename (.literal (.global "g"))), .mint .reset, .mint (.mintLocal "z")]
    let made := MadeAt (fresh {}) xs
    (fresh {}).NeverWraps xs ∧ made 0 (.unitLocal "x" 1) ∧ made 2 (.unitLocal "y" 2) ∧
      made 3 (.unitLocal "" (-1)) ∧ made 6 (.unitLocal "z" 2) ∧
      (Ident.unitLocal "y" 2).same (.unitLocal "z" 2) = true ∧
      (∃ m, 2 < m ∧ m < 6 ∧ RestoresAt xs m) ∧
      (Ident.unitLocal "" (-1)).same (.unitLocal "z" 2) = false ∧
      (Ident.unitLocal "x" 1).same (.unitLocal "z" 2) = false := by
  intro xs made
  have hw : (fresh {}).NeverWraps xs := neverWraps_of_length_lt {} (by decide)
  have hx : made 0 (.unitLocal "x" 1) := ⟨rfl, nofun⟩
  have hy : made 2 (.unitLocal "y" 2) := ⟨rfl, nofun⟩
  have hkey : made 3 (.unitLocal "" (-1)) := ⟨rfl, nofun⟩
  have hz : made 6 (.unitLocal "z" 2) := ⟨rfl, nofun⟩
  obtain ⟨hsame, honce, hbefore, -⟩ := identity_of_run {} xs hw
  refine ⟨hw, hx, hy, hkey, hz, rfl, ?_, ?_, ?_⟩
  · exact (hsame 2 6 _ _ (by decide) hy hz rfl).2.2
  · exact honce 3 6 _ _ (by decide) hkey hz (.inr ⟨hkey, _, rfl⟩)
  · exact hbefore 0 6 _ _ (by decide) hx hz (fun r hr => absurd hr (Nat.not_lt_zero r))

end Session

end MiddleEnd
