import Mathlib.Algebra.Group.Nat.Defs
import MiddleEnd.Proofs.Runs

/-!
# The counters of a session

A session has three counters: the mint raises one for locals and one for built-in identifiers, and
the source of keys lowers the third. Only a reset takes a counter back.

* `Outcome` lists what a step can do to the counters and what it answers then; `outcome_step` says
  that the list is complete. Nothing further about `Session.step` is used below.
* `Sound` — the stamps of the mint are not negative, those of keys are, and the checkpoint is not
  above the counter of locals. Steps keep this as long as no counter wraps around
  (`Outcome.sound`).
* `NeverWraps` — no step of a run moves a counter past its end. A run of fewer than `2 ^ 63` steps
  never does (`neverWraps_of_length_lt`), but a longer one with resets need not either.
-/

namespace MiddleEnd.Session

/-- A session in which nothing was made yet. -/
def fresh (settings : Settings) : Session :=
  { mint := { settings := settings } }

/-- The session behind the first `k` steps of a run. -/
def stateAt (s : Session) (xs : List (Step Operand)) (k : Nat) : Session :=
  (s.run (xs.take k)).2

/-! ## What a step can do -/

/-- What a step can answer, with the mint and the source of keys behind it. -/
inductive Outcome (s : Session) (x : Step Operand) :
    Except Refusal Mint.Reply → Mint → KeySource → Prop
  /-- The step is refused and draws nothing. -/
  | refused (e : Refusal) : Outcome s x (.error e) s.mint s.keys
  /-- An identifier from elsewhere is put into a register. -/
  | adopted (i : Ident) (hx : x = .adopt i) : Outcome s x (.ok (.ident i)) s.mint s.keys
  /-- A local identifier takes the next stamp of locals. -/
  | drewLocal (y : Mint.Step Operand) (name : String) (hx : x = .mint y) :
      Outcome s x (.ok (.ident (.unitLocal name (s.mint.current + 1))))
        { s.mint with current := s.mint.current + 1 } s.keys
  /-- A local identifier of a scope takes the next stamp of locals. -/
  | drewScoped (y : Mint.Step Operand) (name : String) (scope : UInt32) (hx : x = .mint y) :
      Outcome s x (.ok (.ident (.ofScope name (s.mint.current + 1) scope)))
        { s.mint with current := s.mint.current + 1 } s.keys
  /-- A built-in identifier takes the next stamp of these. -/
  | drewBuiltIn (y : Mint.Step Operand) (name : String) (hx : x = .mint y) :
      Outcome s x (.ok (.ident (.builtIn name (s.mint.currentBuiltIn + 1))))
        { s.mint with currentBuiltIn := s.mint.currentBuiltIn + 1 } s.keys
  /-- The checkpoint is recorded. -/
  | recorded (hx : x = .mint .reset) (hc : s.mint.checkpoint = none) :
      Outcome s x (.ok (.event (.checkpointRecorded s.mint.current)))
        { s.mint with checkpoint := some s.mint.current } s.keys
  /-- The counter of locals goes back to the checkpoint. -/
  | restored (level : Stamp) (hx : x = .mint .reset) (hc : s.mint.checkpoint = some level) :
      Outcome s x (.ok (.event (.stampsReset s.mint.current level)))
        { s.mint with current := level } s.keys
  /-- A key takes the next stamp of keys. -/
  | drewKey (target : Operand) (hx : x = .key target) :
      Outcome s x (.ok (.ident (.unitLocal "" s.keys.next))) s.mint ⟨s.keys.next - 1⟩

/-- A step whose references are found is performed. -/
lemma step_of_resolve_ok {s : Session} {x : Step Operand} {y : Step Ident}
    (h : x.resolve s.find = .ok y) :
    s.step x = ((s.perform y).1.mapError .misuse, (s.perform y).2) := by
  rw [step, h]

/-- A step with a reference that is not found is refused. -/
lemma step_of_resolve_error {s : Session} {x : Step Operand} {e : Refusal}
    (h : x.resolve s.find = .error e) : s.step x = (.error e, s) := by
  rw [step, h]

section step

variable {s : Session} {target : Operand} {i : Ident} {e : Refusal}

/-- Renaming an operand that is not found is refused. -/
lemma step_rename_of_find_eq_error (hfind : s.find target = .error e) :
    s.step (.mint (.rename target)) = (.error e, s) := by
  apply step_of_resolve_error
  simp [Step.resolve, Mint.Step.resolve, hfind, Except.map]

/-- To rename a local identifier is to mint one of its name. -/
lemma step_rename_of_isLocal (hfind : s.find target = .ok i) (hi : i.isLocal = true) :
    s.step (.mint (.rename target)) = s.step (.mint (.mintLocal i.name)) := by
  rw [step_of_resolve_ok (y := .mint (.rename i))
    (by simp [Step.resolve, Mint.Step.resolve, hfind, Except.map])]
  simp only [perform, Mint.step, Mint.rename, if_pos hi]
  rfl

/-- To rename any other identifier is refused. -/
lemma step_rename_of_not_isLocal (hfind : s.find target = .ok i) (hi : ¬ i.isLocal = true) :
    s.step (.mint (.rename target)) = (.error (.misuse (.renameNonLocal i.name)), s) := by
  rw [step_of_resolve_ok (y := .mint (.rename i))
    (by simp [Step.resolve, Mint.Step.resolve, hfind, Except.map])]
  simp only [perform, Mint.step, Mint.rename, if_neg hi]
  rfl

/-- Taking a key of an operand that is not found is refused. -/
lemma step_key_of_find_eq_error (hfind : s.find target = .error e) :
    s.step (.key target) = (.error e, s) := by
  apply step_of_resolve_error
  simp [Step.resolve, hfind, Except.map]

/-- A key of a local identifier takes the next stamp of keys. -/
lemma step_key_of_isLocal (hfind : s.find target = .ok i) (hi : i.isLocal = true) :
    s.step (.key target) = (.ok (.ident (.unitLocal "" s.keys.next)),
      { s with
        keys := ⟨s.keys.next - 1⟩
        registers := s.registers.push (.unitLocal "" s.keys.next) }) := by
  rw [step_of_resolve_ok (y := .key i) (by simp [Step.resolve, hfind, Except.map])]
  simp only [perform, KeySource.key, if_pos hi]
  rfl

/-- To take a key of any other identifier is refused. -/
lemma step_key_of_not_isLocal (hfind : s.find target = .ok i) (hi : ¬ i.isLocal = true) :
    s.step (.key target) = (.error (.misuse (.keyOfNonLocal i.name)), s) := by
  rw [step_of_resolve_ok (y := .key i) (by simp [Step.resolve, hfind, Except.map])]
  simp only [perform, KeySource.key, if_neg hi]
  rfl

/-- Renaming is refused or mints a local identifier. -/
lemma step_rename_cases (s : Session) (target : Operand) :
    (∃ e, s.step (.mint (.rename target)) = (.error e, s)) ∨
      ∃ name, s.step (.mint (.rename target)) = s.step (.mint (.mintLocal name)) := by
  rcases hfind : s.find target with e | i
  · exact .inl ⟨e, step_rename_of_find_eq_error hfind⟩
  · by_cases hi : i.isLocal
    · exact .inr ⟨i.name, step_rename_of_isLocal hfind hi⟩
    · exact .inl ⟨_, step_rename_of_not_isLocal hfind hi⟩

/-- Asking for a key is refused or draws one. -/
lemma step_key_cases (s : Session) (target : Operand) :
    (∃ e, s.step (.key target) = (.error e, s)) ∨
      s.step (.key target) = (.ok (.ident (.unitLocal "" s.keys.next)),
        { s with
          keys := ⟨s.keys.next - 1⟩
          registers := s.registers.push (.unitLocal "" s.keys.next) }) := by
  rcases hfind : s.find target with e | i
  · exact .inl ⟨e, step_key_of_find_eq_error hfind⟩
  · by_cases hi : i.isLocal
    · exact .inr (step_key_of_isLocal hfind hi)
    · exact .inl ⟨_, step_key_of_not_isLocal hfind hi⟩

end step

/-- Renaming draws a stamp or is refused. -/
lemma outcome_rename (s : Session) (target : Operand) :
    Outcome s (.mint (.rename target)) (s.step (.mint (.rename target))).1
      (s.step (.mint (.rename target))).2.mint (s.step (.mint (.rename target))).2.keys := by
  rcases step_rename_cases s target with ⟨e, hstep⟩ | ⟨name, hstep⟩
  · rw [hstep]
    exact .refused e
  · rw [hstep]
    exact .drewLocal _ name rfl

/-- A reset records the checkpoint or goes back to it. -/
lemma outcome_reset (s : Session) :
    Outcome s (.mint .reset) (s.step (.mint .reset)).1 (s.step (.mint .reset)).2.mint
      (s.step (.mint .reset)).2.keys := by
  rw [step_of_resolve_ok (y := .mint .reset) rfl]
  cases hc : s.mint.checkpoint with
  | none =>
      have hreset : s.mint.reset = (.checkpointRecorded s.mint.current,
          { s.mint with checkpoint := some s.mint.current }) := by simp [Mint.reset, hc]
      simp only [perform, Mint.step, hreset]
      exact .recorded rfl hc
  | some level =>
      have hreset : s.mint.reset = (.stampsReset s.mint.current level,
          { s.mint with current := level }) := by simp [Mint.reset, hc]
      simp only [perform, Mint.step, hreset]
      exact .restored level rfl hc

/-- Asking for a key draws one or is refused. -/
lemma outcome_key (s : Session) (target : Operand) :
    Outcome s (.key target) (s.step (.key target)).1 (s.step (.key target)).2.mint
      (s.step (.key target)).2.keys := by
  rcases step_key_cases s target with ⟨e, hstep⟩ | hstep
  · rw [hstep]
    exact .refused e
  · rw [hstep]
    exact .drewKey target rfl

/-- **Every step does what is listed.** -/
theorem outcome_step (s : Session) (x : Step Operand) :
    Outcome s x (s.step x).1 (s.step x).2.mint (s.step x).2.keys := by
  cases x with
  | mint y =>
      cases y with
      | mintLocal name => exact .drewLocal _ name rfl
      | mintScoped name scope => exact .drewScoped _ name scope rfl
      | mintBuiltIn name => exact .drewBuiltIn _ name rfl
      | rename target => exact outcome_rename s target
      | reset => exact outcome_reset s
  | key target => exact outcome_key s target
  | adopt i => exact .adopted i rfl

/-! ## Counters that stay in their range -/

/-- From one state to the next, a counter that is raised gets greater and one that is lowered gets
smaller. -/
structure Unwrapped (m : Mint) (k : KeySource) (m' : Mint) (k' : KeySource) : Prop where
  /-- The counter of locals. -/
  locals : m'.current = m.current + 1 → m.current < m'.current
  /-- The counter of built-in identifiers. -/
  builtIns : m'.currentBuiltIn = m.currentBuiltIn + 1 → m.currentBuiltIn < m'.currentBuiltIn
  /-- The counter of keys. -/
  keys : k'.next = k.next - 1 → k'.next < k.next

/-- No step of a run moves a counter past its end. -/
def NeverWraps (s : Session) (xs : List (Step Operand)) : Prop :=
  ∀ n < xs.length, Unwrapped (s.stateAt xs n).mint (s.stateAt xs n).keys
    (s.stateAt xs (n + 1)).mint (s.stateAt xs (n + 1)).keys

/-- What holds of the counters throughout a run. -/
structure Sound (m : Mint) (k : KeySource) : Prop where
  /-- Stamps of locals are not negative. -/
  locals : 0 ≤ m.current
  /-- Stamps of built-in identifiers are not negative. -/
  builtIns : 0 ≤ m.currentBuiltIn
  /-- Stamps of keys are negative. -/
  keys : k.next < 0
  /-- A checkpoint was once the counter of locals. -/
  checkpoint : ∀ level, m.checkpoint = some level → 0 ≤ level ∧ level ≤ m.current

/-- The lowest value that the counter of locals can still be taken back to. -/
def lowest (m : Mint) : Stamp :=
  m.checkpoint.getD m.current

/-- Fresh counters are sound. -/
lemma sound_fresh (settings : Settings) : Sound (fresh settings).mint (fresh settings).keys :=
  ⟨Int64.le_refl 0, Int64.le_refl 0, (by decide : (-1 : Stamp) < 0), nofun⟩

/-- The lowest value lies between zero and the counter. -/
lemma Sound.lowest_bounds {m : Mint} {k : KeySource} (h : Sound m k) :
    0 ≤ lowest m ∧ lowest m ≤ m.current := by
  unfold lowest
  cases hc : m.checkpoint with
  | none => exact ⟨h.locals, Int64.le_refl _⟩
  | some level => exact h.checkpoint level hc

section outcome

variable {s : Session} {x : Step Operand} {answer : Except Refusal Mint.Reply} {m : Mint}
  {k : KeySource}

/-- A step keeps the counters sound. -/
lemma Outcome.sound (ho : Outcome s x answer m k) (h : Sound s.mint s.keys)
    (hw : Unwrapped s.mint s.keys m k) : Sound m k := by
  obtain ⟨hl, hb, hk, hc⟩ := h
  cases ho with
  | refused e => exact ⟨hl, hb, hk, hc⟩
  | adopted i hx => exact ⟨hl, hb, hk, hc⟩
  | drewLocal y name hx =>
      have hlt := hw.locals rfl
      exact ⟨by grind, hb, hk, fun level hlevel => by grind⟩
  | drewScoped y name scope hx =>
      have hlt := hw.locals rfl
      exact ⟨by grind, hb, hk, fun level hlevel => by grind⟩
  | drewBuiltIn y name hx =>
      have hlt := hw.builtIns rfl
      exact ⟨hl, by grind, hk, hc⟩
  | recorded hx hnone =>
      refine ⟨hl, hb, hk, fun level hlevel => ?_⟩
      cases hlevel
      exact ⟨hl, Int64.le_refl _⟩
  | restored level hx hsome =>
      obtain ⟨hpos, hle⟩ := hc level hsome
      refine ⟨hpos, hb, hk, fun level' hlevel' => ?_⟩
      cases hsome.symm.trans hlevel'
      exact ⟨hpos, Int64.le_refl _⟩
  | drewKey target hx =>
      have hlt := hw.keys rfl
      exact ⟨hl, hb, by grind, hc⟩

/-- The counter of built-in identifiers never goes back. -/
lemma Outcome.builtIns_le (ho : Outcome s x answer m k) (hw : Unwrapped s.mint s.keys m k) :
    s.mint.currentBuiltIn ≤ m.currentBuiltIn := by
  cases ho with
  | drewBuiltIn y name hx => exact Int64.le_of_lt (hw.builtIns rfl)
  | _ => exact Int64.le_refl _

/-- The counter of keys never goes back. -/
lemma Outcome.keys_le (ho : Outcome s x answer m k) (hw : Unwrapped s.mint s.keys m k) :
    k.next ≤ s.keys.next := by
  cases ho with
  | drewKey target hx => exact Int64.le_of_lt (hw.keys rfl)
  | _ => exact Int64.le_refl _

/-- Unless it is restored, the counter of locals does not go back. -/
lemma Outcome.locals_le (ho : Outcome s x answer m k) (hw : Unwrapped s.mint s.keys m k)
    (hx : x = .mint .reset → s.mint.checkpoint = none) : s.mint.current ≤ m.current := by
  cases ho with
  | drewLocal y name _ => exact Int64.le_of_lt (hw.locals rfl)
  | drewScoped y name scope _ => exact Int64.le_of_lt (hw.locals rfl)
  | restored level hreset hsome => cases (hx hreset).symm.trans hsome
  | _ => exact Int64.le_refl _

/-- What the counter of locals can be taken back to does not go back. -/
lemma Outcome.lowest_le (ho : Outcome s x answer m k) (hw : Unwrapped s.mint s.keys m k) :
    lowest s.mint ≤ lowest m := by
  unfold lowest
  cases ho with
  | drewLocal y name hx =>
      have hlt := Int64.le_of_lt (hw.locals rfl)
      cases hc : s.mint.checkpoint with
      | none => exact hlt
      | some level => exact Int64.le_refl _
  | drewScoped y name scope hx =>
      have hlt := Int64.le_of_lt (hw.locals rfl)
      cases hc : s.mint.checkpoint with
      | none => exact hlt
      | some level => exact Int64.le_refl _
  | recorded hx hnone => rw [hnone]; exact Int64.le_refl _
  | restored level hx hsome => simp only [hsome]; exact Int64.le_refl _
  | _ => exact Int64.le_refl _

/-- A checkpoint that is recorded stays. -/
lemma Outcome.checkpoint_eq (ho : Outcome s x answer m k) {level : Stamp}
    (h : s.mint.checkpoint = some level) : m.checkpoint = some level := by
  cases ho with
  | recorded hx hnone => cases hnone.symm.trans h
  | _ => exact h

/-- Only a reset records a checkpoint. -/
lemma Outcome.checkpoint_eq_none (ho : Outcome s x answer m k) (hx : x ≠ .mint .reset)
    (h : s.mint.checkpoint = none) : m.checkpoint = none := by
  cases ho with
  | recorded hreset hnone => exact absurd hreset hx
  | _ => exact h

end outcome

/-! ## Short runs -/

/-- Raising a counter adds at most one to its value. -/
lemma toInt_add_one_le (a : Stamp) : (a + 1).toInt ≤ a.toInt + 1 := by
  have hlo := a.le_toInt
  have hhi := a.toInt_lt
  rw [Int64.toInt_add, Int64.toInt_one, Int.bmod_def]
  split <;> omega

/-- Lowering a counter takes at most one from its value. -/
lemma le_toInt_sub_one (a : Stamp) : a.toInt - 1 ≤ (a - 1).toInt := by
  have hlo := a.le_toInt
  have hhi := a.toInt_lt
  rw [Int64.toInt_sub, Int64.toInt_one, Int.bmod_def]
  split <;> omega

/-- The counters are at most `n` away from where they started. -/
structure Within (n : Nat) (m : Mint) (k : KeySource) : Prop where
  /-- The counter of locals. -/
  locals : m.current.toInt ≤ n
  /-- The counter of built-in identifiers. -/
  builtIns : m.currentBuiltIn.toInt ≤ n
  /-- The counter of keys. -/
  keys : -1 - n ≤ k.next.toInt
  /-- The checkpoint. -/
  checkpoint : ∀ level, m.checkpoint = some level → level.toInt ≤ n

/-- A fresh session has not moved its counters. -/
lemma within_fresh (settings : Settings) :
    Within 0 (fresh settings).mint (fresh settings).keys :=
  ⟨(by decide : (0 : Stamp).toInt ≤ 0), (by decide : (0 : Stamp).toInt ≤ 0),
    (by decide : -1 ≤ (-1 : Stamp).toInt), nofun⟩

/-- A wider bound holds as well. -/
lemma Within.succ {n : Nat} {m : Mint} {k : KeySource} (h : Within n m k) : Within (n + 1) m k := by
  obtain ⟨hl, hb, hk, hc⟩ := h
  refine ⟨by omega, by omega, by omega, fun level hlevel => ?_⟩
  have := hc level hlevel
  omega

/-- A step takes the counters at most one further. -/
lemma Within.outcome {n : Nat} {s : Session} {x : Step Operand}
    {answer : Except Refusal Mint.Reply} {m : Mint} {k : KeySource}
    (h : Within n s.mint s.keys) (ho : Outcome s x answer m k) : Within (n + 1) m k := by
  have hc' := h.succ.checkpoint
  have ⟨hl, hb, hk, hc⟩ := h
  cases ho with
  | refused e => exact h.succ
  | adopted i hx => exact h.succ
  | drewLocal y name hx =>
      have hstep := toInt_add_one_le s.mint.current
      exact ⟨by simp only; omega, by simp only; omega, by omega, hc'⟩
  | drewScoped y name scope hx =>
      have hstep := toInt_add_one_le s.mint.current
      exact ⟨by simp only; omega, by simp only; omega, by omega, hc'⟩
  | drewBuiltIn y name hx =>
      have hstep := toInt_add_one_le s.mint.currentBuiltIn
      exact ⟨by simp only; omega, by simp only; omega, by omega, hc'⟩
  | recorded hx hnone =>
      refine ⟨by simp only; omega, by simp only; omega, by omega, fun level hlevel => ?_⟩
      cases hlevel
      omega
  | restored level hx hsome =>
      have hlevel := hc level hsome
      exact ⟨by simp only; omega, by simp only; omega, by omega, hc'⟩
  | drewKey target hx =>
      have hstep := le_toInt_sub_one s.keys.next
      exact ⟨by omega, by omega, by simp only; omega, hc'⟩

/-- Counters that are far enough from their ends do not wrap in the next step. -/
lemma Within.unwrapped {n : Nat} (hn : n + 1 < 2 ^ 63) {m m' : Mint} {k k' : KeySource}
    (h : Within n m k) : Unwrapped m k m' k' := by
  obtain ⟨hl, hb, hk, -⟩ := h
  refine ⟨fun heq => ?_, fun heq => ?_, fun heq => ?_⟩
  · rw [heq, Int64.lt_iff_toInt_lt, Int64.toInt_add, Int64.toInt_one, Int.bmod_def]
    have := m.current.le_toInt
    split <;> omega
  · rw [heq, Int64.lt_iff_toInt_lt, Int64.toInt_add, Int64.toInt_one, Int.bmod_def]
    have := m.currentBuiltIn.le_toInt
    split <;> omega
  · rw [heq, Int64.lt_iff_toInt_lt, Int64.toInt_sub, Int64.toInt_one, Int.bmod_def]
    have := k.next.toInt_lt
    split <;> omega

/-- Behind `n` steps the counters of a fresh session have moved by at most `n`. -/
lemma within_stateAt (settings : Settings) (xs : List (Step Operand)) (n : Nat) :
    Within n ((fresh settings).stateAt xs n).mint ((fresh settings).stateAt xs n).keys := by
  induction n with
  | zero => exact within_fresh settings
  | succ n ih =>
      unfold stateAt at ih ⊢
      cases hx : xs[n]? with
      | none =>
          rw [take_succ_of_none hx]
          exact ih.succ
      | some x =>
          rw [isRun.state_succ _ hx]
          exact ih.outcome (outcome_step _ x)

/-- **A run of fewer than `2 ^ 63` steps moves no counter past its end.** -/
theorem neverWraps_of_length_lt (settings : Settings) {xs : List (Step Operand)}
    (h : xs.length < 2 ^ 63) : (fresh settings).NeverWraps xs :=
  fun n hn => (within_stateAt settings xs n).unwrapped (by omega)

end MiddleEnd.Session
