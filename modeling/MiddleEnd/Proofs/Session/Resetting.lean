import Mathlib.Algebra.BigOperators.Intervals
import MiddleEnd.Proofs.Session.Symbols

/-!
# Resetting

A reset takes the counter of locals back to the checkpoint and leaves the counter of built-in
identifiers alone. So what is done behind a reset can be done again behind the next, with the same
identifiers, as long as built-in ones do not matter.

* `pass` — performs steps on a mint, with registers of their own: a step can refer to the
  identifiers that earlier steps of the pass have made.
* `unnumbered` — identifiers, answers and sessions without the stamps of built-in identifiers. What
  is left of a step depends on what is left of the session before it (`forget_step`), and of a run
  likewise (`map_unnumbered_run`). No other step than the one that mints a built-in identifier
  answers its stamp (`map_unnumbered_step`).
* `currentBuiltIn_stateAt` — built-in identifiers are numbered through, so that those of two passes
  differ (`builtIn_second_pass`).
* `drawsLocalAt`, `localsDrawn` — the steps of a run that draw a stamp of locals, and their number
  in a stretch. Between resets that restore, the counter of locals counts them
  (`toInt_current_stateAt`).

The results stand together in `numbering_reproduced`.
-/

namespace MiddleEnd

/-! ## Without the stamps of built-in identifiers -/

/-- An identifier without its stamp, if it is built in. -/
def Ident.unnumbered : Ident → Ident
  | .builtIn name _ => .builtIn name 0
  | i => i

/-- There is no second stamp to forget. -/
lemma Ident.unnumbered_unnumbered (i : Ident) : i.unnumbered.unnumbered = i.unnumbered := by
  cases i <;> rfl

/-- There are no further stamps to forget in registers. -/
lemma map_unnumbered_map_unnumbered (registers : Array Ident) :
    (registers.map Ident.unnumbered).map Ident.unnumbered = registers.map Ident.unnumbered := by
  rw [Array.map_map]
  congr 1
  funext i
  exact i.unnumbered_unnumbered

/-- Identifiers that differ in the stamps of built-in ones are alike in kind and name. -/
lemma Ident.isLocal_name_eq_of_unnumbered_eq {a b : Ident} (h : a.unnumbered = b.unnumbered) :
    a.isLocal = b.isLocal ∧ a.name = b.name := by
  cases a <;> cases b <;> simp_all [unnumbered, isLocal, name]

/-- An answer without the stamp of a built-in identifier. -/
def Mint.Reply.unnumbered : Mint.Reply → Mint.Reply
  | .ident i => .ident i.unnumbered
  | .event e => .event e

namespace Session

/-- A session without the stamps of built-in identifiers. -/
def unnumbered (s : Session) : Session :=
  { s with
    mint := { s.mint with currentBuiltIn := 0 }
    registers := s.registers.map Ident.unnumbered }

/-- What is left of an answer and a session without the stamps of built-in identifiers. -/
def forget (r : Except Refusal Mint.Reply × Session) : Except Refusal Mint.Reply × Session :=
  (r.1.map Mint.Reply.unnumbered, r.2.unnumbered)

/-- Performs steps on a mint. Registers hold the identifiers that are made in the pass. -/
def pass (m : Mint) (xs : List (Mint.Step Operand)) :
    List (Except Refusal Mint.Reply) × Session :=
  ({ mint := m } : Session).run (xs.map .mint)

/-- What is left when an identifier was minted depends on what is left of it, of the mint and of the
session before. -/
lemma forget_minted (s : Session) {m m' : Mint} {i i' : Ident}
    (hm : { m with currentBuiltIn := 0 } = { m' with currentBuiltIn := 0 })
    (hi : i.unnumbered = i'.unnumbered) :
    forget (.ok (.ident i), { s with mint := m, registers := s.registers.push i }) =
      forget (.ok (.ident i'),
        { s.unnumbered with mint := m', registers := s.unnumbered.registers.push i' }) := by
  unfold forget unnumbered
  simp only [Except.map, Mint.Reply.unnumbered, hi, hm, Array.map_push,
    map_unnumbered_map_unnumbered]

/-- What an operand refers to, but for the stamps of built-in identifiers. -/
lemma map_unnumbered_find (s : Session) (target : Operand) :
    (s.find target).map Ident.unnumbered = (s.unnumbered.find target).map Ident.unnumbered := by
  rcases target with index | i
  · unfold find unnumbered
    rcases hreg : s.registers[index]? with _ | i <;>
      simp [hreg, Except.map, Ident.unnumbered_unnumbered]
  · rfl

/-- What is left of a session by forgetting twice is what is left by forgetting once. -/
lemma unnumbered_unnumbered (s : Session) : s.unnumbered.unnumbered = s.unnumbered := by
  unfold unnumbered
  simp only [map_unnumbered_map_unnumbered]

/-- What is left of a renaming depends on what is left of the session. -/
lemma forget_step_rename (s : Session) (target : Operand) :
    forget (s.step (.mint (.rename target))) =
      forget (s.unnumbered.step (.mint (.rename target))) := by
  have hmap := map_unnumbered_find s target
  rcases hfind : s.find target with e | i <;> rcases hfind' : s.unnumbered.find target with e' | i'
  · rw [hfind, hfind'] at hmap
    cases hmap
    rw [step_rename_of_find_eq_error hfind, step_rename_of_find_eq_error hfind', forget, forget,
      unnumbered_unnumbered]
  · rw [hfind, hfind'] at hmap
    cases hmap
  · rw [hfind, hfind'] at hmap
    cases hmap
  · rw [hfind, hfind'] at hmap
    obtain ⟨hlocal, hname⟩ :=
      Ident.isLocal_name_eq_of_unnumbered_eq (Except.ok.inj hmap : i.unnumbered = i'.unnumbered)
    by_cases hi : i.isLocal = true
    · rw [step_rename_of_isLocal hfind hi, step_rename_of_isLocal hfind' (hlocal ▸ hi), hname]
      exact forget_minted s rfl rfl
    · rw [step_rename_of_not_isLocal hfind hi, step_rename_of_not_isLocal hfind' (hlocal ▸ hi),
        hname, forget, forget, unnumbered_unnumbered]

/-- What is left of a reset depends on what is left of the session. -/
lemma forget_step_reset (s : Session) :
    forget (s.step (.mint .reset)) = forget (s.unnumbered.step (.mint .reset)) := by
  have hreset : ∀ s : Session, s.step (.mint .reset) =
      (.ok (.event s.mint.reset.1), { s with mint := s.mint.reset.2 }) := fun _ => rfl
  rw [hreset, hreset]
  unfold forget unnumbered Mint.reset
  rcases s.mint.checkpoint with _ | level <;> simp only [map_unnumbered_map_unnumbered]

/-- **What is left of a step depends on what is left of the session.** -/
lemma forget_step (s : Session) (x : Mint.Step Operand) :
    forget (s.step (.mint x)) = forget (s.unnumbered.step (.mint x)) := by
  rcases x with name | ⟨name, scope⟩ | name | target | _
  · exact forget_minted s rfl rfl
  · exact forget_minted s rfl rfl
  · exact forget_minted s rfl rfl
  · exact forget_step_rename s target
  · exact forget_step_reset s

/-- What is left of a run depends on what is left of the session. -/
lemma map_unnumbered_run {s s' : Session} (h : s.unnumbered = s'.unnumbered)
    (xs : List (Mint.Step Operand)) :
    (s.run (xs.map .mint)).1.map (Except.map Mint.Reply.unnumbered) =
      (s'.run (xs.map .mint)).1.map (Except.map Mint.Reply.unnumbered) := by
  induction xs generalizing s s' with
  | nil => rfl
  | cons x xs ih =>
      have hstep : forget (s.step (.mint x)) = forget (s'.step (.mint x)) := by
        rw [forget_step, h, ← forget_step]
      have hanswer := congrArg Prod.fst hstep
      have hstate := congrArg Prod.snd hstep
      rw [List.map_cons, isRun.cons, isRun.cons, List.map_cons, List.map_cons, ih hstate]
      exact congrArg₂ List.cons hanswer rfl

/-- Only the step that mints a built-in identifier answers its stamp. -/
lemma map_unnumbered_step (s : Session) {x : Mint.Step Operand}
    (hx : ∀ name, x ≠ .mintBuiltIn name) :
    (s.step (.mint x)).1.map Mint.Reply.unnumbered = (s.step (.mint x)).1 := by
  rcases hanswer : (s.step (.mint x)).1 with e | ⟨⟨name, stamp⟩ | _ | _ | _ | ⟨name, stamp⟩⟩ | e
  case ok.ident.builtIn =>
    have hname := builtInName?_of_answer (by simp) hanswer
    rcases x with _ | _ | name' | _ | _ <;> cases hname
    exact absurd rfl (hx name)
  all_goals rfl

/-! ## Two passes -/

/-- Behind a reset the counter of locals is at the checkpoint. -/
lemma reset_of_checkpoint {m : Mint} {level : Stamp} (h : m.checkpoint = some level) :
    m.reset.2 = { m with current := level } := by
  unfold Mint.reset
  rw [h]

/-- No step changes the settings. -/
lemma Outcome.settings_eq {s : Session} {x : Step Operand} {answer : Except Refusal Mint.Reply}
    {m : Mint} {k : KeySource} (ho : Outcome s x answer m k) : m.settings = s.mint.settings := by
  cases ho <;> rfl

/-- A run keeps the settings. -/
lemma settings_stateAt (s : Session) (xs : List (Step Operand)) (k : Nat) :
    (s.stateAt xs k).mint.settings = s.mint.settings :=
  isRun.carry s xs (P := fun t => t.mint.settings = s.mint.settings) (Nat.zero_le k) rfl
    fun _ x _ _ _ ht => (outcome_step _ x).settings_eq.trans ht

/-- A run keeps the checkpoint, once it is recorded. -/
lemma checkpoint_stateAt {s : Session} {xs : List (Step Operand)} {j k : Nat} (hjk : j ≤ k)
    {level : Stamp} (h : (s.stateAt xs j).mint.checkpoint = some level) :
    (s.stateAt xs k).mint.checkpoint = some level :=
  isRun.carry s xs (P := fun t => t.mint.checkpoint = some level) hjk h
    fun _ x _ _ _ ht => (outcome_step _ x).checkpoint_eq ht

/-- Behind all steps is the end of a run. -/
lemma stateAt_length (s : Session) (xs : List (Step Operand)) :
    s.stateAt xs xs.length = (s.run xs).2 := by
  unfold stateAt
  rw [List.take_length]

/-- The second pass starts from what is left of the start of the first. -/
lemma unnumbered_second {m : Mint} {level : Stamp} (h : m.checkpoint = some level)
    (xs : List (Mint.Step Operand)) :
    ({ mint := (pass m.reset.2 xs).2.mint.reset.2 } : Session).unnumbered =
      ({ mint := m.reset.2 } : Session).unnumbered := by
  have hstart : ({ mint := m.reset.2 } : Session).mint.checkpoint = some level := by
    rw [reset_of_checkpoint h]
    exact h
  have hcheckpoint : (pass m.reset.2 xs).2.mint.checkpoint = some level := by
    unfold pass
    rw [← stateAt_length]
    exact checkpoint_stateAt (Nat.zero_le _) hstart
  have hsettings : (pass m.reset.2 xs).2.mint.settings = m.settings := by
    unfold pass
    rw [← stateAt_length, settings_stateAt, reset_of_checkpoint h]
  generalize (pass m.reset.2 xs).2.mint = m' at hcheckpoint hsettings ⊢
  unfold unnumbered
  rw [reset_of_checkpoint hcheckpoint, reset_of_checkpoint h]
  simp only [hcheckpoint, hsettings, h]

/-- **In both passes, all but built-in identifiers are the same, and so are the errors.** -/
lemma answer_second_pass {m : Mint} {level : Stamp} (h : m.checkpoint = some level)
    {xs : List (Mint.Step Operand)} {n : Nat} {x : Mint.Step Operand} (hx : xs[n]? = some x)
    (hname : ∀ name, x ≠ .mintBuiltIn name) :
    (pass m.reset.2 xs).1[n]? = (pass (pass m.reset.2 xs).2.mint.reset.2 xs).1[n]? := by
  have hleft := congrArg (·[n]?) (map_unnumbered_run (unnumbered_second h xs) xs)
  have hanswer : ∀ s : Session,
      (s.run (xs.map .mint)).1[n]?.map (Except.map Mint.Reply.unnumbered) =
        (s.run (xs.map .mint)).1[n]? := by
    intro s
    rw [isRun.answer_eq, List.getElem?_map, hx, Option.map_some, Option.map_some, Option.map_some,
      map_unnumbered_step _ hname]
  simp only [List.getElem?_map, hanswer] at hleft
  exact hleft.symm

/-! ## Built-in identifiers are numbered through -/

/-- A reset leaves built-in identifiers alone. -/
lemma currentBuiltIn_reset (m : Mint) : m.reset.2.currentBuiltIn = m.currentBuiltIn := by
  unfold Mint.reset
  rcases m.checkpoint with _ | level <;> rfl

/-- A built-in identifier takes the next stamp of these, and no other step takes one. -/
lemma currentBuiltIn_step (s : Session) (x : Step Operand) :
    (s.step x).2.mint.currentBuiltIn =
      s.mint.currentBuiltIn + Int64.ofNat x.builtInName?.toList.length := by
  rcases x with (name | ⟨name, scope⟩ | name | target | _) | target | i
  · exact (Int64.add_zero _).symm
  · exact (Int64.add_zero _).symm
  · rfl
  · rcases step_rename_cases s target with ⟨e, hstep⟩ | ⟨name, hstep⟩ <;> rw [hstep]
    · exact (Int64.add_zero _).symm
    · exact (Int64.add_zero _).symm
  · show s.mint.reset.2.currentBuiltIn = _
    rw [currentBuiltIn_reset]
    exact (Int64.add_zero _).symm
  · rcases step_key_cases s target with ⟨e, hstep⟩ | hstep <;> rw [hstep]
    · exact (Int64.add_zero _).symm
    · exact (Int64.add_zero _).symm
  · exact (Int64.add_zero _).symm

/-- What the first steps name, and what the next one does. -/
lemma length_builtInNames_take_succ {xs : List (Step Operand)} {n : Nat} {x : Step Operand}
    (hx : xs[n]? = some x) : (builtInNames (xs.take (n + 1))).length =
      (builtInNames (xs.take n)).length + x.builtInName?.toList.length := by
  unfold builtInNames
  rw [List.take_add_one, hx, List.filterMap_append, List.length_append, Option.toList_some]
  rcases hname : x.builtInName? with _ | name <;> simp [hname]

/-- The counter of built-in identifiers counts the steps that mint one. -/
lemma currentBuiltIn_stateAt (s : Session) (xs : List (Step Operand)) (n : Nat) :
    (s.stateAt xs n).mint.currentBuiltIn =
      s.mint.currentBuiltIn + Int64.ofNat (builtInNames (xs.take n)).length := by
  induction n with
  | zero => exact (Int64.add_zero _).symm
  | succ n ih =>
      unfold stateAt at ih ⊢
      rcases hx : xs[n]? with _ | x
      · rw [take_succ_of_none hx]
        exact ih
      · rw [isRun.state_succ _ hx, currentBuiltIn_step, ih, length_builtInNames_take_succ hx,
          Int64.ofNat_add, Int64.add_assoc]

/-- A built-in identifier that a run made is numbered after those that the run made before. -/
lemma MadeAt.stamp_of_builtIn {s : Session} {xs : List (Step Operand)} {n : Nat} {name : String}
    {stamp : Stamp} (h : MadeAt s xs n (.builtIn name stamp)) :
    ∃ c < (builtInNames xs).length, stamp = s.mint.currentBuiltIn + Int64.ofNat (c + 1) := by
  obtain ⟨x, hx, hname⟩ := h.builtInName?_eq rfl
  refine ⟨(builtInNames (xs.take n)).length, ?_, ?_⟩
  · have hsucc := length_builtInNames_take_succ hx
    have hle : (builtInNames (xs.take (n + 1))).length ≤ (builtInNames xs).length :=
      ((List.take_sublist _ _).filterMap _).length_le
    rw [hname, Option.toList_some, List.length_singleton] at hsucc
    omega
  · obtain ⟨x, -, hadopt, ho⟩ := h.outcome
    rw [Int64.ofNat_add, ← Int64.add_assoc, ← currentBuiltIn_stateAt]
    generalize (s.stateAt xs (n + 1)).mint = m at ho
    generalize (s.stateAt xs (n + 1)).keys = k at ho
    cases ho with
    | adopted i hx => exact absurd hx (hadopt _)
    | drewBuiltIn y name hx => rfl

/-- Numbers less than a round apart are different stamps. -/
lemma ofNat_ne_ofNat {m n : Nat} (hmn : m < n) (hn : n < m + 2 ^ 64) :
    Int64.ofNat m ≠ Int64.ofNat n := by
  intro h
  have hmod := congrArg BitVec.toNat (congrArg Int64.toBitVec h)
  simp only [Int64.toBitVec_ofNat', BitVec.toNat_ofNat] at hmod
  omega

/-- What a pass answers was made in it. -/
lemma madeAt_pass {m : Mint} {xs : List (Mint.Step Operand)} {n : Nat} {i : Ident}
    (h : (pass m xs).1[n]? = some (.ok (.ident i))) : MadeAt { mint := m } (xs.map .mint) n i := by
  refine ⟨h, fun j hj => ?_⟩
  rw [List.getElem?_map] at hj
  obtain ⟨x, -, hx⟩ := Option.map_eq_some_iff.mp hj
  cases hx

/-- **Built-in identifiers of two passes are not the same.** -/
lemma builtIn_second_pass {m : Mint} {xs : List (Mint.Step Operand)}
    (hlength : (builtInNames (xs.map .mint)).length ≤ 2 ^ 63) {j k : Nat} {a b : Ident}
    (ha : (pass m xs).1[j]? = some (.ok (.ident a)))
    (hb : (pass (pass m xs).2.mint.reset.2 xs).1[k]? = some (.ok (.ident b)))
    (hakind : a.kind = .builtIn) (hbkind : b.kind = .builtIn) : a.same b = false := by
  rcases a with _ | _ | _ | _ | ⟨name, stamp⟩ <;> cases hakind
  rcases b with _ | _ | _ | _ | ⟨name', stamp'⟩ <;> cases hbkind
  obtain ⟨c, hc, hstamp⟩ := (madeAt_pass ha).stamp_of_builtIn
  obtain ⟨d, hd, hstamp'⟩ := (madeAt_pass hb).stamp_of_builtIn
  have hstart : (pass m xs).2.mint.reset.2.currentBuiltIn =
      m.currentBuiltIn + Int64.ofNat (builtInNames (xs.map .mint)).length := by
    unfold pass
    rw [currentBuiltIn_reset, ← stateAt_length, currentBuiltIn_stateAt, List.take_length]
  unfold Ident.same
  rw [decide_eq_false_iff_not, hstamp, hstamp', hstart, Int64.add_assoc, ← Int64.ofNat_add]
  intro heq
  -- the first pass numbers up to where the second starts, and both together not once around
  exact ofNat_ne_ofNat (by omega) (by omega) ((Int64.add_right_inj _).mp heq)

/-! ## The counters in a run of a fresh session -/

/-- Whether a step draws a stamp of locals: it asks the mint for a local, and gets it. -/
def Step.drawsLocal : Step Operand → Except Refusal Mint.Reply → Bool
  | .mint (.mintLocal _), .ok _ => true
  | .mint (.mintScoped _ _), .ok _ => true
  | .mint (.rename _), .ok _ => true
  | _, _ => false

/-- Whether step number `n` of a run draws a stamp of locals. -/
def drawsLocalAt (s : Session) (xs : List (Step Operand)) (n : Nat) : Bool :=
  match xs[n]?, (s.run xs).1[n]? with
  | some x, some answer => x.drawsLocal answer
  | _, _ => false

/-- How many steps draw a stamp of locals, from number `j` on and before number `k`. -/
def localsDrawn (s : Session) (xs : List (Step Operand)) (j k : Nat) : Nat :=
  ((Finset.Ico j k).filter fun n => drawsLocalAt s xs n = true).card

/-- A stretch without steps draws nothing. -/
lemma localsDrawn_self (s : Session) (xs : List (Step Operand)) (j : Nat) :
    localsDrawn s xs j j = 0 := by
  unfold localsDrawn
  rw [Finset.Ico_self, Finset.filter_empty, Finset.card_empty]

/-- What is drawn in a stretch, and by the next step. -/
lemma localsDrawn_succ (s : Session) (xs : List (Step Operand)) {j k : Nat} (hjk : j ≤ k) :
    localsDrawn s xs j (k + 1) = localsDrawn s xs j k + (drawsLocalAt s xs k).toNat := by
  unfold localsDrawn
  rw [Finset.card_filter, Finset.card_filter, Finset.sum_Ico_succ_top hjk]
  congr 1
  rcases drawsLocalAt s xs k <;> rfl

/-- A step of a run draws what it draws in the state before it. -/
lemma drawsLocalAt_of_getElem? (s : Session) {xs : List (Step Operand)} {n : Nat}
    {x : Step Operand} (hx : xs[n]? = some x) :
    drawsLocalAt s xs n = x.drawsLocal ((s.stateAt xs n).step x).1 := by
  unfold drawsLocalAt stateAt
  rw [isRun.answer_eq, hx]
  rfl

/-- Unless it is taken back, the counter of locals is raised by the steps that draw from it. -/
lemma current_step {s : Session} {x : Step Operand}
    (hx : x = .mint .reset → s.mint.checkpoint = none) :
    (s.step x).2.mint.current =
      s.mint.current + Int64.ofNat (x.drawsLocal (s.step x).1).toNat := by
  rcases x with (name | ⟨name, scope⟩ | name | target | _) | target | i
  · rfl
  · rfl
  · exact (Int64.add_zero _).symm
  · rcases step_rename_cases s target with ⟨e, hstep⟩ | ⟨name, hstep⟩
    · rw [hstep]
      exact (Int64.add_zero _).symm
    · rw [hstep]
      rfl
  · show s.mint.reset.2.current = _
    unfold Mint.reset
    rw [hx rfl]
    exact (Int64.add_zero _).symm
  · rcases step_key_cases s target with ⟨e, hstep⟩ | hstep <;> rw [hstep]
    · exact (Int64.add_zero _).symm
    · exact (Int64.add_zero _).symm
  · exact (Int64.add_zero _).symm

/-- A counter that is raised by one or not at all, and not past its end, counts. -/
lemma toInt_of_raised {a b : Stamp} {n : Nat} (hn : n ≤ 1) (h : b = a + Int64.ofNat n)
    (hw : b = a + 1 → a < b) : b.toInt = a.toInt + n := by
  rcases Nat.le_one_iff_eq_zero_or_eq_one.mp hn with rfl | rfl
  · rw [h]
    exact (congrArg Int64.toInt (Int64.add_zero a)).trans (Int.add_zero _).symm
  · have hlt := hw h
    rw [Int64.lt_iff_toInt_lt] at hlt
    have hle := toInt_add_one_le a
    have hb : b.toInt ≤ a.toInt + 1 := h ▸ hle
    omega

section run

variable {settings : Settings} {xs : List (Step Operand)} {j k r : Nat}

/-- The counter of built-in identifiers is the number of steps that mint one. -/
lemma toInt_currentBuiltIn_stateAt (hw : (fresh settings).NeverWraps xs) (k : Nat) :
    ((fresh settings).stateAt xs k).mint.currentBuiltIn.toInt =
      (builtInNames (xs.take k)).length := by
  induction k with
  | zero => rfl
  | succ k ih =>
      rcases hx : xs[k]? with _ | x
      · unfold stateAt at ih ⊢
        rw [take_succ_of_none hx]
        exact ih
      · obtain ⟨-, hun⟩ := hw.outcome hx
        have hone : x.builtInName?.toList.length ≤ 1 := by rcases x.builtInName? <;> simp
        have hstep := toInt_of_raised hone (currentBuiltIn_step _ x) hun.builtIns
        rw [length_builtInNames_take_succ hx, Nat.cast_add, ← ih, ← hstep]
        unfold stateAt
        rw [isRun.state_succ _ hx]

/-- Between resets that restore, the counter of locals counts the steps that draw from it. -/
lemma toInt_current_stateAt (hw : (fresh settings).NeverWraps xs) (hjk : j ≤ k)
    (hno : ∀ m, j ≤ m → m < k → ¬ RestoresAt xs m) :
    ((fresh settings).stateAt xs k).mint.current.toInt =
      ((fresh settings).stateAt xs j).mint.current.toInt + localsDrawn (fresh settings) xs j k := by
  induction k, hjk using Nat.le_induction with
  | base => rw [localsDrawn_self, Nat.cast_zero, add_zero]
  | succ k hjk ih =>
      have hk := ih fun m hjm hmk => hno m hjm (by omega)
      rw [localsDrawn_succ _ _ hjk, Nat.cast_add, ← add_assoc, ← hk]
      rcases hx : xs[k]? with _ | x
      · have hdraws : drawsLocalAt (fresh settings) xs k = false := by
          unfold drawsLocalAt
          rw [hx]
        rw [hdraws]
        unfold stateAt
        rw [take_succ_of_none hx]
        exact (add_zero _).symm
      · obtain ⟨-, hun⟩ := hw.outcome hx
        have hfirst : x = .mint .reset →
            ((fresh settings).stateAt xs k).mint.checkpoint = none := by
          rintro rfl
          exact checkpoint_eq_none_of_no_reset fun r hr hreset =>
            hno k hjk (Nat.lt_succ_self k) ⟨hx, r, hr, hreset⟩
        rw [drawsLocalAt_of_getElem? _ hx,
          ← toInt_of_raised (Bool.toNat_le _) (current_step hfirst) hun.locals]
        unfold stateAt
        rw [isRun.state_succ _ hx]

end run

/-- Behind a reset a checkpoint is recorded. -/
lemma exists_checkpoint_of_resetsAt (s : Session) {xs : List (Step Operand)} {r : Nat}
    (h : ResetsAt xs r) : ∃ level, (s.stateAt xs (r + 1)).mint.checkpoint = some level := by
  unfold stateAt
  rw [isRun.state_succ _ h]
  show ∃ level, (s.run (xs.take r)).2.mint.reset.2.checkpoint = some level
  rcases hc : (s.run (xs.take r)).2.mint.checkpoint with _ | level
  · refine ⟨(s.run (xs.take r)).2.mint.current, ?_⟩
    rw [Mint.reset, hc]
  · refine ⟨level, ?_⟩
    rw [reset_of_checkpoint hc, hc]

/-- Behind a reset that restores, the counter of locals is at the checkpoint. -/
lemma exists_current_eq_of_restoresAt (s : Session) {xs : List (Step Operand)} {r : Nat}
    (h : RestoresAt xs r) : ∃ level, (s.stateAt xs (r + 1)).mint.checkpoint = some level ∧
      (s.stateAt xs (r + 1)).mint.current = level := by
  obtain ⟨hr, r', hr', hreset⟩ := h
  obtain ⟨level, hlevel⟩ := exists_checkpoint_of_resetsAt s hreset
  have hbefore := checkpoint_stateAt hr' hlevel
  refine ⟨level, checkpoint_stateAt (Nat.le_succ_of_le hr') hlevel, ?_⟩
  unfold stateAt at hbefore ⊢
  rw [isRun.state_succ _ hr]
  show (s.run (xs.take r)).2.mint.reset.2.current = level
  rw [reset_of_checkpoint hbefore]

/-- **What is done behind a reset can be done again behind the next.** Take any mint with a
checkpoint and any steps on it, among them renamings that fail or that refer to what earlier steps
made. Reset the mint and perform the steps, and do both a second time.

* Each step answers the same in both passes, be it an identifier or an error, unless it mints a
  built-in identifier.
* A built-in identifier of the first pass is not the same as any of the second. (There are only
  `2 ^ 64` stamps.)

Behind the first `k` steps of any run of a fresh session,

* the checkpoint is what it was when it was recorded, and the settings are those of the start;

and if no counter passes its end,

* the checkpoint is not above the counter of locals;
* the counter of built-in identifiers is the number of steps that mint one;
* the counter of locals is the number of steps that have drawn from it; once it was restored, it is
  the checkpoint and the number of those that have drawn from it since. -/
theorem numbering_reproduced :
    (∀ (m : Mint) (level : Stamp) (xs : List (Mint.Step Operand)), m.checkpoint = some level →
      let first := pass m.reset.2 xs
      let second := pass first.2.mint.reset.2 xs
      (∀ (n : Nat) (x : Mint.Step Operand), xs[n]? = some x → (∀ name, x ≠ .mintBuiltIn name) →
          first.1[n]? = second.1[n]?) ∧
        ((builtInNames (xs.map .mint)).length ≤ 2 ^ 63 → ∀ (j k : Nat) (a b : Ident),
          first.1[j]? = some (.ok (.ident a)) → second.1[k]? = some (.ok (.ident b)) →
          a.kind = .builtIn → b.kind = .builtIn → a.same b = false)) ∧
      ∀ (settings : Settings) (xs : List (Step Operand)),
        let mintAt k := ((fresh settings).stateAt xs k).mint
        (∀ j k level, j ≤ k → (mintAt j).checkpoint = some level →
          (mintAt k).checkpoint = some level) ∧
        (∀ k, (mintAt k).settings = settings) ∧
        ((fresh settings).NeverWraps xs → ∀ k,
          (∀ level, (mintAt k).checkpoint = some level → level ≤ (mintAt k).current) ∧
          (mintAt k).currentBuiltIn.toInt = (builtInNames (xs.take k)).length ∧
          ((∀ r < k, ¬ RestoresAt xs r) →
            (mintAt k).current.toInt = localsDrawn (fresh settings) xs 0 k) ∧
          ∀ r < k, RestoresAt xs r → (∀ n, r < n → n < k → ¬ RestoresAt xs n) →
            ∃ level, (mintAt k).checkpoint = some level ∧
              (mintAt k).current.toInt =
                level.toInt + localsDrawn (fresh settings) xs (r + 1) k) := by
  refine ⟨fun m level xs h => ⟨?_, ?_⟩, fun settings xs => ⟨?_, ?_, fun hw k => ⟨?_, ?_, ?_, ?_⟩⟩⟩
  · intro n x hx hname
    exact answer_second_pass h hx hname
  · intro hlength j k a b ha hb hakind hbkind
    exact builtIn_second_pass hlength ha hb hakind hbkind
  · intro j k level hjk h
    exact checkpoint_stateAt hjk h
  · intro k
    exact settings_stateAt _ xs k
  · intro level h
    exact ((sound_stateAt hw k).checkpoint level h).2
  · exact toInt_currentBuiltIn_stateAt hw k
  · intro hno
    exact (toInt_current_stateAt hw (Nat.zero_le k) fun r _ hr => hno r hr).trans (zero_add _)
  · intro r hrk hr hlast
    obtain ⟨level, hlevel, hcurrent⟩ := exists_current_eq_of_restoresAt (fresh settings) hr
    refine ⟨level, checkpoint_stateAt hrk hlevel, ?_⟩
    rw [toInt_current_stateAt hw hrk hlast, hcurrent]

/-- Behind a reset to the checkpoint 3, the local `x` has the stamp 4 in both passes, its renaming
5, and renaming a built-in identifier fails in both, while `int` gets a new stamp. In a run, a
scoped and a renamed local are counted from the checkpoint 1 on. -/
theorem numbering_reproduced_with_failures :
    let m : Mint := { current := 7, currentBuiltIn := 2, checkpoint := some 3 }
    let xs : List (Mint.Step Operand) :=
      [.mintLocal "x", .mintBuiltIn "int", .rename (.register 0), .rename (.register 1),
        .rename (.register 5)]
    let first := pass m.reset.2 xs
    let second := pass first.2.mint.reset.2 xs
    let ys : List (Step Operand) :=
      [.mint (.mintLocal "a"), .mint .reset, .mint (.mintLocal "b"),
        .mint (.rename (.literal (.global "g"))), .mint .reset, .mint (.mintBuiltIn "int"),
        .mint (.mintScoped "c" 1), .mint (.rename (.register 0))]
    let last := ((fresh {}).stateAt ys 8).mint
    m.checkpoint = some 3 ∧ (builtInNames (xs.map .mint)).length ≤ 2 ^ 63 ∧
      first.1 = [.ok (.ident (.unitLocal "x" 4)), .ok (.ident (.builtIn "int" 3)),
        .ok (.ident (.unitLocal "x" 5)), .error (.misuse (.renameNonLocal "int")),
        .error (.noRegister 5)] ∧
      second.1[1]? = some (Except.ok (Mint.Reply.ident (.builtIn "int" 4))) ∧
      first.1[2]? = second.1[2]? ∧ first.1[3]? = second.1[3]? ∧ first.1[4]? = second.1[4]? ∧
      (Ident.builtIn "int" 3).same (.builtIn "int" 4) = false ∧
      (fresh {}).NeverWraps ys ∧ RestoresAt ys 4 ∧ (∀ n, 4 < n → n < 8 → ¬ RestoresAt ys n) ∧
      localsDrawn (fresh {}) ys 5 8 = 2 ∧
      (∃ level, last.checkpoint = some level ∧ level ≤ last.current ∧
        last.current.toInt = level.toInt + 2) ∧
      last.currentBuiltIn.toInt = 1 := by
  intro m xs first second ys last
  obtain ⟨hpasses, hruns⟩ := numbering_reproduced
  obtain ⟨hanswers, hbuiltIns⟩ := hpasses m 3 xs rfl
  obtain ⟨-, -, hcounters⟩ := hruns {} ys
  have hlength : (builtInNames (xs.map .mint)).length ≤ 2 ^ 63 := by decide
  have hw : (fresh {}).NeverWraps ys := neverWraps_of_length_lt {} (by decide)
  have hrestores : RestoresAt ys 4 := ⟨rfl, 1, by decide, rfl⟩
  have hlast : ∀ n, 4 < n → n < 8 → ¬ RestoresAt ys n := by
    rintro n hn hn' ⟨hreset, -⟩
    have hother : ∀ n < 8, 4 < n → ys[n]? ≠ some (.mint .reset) := by decide
    exact hother n hn' hn hreset
  have hdrawn : localsDrawn (fresh {}) ys 5 8 = 2 := by decide
  have hsecond : second.1[1]? = some (Except.ok (Mint.Reply.ident (.builtIn "int" 4))) := rfl
  obtain ⟨hle, hcount, -, hsince⟩ := hcounters hw 8
  obtain ⟨level, hlevel, hcurrent⟩ := hsince 4 (by decide) hrestores hlast
  refine ⟨rfl, hlength, rfl, hsecond, ?_, ?_, ?_, ?_, hw, hrestores, hlast, hdrawn,
    ⟨level, hlevel, hle level hlevel, ?_⟩, hcount⟩
  · exact hanswers 2 _ rfl (by simp)
  · exact hanswers 3 _ rfl (by simp)
  · exact hanswers 4 _ rfl (by simp)
  · exact hbuiltIns hlength 1 1 _ _ rfl hsecond rfl rfl
  · rw [hdrawn] at hcurrent
    exact hcurrent

end Session

end MiddleEnd
