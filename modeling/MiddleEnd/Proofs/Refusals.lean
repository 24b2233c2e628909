import MiddleEnd.Proofs.ScopeStack.Scoping
import MiddleEnd.Proofs.Session.Counters

/-!
# Refused steps leave no trace

A session goes on behind a step that was refused, and so does a scope stack. That nothing of such a
step remains is said here of whole runs: without the refused steps, a run gives all its other
answers and ends in the same state.

* `journal` — the steps of a run with their answers; `succeeding` — the steps that were not
  answered by an error.
* `Session.Refuses`, `ScopeStack.Refuses` — when a step is refused, and for what reason. Renaming,
  taking a key and binding anew ask for a local identifier, and the error has the name of the
  identifier that is none; leaving asks for an open scope. `Session.refuses_iff` and
  `ScopeStack.refuses_iff` say that these are all reasons, and `Refuses.step_eq` that the state
  stays.

Whatever runs step by step and does nothing in steps that it answers by an error has the property
(`IsRun.journal_succeeding`, `IsRun.state_succeeding`); `refusals_leave_no_trace` puts it together.
-/

namespace MiddleEnd

/-! ## Runs with errors -/

section runs

variable {σ ι α β ε : Type}

/-- The steps of a run, each with its answer. -/
def journal (run : σ → List ι → List α × σ) (s : σ) (xs : List ι) : List (ι × α) :=
  xs.zip (run s xs).1

/-- The steps of a run that are not answered by an error. -/
def succeeding (run : σ → List ι → List (Except ε β) × σ) (s : σ) (xs : List ι) : List ι :=
  ((journal run s xs).filter (·.2.isOk)).map (·.1)

variable {step : σ → ι → Except ε β × σ} {run : σ → List ι → List (Except ε β) × σ}

/-- The first step is answered first. -/
lemma IsRun.journal_cons (h : IsRun step run) (s : σ) (x : ι) (xs : List ι) :
    journal run s (x :: xs) = (x, (step s x).1) :: journal run (step s x).2 xs := by
  unfold journal
  rw [h.cons, List.zip_cons_cons]

/-- A first step that succeeds is kept. -/
lemma IsRun.succeeding_cons_of_ok (h : IsRun step run) {s : σ} {x : ι} {b : β}
    (hx : (step s x).1 = .ok b) (xs : List ι) :
    succeeding run s (x :: xs) = x :: succeeding run (step s x).2 xs := by
  unfold succeeding
  rw [h.journal_cons, hx, List.filter_cons_of_pos rfl, List.map_cons]

/-- A first step that is answered by an error is left out. -/
lemma IsRun.succeeding_cons_of_error (h : IsRun step run) {s : σ} {x : ι} {e : ε}
    (hx : (step s x).1 = .error e) (xs : List ι) :
    succeeding run s (x :: xs) = succeeding run (step s x).2 xs := by
  unfold succeeding
  rw [h.journal_cons, hx, List.filter_cons_of_neg (by simp [Except.isOk, Except.toBool])]

/-- Without the steps that fail, the others are answered as before. -/
lemma IsRun.journal_succeeding (h : IsRun step run)
    (hstays : ∀ s x e, (step s x).1 = .error e → (step s x).2 = s) (s : σ) (xs : List ι) :
    journal run s (succeeding run s xs) = (journal run s xs).filter (·.2.isOk) := by
  induction xs generalizing s with
  | nil => rfl
  | cons x xs ih =>
      rcases hx : (step s x).1 with e | b
      · have hstate := hstays s x e hx
        rw [h.succeeding_cons_of_error hx, h.journal_cons, hx,
          List.filter_cons_of_neg (by simp [Except.isOk, Except.toBool]), hstate]
        exact ih s
      · rw [h.succeeding_cons_of_ok hx, h.journal_cons, h.journal_cons, hx,
          List.filter_cons_of_pos rfl, ih]

/-- Without the steps that fail, the run ends in the same state. -/
lemma IsRun.state_succeeding (h : IsRun step run)
    (hstays : ∀ s x e, (step s x).1 = .error e → (step s x).2 = s) (s : σ) (xs : List ι) :
    (run s (succeeding run s xs)).2 = (run s xs).2 := by
  induction xs generalizing s with
  | nil => rfl
  | cons x xs ih =>
      rcases hx : (step s x).1 with e | b
      · rw [h.succeeding_cons_of_error hx, h.cons, hstays s x e hx]
        exact ih s
      · rw [h.succeeding_cons_of_ok hx, h.cons, h.cons]
        exact ih (step s x).2

/-- A run has an error as an answer where its step gives the error. -/
lemma IsRun.answer_eq_error_iff (h : IsRun step run) (s : σ) (xs : List ι) (n : Nat) (e : ε) :
    (run s xs).1[n]? = some (.error e) ↔
      ∃ x, xs[n]? = some x ∧ (step (run s (xs.take n)).2 x).1 = .error e := by
  rw [h.answer_eq, Option.map_eq_some_iff]

end runs

/-- The kinds of identifiers that are not local. -/
lemma Ident.not_isLocal_iff {i : Ident} :
    ¬ i.isLocal = true ↔ i.kind ∈ [.global, .applied, .builtIn] := by
  cases i <;> simp [isLocal, kind]

/-! ## Sessions -/

namespace Session

/-- A step of a session is refused, for a reason. -/
inductive Refuses (s : Session) : Step Operand → Refusal → Prop
  /-- Only local identifiers can be renamed. -/
  | rename {target : Operand} {i : Ident} (hfind : s.find target = .ok i)
      (hkind : i.kind ∈ [.global, .applied, .builtIn]) :
      Refuses s (.mint (.rename target)) (.misuse (.renameNonLocal i.name))
  /-- Only local identifiers have keys. -/
  | key {target : Operand} {i : Ident} (hfind : s.find target = .ok i)
      (hkind : i.kind ∈ [.global, .applied, .builtIn]) :
      Refuses s (.key target) (.misuse (.keyOfNonLocal i.name))
  /-- What is to be renamed must be there. -/
  | renameMissing {index : Nat} (hindex : s.registers.size ≤ index) :
      Refuses s (.mint (.rename (.register index))) (.noRegister index)
  /-- What a key is taken of must be there. -/
  | keyMissing {index : Nat} (hindex : s.registers.size ≤ index) :
      Refuses s (.key (.register index)) (.noRegister index)

/-- An operand is not found if it is a register that is not in use. -/
lemma find_eq_error_iff {s : Session} {target : Operand} {e : Refusal} :
    s.find target = .error e ↔
      ∃ index, target = .register index ∧ s.registers.size ≤ index ∧ e = .noRegister index := by
  rcases target with index | i
  · unfold find
    rcases hreg : s.registers[index]? with _ | i
    · have hindex := Array.getElem?_eq_none_iff.mp hreg
      simp [hindex, eq_comm]
    · have hindex := (Array.getElem?_eq_some_iff.mp hreg).1
      simp [hindex]
  · simp [find]

/-- A step that is refused is answered by the reason and does nothing. -/
lemma Refuses.step_eq {s : Session} {x : Step Operand} {e : Refusal} (h : Refuses s x e) :
    s.step x = (.error e, s) := by
  rcases h with ⟨hfind, hkind⟩ | ⟨hfind, hkind⟩ | ⟨hindex⟩ | ⟨hindex⟩
  · exact step_rename_of_not_isLocal hfind (Ident.not_isLocal_iff.mpr hkind)
  · exact step_key_of_not_isLocal hfind (Ident.not_isLocal_iff.mpr hkind)
  · exact step_rename_of_find_eq_error (find_eq_error_iff.mpr ⟨_, rfl, hindex, rfl⟩)
  · exact step_key_of_find_eq_error (find_eq_error_iff.mpr ⟨_, rfl, hindex, rfl⟩)

/-- Renaming fails for one of the reasons. -/
lemma refuses_of_rename {s : Session} {target : Operand} {e : Refusal}
    (h : (s.step (.mint (.rename target))).1 = .error e) :
    Refuses s (.mint (.rename target)) e := by
  rcases hfind : s.find target with e' | i
  · obtain ⟨index, rfl, hindex, rfl⟩ := find_eq_error_iff.mp hfind
    rw [step_rename_of_find_eq_error hfind] at h
    cases h
    exact .renameMissing hindex
  · by_cases hi : i.isLocal = true
    · rw [step_rename_of_isLocal hfind hi] at h
      cases h
    · rw [step_rename_of_not_isLocal hfind hi] at h
      cases h
      exact .rename hfind (Ident.not_isLocal_iff.mp hi)

/-- Taking a key fails for one of the reasons. -/
lemma refuses_of_key {s : Session} {target : Operand} {e : Refusal}
    (h : (s.step (.key target)).1 = .error e) : Refuses s (.key target) e := by
  rcases hfind : s.find target with e' | i
  · obtain ⟨index, rfl, hindex, rfl⟩ := find_eq_error_iff.mp hfind
    rw [step_key_of_find_eq_error hfind] at h
    cases h
    exact .keyMissing hindex
  · by_cases hi : i.isLocal = true
    · rw [step_key_of_isLocal hfind hi] at h
      cases h
    · rw [step_key_of_not_isLocal hfind hi] at h
      cases h
      exact .key hfind (Ident.not_isLocal_iff.mp hi)

/-- **These are all reasons for an error.** -/
theorem refuses_iff {s : Session} {x : Step Operand} {e : Refusal} :
    (s.step x).1 = .error e ↔ Refuses s x e := by
  constructor
  · intro h
    rcases x with (_ | _ | _ | target | _) | target | i
    -- Minting, resetting and adopting never fail.
    · cases h
    · cases h
    · cases h
    · exact refuses_of_rename h
    · cases h
    · exact refuses_of_key h
    · cases h
  · intro h
    rw [h.step_eq]

/-- An error leaves a session as it was. -/
lemma state_eq_of_error (s : Session) (x : Step Operand) (e : Refusal)
    (h : (s.step x).1 = .error e) : (s.step x).2 = s := by
  rw [(refuses_iff.mp h).step_eq]

end Session

/-! ## Scope stacks -/

namespace ScopeStack

variable {V : Type}

/-- A step of a scope stack is refused, for a reason. -/
inductive Refuses (s : ScopeStack V) : Step V → ScopeError → Prop
  /-- There must be a scope to leave. -/
  | leave (hdepth : s.depth = 0) : Refuses s .leave .noOpenScope
  /-- Only local identifiers can be bound anew. -/
  | rebind {i : Ident} {data : V} (hkind : i.kind ∈ [.global, .applied, .builtIn]) :
      Refuses s (.rebind i data) (.cannotRebind i.name (.renameNonLocal i.name))
  /-- Only local identifiers can be renamed. -/
  | rename {i : Ident} (hkind : i.kind ∈ [.global, .applied, .builtIn]) :
      Refuses s (.mint (.rename i)) (.misuse (.renameNonLocal i.name))

/-- To rename a local identifier is to mint one of its name. -/
lemma step_rename_of_isLocal (s : ScopeStack V) {i : Ident} (hi : i.isLocal = true) :
    s.step (.mint (.rename i)) = s.step (.mint (.mintLocal i.name)) := by
  simp only [step, Mint.step, Mint.rename, if_pos hi]
  rfl

/-- To rename any other identifier is refused. -/
lemma step_rename_of_not_isLocal (s : ScopeStack V) {i : Ident} (hi : ¬ i.isLocal = true) :
    s.step (.mint (.rename i)) = (.error (.misuse (.renameNonLocal i.name)), s) := by
  simp only [step, Mint.step, Mint.rename, if_neg hi]
  rfl

/-- A step that is refused is answered by the reason and does nothing. -/
lemma Refuses.step_eq {s : ScopeStack V} {x : Step V} {e : ScopeError} (h : Refuses s x e) :
    s.step x = (.error e, s) := by
  rcases h with ⟨hdepth⟩ | ⟨hkind⟩ | ⟨hkind⟩
  · exact step_leave_of_nil (List.eq_nil_of_length_eq_zero hdepth)
  · exact step_rebind_of_not_isLocal s _ (Ident.not_isLocal_iff.mpr hkind)
  · exact step_rename_of_not_isLocal s (Ident.not_isLocal_iff.mpr hkind)

/-- **These are all reasons for an error.** -/
theorem refuses_iff {s : ScopeStack V} {x : Step V} {e : ScopeError} :
    (s.step x).1 = .error e ↔ Refuses s x e := by
  constructor
  · intro h
    rcases x with _ | _ | ⟨name, data⟩ | ⟨i, data⟩ | _ | _ | _ | i | _
    · cases h
    · rcases hsaved : s.saved with _ | ⟨outer, rest⟩
      · rw [step_leave_of_nil hsaved] at h
        cases h
        exact .leave (by simp [depth, hsaved])
      · rw [step_leave_of_cons hsaved] at h
        cases h
    · cases h
    · by_cases hi : i.isLocal = true
      · rw [step_rebind_of_isLocal s data hi] at h
        cases h
      · rw [step_rebind_of_not_isLocal s data hi] at h
        cases h
        exact .rebind (Ident.not_isLocal_iff.mp hi)
    -- Of the steps of the mint, only renaming can fail.
    · cases h
    · cases h
    · cases h
    · by_cases hi : i.isLocal = true
      · rw [step_rename_of_isLocal s hi] at h
        cases h
      · rw [step_rename_of_not_isLocal s hi] at h
        cases h
        exact .rename (Ident.not_isLocal_iff.mp hi)
    · cases h
  · intro h
    rw [h.step_eq]

/-- An error leaves a scope stack as it was. -/
lemma state_eq_of_error (s : ScopeStack V) (x : Step V) (e : ScopeError)
    (h : (s.step x).1 = .error e) : (s.step x).2 = s := by
  rw [(refuses_iff.mp h).step_eq]

end ScopeStack

/-- **Refused steps leave no trace.** In every run of a session and in every run of a scope stack,
from whatever state,

* the steps that are answered by an error are those that are refused in the state that the steps
  before them lead to, for the reason that the error gives: renaming, taking a key and binding anew
  are refused exactly to global, applied and built-in identifiers, by name; leaving is refused
  exactly at depth zero; and nothing else is refused but a register that is not in use;
* when these steps are left out, every other step has the answer that it had, and the run ends in
  the same state, with the same counters, checkpoint, keys, tables and depth. -/
theorem refusals_leave_no_trace {V : Type} :
    (∀ (s : Session) (xs : List (Session.Step Operand)),
      (∀ n e, (s.run xs).1[n]? = some (.error e) ↔
        ∃ x, xs[n]? = some x ∧ Session.Refuses (s.run (xs.take n)).2 x e) ∧
      journal Session.run s (succeeding Session.run s xs) =
        (journal Session.run s xs).filter (·.2.isOk) ∧
      (s.run (succeeding Session.run s xs)).2 = (s.run xs).2) ∧
    ∀ (s : ScopeStack V) (xs : List (ScopeStack.Step V)),
      (∀ n e, (s.run xs).1[n]? = some (.error e) ↔
        ∃ x, xs[n]? = some x ∧ ScopeStack.Refuses (s.run (xs.take n)).2 x e) ∧
      journal ScopeStack.run s (succeeding ScopeStack.run s xs) =
        (journal ScopeStack.run s xs).filter (·.2.isOk) ∧
      (s.run (succeeding ScopeStack.run s xs)).2 = (s.run xs).2 := by
  refine ⟨fun s xs => ⟨?_, ?_, ?_⟩, fun s xs => ⟨?_, ?_, ?_⟩⟩
  · intro n e
    simp only [Session.isRun.answer_eq_error_iff, Session.refuses_iff]
  · exact Session.isRun.journal_succeeding Session.state_eq_of_error s xs
  · exact Session.isRun.state_succeeding Session.state_eq_of_error s xs
  · intro n e
    simp only [ScopeStack.isRun.answer_eq_error_iff, ScopeStack.refuses_iff]
  · exact ScopeStack.isRun.journal_succeeding ScopeStack.state_eq_of_error s xs
  · exact ScopeStack.isRun.state_succeeding ScopeStack.state_eq_of_error s xs

end MiddleEnd
