import Mathlib.Data.Set.List
import Mathlib.Tactic.Lemma
import MiddleEnd.Instr.Lowering

/-!
# What lowering keeps and what it reaches

Lowering can be read backwards. Every type of the linear language has its `raise?`, which goes
back to the flow graph where there is something to go back to; it is defined case by case, and not
through lowering. `raise?_eq_some_iff` says of each type that it inverts lowering. Two things
follow:

* nothing is lost: what lowers to the same was the same, the numbers of instructions apart;
* what is reached is what can be raised, and that is everything but the control that joins blocks
  (`Linear.Descriptor.isControl`).

`Flow.Body.lower_faithful` says both of whole bodies. Of one instruction, what becomes of each field
is said by `Flow.Instruction.lower_eq_iff`, and of handlers by `Flow.Basic.lower_eq_trap_iff`.
-/

namespace MiddleEnd

/-! ## Going back -/

/-- The mutability that a flag stands for. -/
def Linear.MutableFlag.raise : Linear.MutableFlag → Flow.Mutability
  | .mutable => .mutable
  | .immutable => .immutable

/-- The operation that a machine operation comes from. A safepoint that knows where it returns to
comes from none. -/
def Linear.Operation.raise? : Linear.Operation → Option Flow.Operation
  | .move => some .move
  | .spill => some .spill
  | .reload => some .reload
  | .constInt value => some (.constInt value)
  | .constFloat32 bits => some (.constFloat32 bits)
  | .constFloat bits => some (.constFloat bits)
  | .constSymbol symbol => some (.constSymbol symbol)
  | .constVector bits => some (.constVector bits)
  | .stackOffset offset => some (.stackOffset offset)
  | .load chunk addressing flag isAtomic => some (.load chunk addressing flag.raise isAtomic)
  | .store chunk addressing isAssignment => some (.store chunk addressing isAssignment)
  | .intOp op => some (.intOp op)
  | .intOpImmediate op immediate => some (.intOpImmediate op immediate)
  | .intOpAtomic op size addressing => some (.intOpAtomic op size addressing)
  | .floatOp width op => some (.floatOp width op)
  | .select condition => some (.select condition)
  | .reinterpretCast cast => some (.reinterpretCast cast)
  | .staticCast cast => some (.staticCast cast)
  | .probeIsEnabled name => some (.probeIsEnabled name)
  | .blackBox => some .blackBox
  | .target op => some (.target op)
  | .beginRegion => some .beginRegion
  | .endRegion => some .endRegion
  | .nameForDebugger ident parameter regs => some (.nameForDebugger ident parameter regs)
  | .domainState => some .domainState
  | .poll none => some .poll
  | .poll (some _) => none
  | .alloc bytes sites mode => some (.alloc bytes sites mode)

/-- What a basic instruction does that becomes a linear one, if there is one. -/
def Linear.Descriptor.raise? : Linear.Descriptor → Option Flow.Basic
  | .prologue => some .prologue
  | .epilogueOpen => some .epilogue
  | .epilogueClose => none
  | .reloadReturnAddress => some .reloadReturnAddress
  | .pushTrap handler => some (.pushTrap handler)
  | .popTrap handler => some (.popTrap handler)
  | .stackCheck maxFrameBytes => some (.stackCheck maxFrameBytes)
  | .op operation => operation.raise?.map .op
  | .label _ => none
  | .branch _ _ => none
  | .ret => none
  | .finish => none

/-- What only the emitter puts into the sequence: the end of an epilogue, labels, jumps, the
return, the end, and a safepoint that knows where it returns to. -/
def Linear.Descriptor.isControl : Linear.Descriptor → Bool
  | .epilogueClose => true
  | .label _ => true
  | .branch _ _ => true
  | .ret => true
  | .finish => true
  | .op (.poll (some _)) => true
  | _ => false

/-! ## Raising inverts lowering -/

/-- A flag stands for the mutability that it comes from. -/
lemma Flow.Mutability.raise_lower (m : Flow.Mutability) : m.lower.raise = m := by
  cases m <;> rfl

/-- The mutability that a flag stands for has this flag. -/
lemma Linear.MutableFlag.lower_raise (f : Linear.MutableFlag) : f.raise.lower = f := by
  cases f <;> rfl

/-- **Raising inverts the lowering of operations.** -/
lemma Linear.Operation.raise?_eq_some_iff {m : Linear.Operation} {op : Flow.Operation} :
    m.raise? = some op ↔ op.lower = m := by
  constructor
  · intro h
    cases m with
    | load chunk addressing flag isAtomic =>
        cases h
        rw [Flow.Operation.lower, flag.lower_raise]
    | poll returnLabel =>
        cases returnLabel with
        | none => cases h; rfl
        | some target => cases h
    | _ => cases h; rfl
  · rintro rfl
    cases op with
    | load chunk addressing mutability isAtomic =>
        rw [Flow.Operation.lower, raise?, mutability.raise_lower]
    | _ => rfl

/-- **Raising inverts the lowering of what instructions do.** -/
lemma Linear.Descriptor.raise?_eq_some_iff {d : Linear.Descriptor} {basic : Flow.Basic} :
    d.raise? = some basic ↔ basic.lower = d := by
  constructor
  · intro h
    cases d with
    | op m =>
        obtain ⟨op, hop, rfl⟩ := Option.map_eq_some_iff.mp h
        rw [Flow.Basic.lower, Linear.Operation.raise?_eq_some_iff.mp hop]
    | _ => cases h <;> rfl
  · rintro rfl
    cases basic with
    | op op => rw [Flow.Basic.lower, raise?, Linear.Operation.raise?_eq_some_iff.mpr rfl]; rfl
    | _ => rfl

/-- What can be raised is what is no control. -/
lemma Linear.Descriptor.isSome_raise? (d : Linear.Descriptor) :
    d.raise?.isSome = !d.isControl := by
  cases d with
  | op m =>
      cases m with
      | poll returnLabel => cases returnLabel <;> rfl
      | _ => rfl
  | _ => rfl

/-! ## Instructions and bodies -/

/-- What instructions do lowers to the same only if it is the same. -/
lemma Flow.Basic.lower_injective : Function.Injective Flow.Basic.lower := by
  intro a b h
  have ha := Linear.Descriptor.raise?_eq_some_iff.mpr h
  exact Option.some.inj (ha.symm.trans (Linear.Descriptor.raise?_eq_some_iff.mpr rfl))

/-- **What becomes of one instruction**: what it does is lowered, and its arguments, its results and
the growth of the stack are those of the linear instruction. -/
lemma Flow.Instruction.lower_eq_iff {i : Flow.Instruction} {j : Linear.Instruction} :
    i.lower = j ↔
      i.desc.lower = j.desc ∧ i.args = j.args ∧ i.res = j.res ∧ i.stackOffset = j.stackOffset := by
  rw [lower, Linear.Instruction.mk.injEq]

/-- **Handlers stay what they are.** A handler is installed by what comes from installing the same
handler, and removed by what comes from removing it. -/
lemma Flow.Basic.lower_eq_trap_iff (basic : Flow.Basic) (handler : Label) :
    (basic.lower = .pushTrap handler ↔ basic = .pushTrap handler) ∧
      (basic.lower = .popTrap handler ↔ basic = .popTrap handler) := by
  constructor
  · exact Flow.Basic.lower_injective.eq_iff (b := .pushTrap handler)
  · exact Flow.Basic.lower_injective.eq_iff (b := .popTrap handler)

/-- Instructions lower to the same exactly if they agree on all but their numbers. -/
lemma Flow.Instruction.lower_eq_lower_iff {i j : Flow.Instruction} :
    i.lower = j.lower ↔
      i.desc = j.desc ∧ i.args = j.args ∧ i.res = j.res ∧ i.stackOffset = j.stackOffset := by
  rw [lower_eq_iff, lower, Flow.Basic.lower_injective.eq_iff]

/-- An instruction is reached exactly if it is no control. -/
lemma Flow.Instruction.exists_lower_eq_iff {j : Linear.Instruction} :
    (∃ i : Flow.Instruction, i.lower = j) ↔ j.desc.isControl = false := by
  have hraise : j.desc.raise?.isSome = true ↔ j.desc.isControl = false := by
    rw [Linear.Descriptor.isSome_raise?, Bool.not_eq_true']
  rw [← hraise, Option.isSome_iff_exists]
  constructor
  · rintro ⟨i, rfl⟩
    exact ⟨i.desc, Linear.Descriptor.raise?_eq_some_iff.mpr rfl⟩
  · rintro ⟨basic, h⟩
    have hdesc := Linear.Descriptor.raise?_eq_some_iff.mp h
    exact ⟨⟨⟨0⟩, basic, j.args, j.res, j.stackOffset⟩, lower_eq_iff.mpr ⟨hdesc, rfl, rfl, rfl⟩⟩

/-- **Lowering loses nothing and reaches all but control.** Two bodies lower to the same exactly
if they are of one length and agree, place by place, on all but the numbers of their instructions.
And a sequence of linear instructions is the lowering of a body exactly if none of them is control:
the end of an epilogue, a label, a jump, the return, the end, or a safepoint with a return label. -/
theorem Flow.Body.lower_faithful :
    (∀ b₁ b₂ : Flow.Body, b₁.lower = b₂.lower ↔
      b₁.length = b₂.length ∧ ∀ n (h₁ : n < b₁.length) (h₂ : n < b₂.length),
        b₁[n].desc = b₂[n].desc ∧ b₁[n].args = b₂[n].args ∧ b₁[n].res = b₂[n].res ∧
          b₁[n].stackOffset = b₂[n].stackOffset) ∧
      ∀ l : List Linear.Instruction,
        (∃ b : Flow.Body, b.lower = l) ↔ ∀ i ∈ l, i.desc.isControl = false := by
  constructor
  · intro b₁ b₂
    simp only [lower, List.ext_getElem_iff, List.length_map, List.getElem_map,
      Flow.Instruction.lower_eq_lower_iff]
  · intro l
    have hrange := Set.ext_iff.mp (Set.range_list_map Flow.Instruction.lower) l
    simp only [Set.mem_range, Set.mem_ofPred_eq, Flow.Instruction.exists_lower_eq_iff] at hrange
    exact hrange

end MiddleEnd
