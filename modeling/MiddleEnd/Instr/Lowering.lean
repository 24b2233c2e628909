import MiddleEnd.Event
import MiddleEnd.Instr.Flow
import MiddleEnd.Instr.Linear

/-!
# Lowering

Basic instructions of the flow graph become linear instructions one by one: the order stays, the
operands are carried over, and every operation has one counterpart. What the flow graph leaves
open is filled in later by the emitter: a safepoint gets no return label here.

Every type of the flow graph has its `lower`. `Flow.Body.lower` lowers the body of a block, and
`Flow.Body.lowerLog` is what is reported on the way.
-/

namespace MiddleEnd

/-- The flag that the emitter sees for a mutability. -/
def Flow.Mutability.lower : Flow.Mutability → Linear.MutableFlag
  | .mutable => .mutable
  | .immutable => .immutable

/-- The machine operation of an operation. -/
def Flow.Operation.lower : Flow.Operation → Linear.Operation
  | .move => .move
  | .spill => .spill
  | .reload => .reload
  | .constInt value => .constInt value
  | .constFloat32 bits => .constFloat32 bits
  | .constFloat bits => .constFloat bits
  | .constSymbol symbol => .constSymbol symbol
  | .constVector bits => .constVector bits
  | .stackOffset offset => .stackOffset offset
  | .load chunk addressing mutability isAtomic =>
    .load chunk addressing mutability.lower isAtomic
  | .store chunk addressing isAssignment => .store chunk addressing isAssignment
  | .intOp op => .intOp op
  | .intOpImmediate op immediate => .intOpImmediate op immediate
  | .intOpAtomic op size addressing => .intOpAtomic op size addressing
  | .floatOp width op => .floatOp width op
  | .select condition => .select condition
  | .reinterpretCast cast => .reinterpretCast cast
  | .staticCast cast => .staticCast cast
  | .probeIsEnabled name => .probeIsEnabled name
  | .blackBox => .blackBox
  | .target op => .target op
  | .beginRegion => .beginRegion
  | .endRegion => .endRegion
  | .nameForDebugger ident parameter regs => .nameForDebugger ident parameter regs
  | .domainState => .domainState
  | .poll => .poll none
  | .alloc bytes sites mode => .alloc bytes sites mode

/-- The linear counterpart of what a basic instruction does. -/
def Flow.Basic.lower : Flow.Basic → Linear.Descriptor
  | .op operation => .op operation.lower
  | .reloadReturnAddress => .reloadReturnAddress
  | .pushTrap handler => .pushTrap handler
  | .popTrap handler => .popTrap handler
  | .prologue => .prologue
  | .epilogue => .epilogueOpen
  | .stackCheck maxFrameBytes => .stackCheck maxFrameBytes

/-- The linear instruction of a basic instruction. -/
def Flow.Instruction.lower (i : Flow.Instruction) : Linear.Instruction where
  desc := i.desc.lower
  args := i.args
  res := i.res
  stackOffset := i.stackOffset

/-- The linear instructions of a body. -/
def Flow.Body.lower (body : Flow.Body) : List Linear.Instruction :=
  body.map Flow.Instruction.lower

/-- What the lowering of a body reports: that it begins, and every instruction in turn. -/
def Flow.Body.lowerLog (body : Flow.Body) : List Event :=
  .bodyEntered body.length :: body.map fun i => .instructionLowered i.id

end MiddleEnd
