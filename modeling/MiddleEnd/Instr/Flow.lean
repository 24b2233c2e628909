import MiddleEnd.Ident.Wire
import MiddleEnd.Instr.Operand
import MiddleEnd.Instr.TargetOperation

/-!
# Instructions of the flow graph

The blocks of a control-flow graph hold basic instructions: everything but the instruction that
ends the block. A basic instruction computes a value (`Flow.Operation`) or manages the frame and
the exception handlers (`Flow.Basic`), and has registers for its arguments and results
(`Flow.Instruction`). A `Flow.Body` is the list of those of one block.
-/

namespace MiddleEnd.Flow

/-- Whether a place in memory may change once it is initialised. -/
inductive Mutability where
  /-- It may be written again. -/
  | mutable
  /-- It is never written again. -/
  | immutable
deriving DecidableEq

namespace Mutability

/-- The word for a mutability. -/
def label : Mutability → String
  | mutable => "Mutable"
  | immutable => "Immutable"

/-- Both mutabilities. -/
def all : List Mutability := [mutable, immutable]

instance : Described Mutability := ⟨fun m => .bare m.label⟩

instance : Readable Mutability := ⟨Case.readAny (Case.ofLabels label all)⟩

end Mutability

/-! ## Operations -/

/-- Operations that compute values into registers. -/
inductive Operation where
  /-- Copies a register. -/
  | move
  /-- Copies a register to its stack slot. -/
  | spill
  /-- Copies a stack slot to its register. -/
  | reload
  /-- An integer constant. -/
  | constInt (value : Int64)
  /-- A 32-bit float constant, as bits. -/
  | constFloat32 (bits : UInt32)
  /-- A 64-bit float constant, as bits. -/
  | constFloat (bits : UInt64)
  /-- The address of a symbol. -/
  | constSymbol (symbol : Symbol)
  /-- A vector constant. -/
  | constVector (bits : VectorBits)
  /-- Moves the stack pointer. -/
  | stackOffset (offset : Int64)
  /-- Reads memory. -/
  | load (chunk : MemoryChunk) (addressing : Addressing) (mutability : Mutability) (isAtomic : Bool)
  /-- Writes memory; an assignment overwrites what was initialised before. -/
  | store (chunk : MemoryChunk) (addressing : Addressing) (isAssignment : Bool)
  /-- An integer operation on registers. -/
  | intOp (op : IntOperation)
  /-- An integer operation with a constant. -/
  | intOpImmediate (op : IntOperation) (immediate : Int64)
  /-- An atomic update of memory. -/
  | intOpAtomic (op : AtomicOperation) (size : AtomicWidth) (addressing : Addressing)
  /-- A float operation. -/
  | floatOp (width : FloatWidth) (op : FloatOperation)
  /-- Chooses one of two registers. -/
  | select (condition : Condition)
  /-- A cast that keeps the bits. -/
  | reinterpretCast (cast : ReinterpretCast)
  /-- A cast that converts the value. -/
  | staticCast (cast : StaticCast)
  /-- Asks whether a probe is enabled. -/
  | probeIsEnabled (name : String)
  /-- The identity, which no optimisation sees through. -/
  | blackBox
  /-- An operation that only the target machine has. -/
  | target (op : TargetOperation)
  /-- Opens a region of local allocations. -/
  | beginRegion
  /-- Closes a region of local allocations. -/
  | endRegion
  /-- Tells the debugger which registers hold an identifier, and which parameter it is, if any. -/
  | nameForDebugger (ident : Ident) (parameter : Option UInt64) (regs : List Reg)
  /-- The pointer to the state of the domain. -/
  | domainState
  /-- A safepoint. -/
  | poll
  /-- An allocation, its size with all headers. -/
  | alloc (bytes : UInt64) (sites : List AllocSite) (mode : AllocMode)
deriving DecidableEq

namespace Operation

instance : Described Operation where
  form
    | move => .bare "Move"
    | spill => .bare "Spill"
    | reload => .bare "Reload"
    | constInt value => .single "ConstInt" (form value)
    | constFloat32 bits => .single "ConstFloat32" (form bits)
    | constFloat bits => .single "ConstFloat" (form bits)
    | constSymbol symbol => .single "ConstSymbol" (form symbol)
    | constVector bits => .single "ConstVec128" (form bits)
    | stackOffset offset => .single "StackOffset" (form offset)
    | load chunk addressing mutability isAtomic =>
      .labelled "Load" [("memory_chunk", form chunk), ("addressing_mode", form addressing),
        ("mutability", form mutability), ("is_atomic", form isAtomic)]
    | store chunk addressing isAssignment =>
      .labelled "Store" [("memory_chunk", form chunk), ("addressing_mode", form addressing),
        ("is_assignment", form isAssignment)]
    | intOp op => .single "IntOp" (form op)
    | intOpImmediate op immediate => .labelled "IntOpImm" [("op", form op), ("imm", form immediate)]
    | intOpAtomic op size addressing =>
      .labelled "IntOpAtomic" [("op", form op), ("size", form size),
        ("addressing_mode", form addressing)]
    | floatOp width op => .labelled "FloatOp" [("width", form width), ("op", form op)]
    | select condition => .single "Csel" (form condition)
    | reinterpretCast cast => .single "ReinterpretCast" (form cast)
    | staticCast cast => .single "StaticCast" (form cast)
    | probeIsEnabled name => .labelled "ProbeIsEnabled" [("name", form name)]
    | blackBox => .bare "Opaque"
    | target op => .single "Specific" (form op)
    | beginRegion => .bare "BeginRegion"
    | endRegion => .bare "EndRegion"
    | nameForDebugger ident parameter regs =>
      .labelled "NameForDebugger" [("ident", form ident), ("which_parameter", form parameter),
        ("regs", form regs)]
    | domainState => .bare "DlsGet"
    | poll => .bare "Poll"
    | alloc bytes sites mode =>
      .labelled "Alloc" [("bytes", form bytes), ("dbginfo", form sites), ("mode", form mode)]

/-- The cases of an operation. -/
def cases : List (Case Operation) :=
  [.bare "Move" move,
   .bare "Spill" spill,
   .bare "Reload" reload,
   .single "ConstInt" constInt,
   .single "ConstFloat32" constFloat32,
   .single "ConstFloat" constFloat,
   .single "ConstSymbol" constSymbol,
   .single "ConstVec128" constVector,
   .single "StackOffset" stackOffset,
   .labelled "Load" fun r =>
    return load (← r.get "memory_chunk") (← r.get "addressing_mode")
      (← r.get "mutability") (← r.get "is_atomic"),
   .labelled "Store" fun r =>
    return store (← r.get "memory_chunk") (← r.get "addressing_mode") (← r.get "is_assignment"),
   .single "IntOp" intOp,
   .labelled "IntOpImm" fun r => return intOpImmediate (← r.get "op") (← r.get "imm"),
   .labelled "IntOpAtomic" fun r =>
    return intOpAtomic (← r.get "op") (← r.get "size") (← r.get "addressing_mode"),
   .labelled "FloatOp" fun r => return floatOp (← r.get "width") (← r.get "op"),
   .single "Csel" select,
   .single "ReinterpretCast" reinterpretCast,
   .single "StaticCast" staticCast,
   .labelled "ProbeIsEnabled" fun r => return probeIsEnabled (← r.get "name"),
   .bare "Opaque" blackBox,
   .single "Specific" target,
   .bare "BeginRegion" beginRegion,
   .bare "EndRegion" endRegion,
   .labelled "NameForDebugger" fun r =>
    return nameForDebugger (← r.get "ident") (← r.get "which_parameter") (← r.get "regs"),
   .bare "DlsGet" domainState,
   .bare "Poll" poll,
   .labelled "Alloc" fun r => return alloc (← r.get "bytes") (← r.get "dbginfo") (← r.get "mode")]

instance : Readable Operation := ⟨Case.readAny cases⟩

end Operation

/-! ## Basic instructions -/

/-- What a basic instruction does. -/
inductive Basic where
  /-- Computes a value. -/
  | op (operation : Operation)
  /-- Reloads the return address before a tail call. -/
  | reloadReturnAddress
  /-- Installs an exception handler. -/
  | pushTrap (handler : Label)
  /-- Removes an exception handler. -/
  | popTrap (handler : Label)
  /-- Opens the frame of the function. -/
  | prologue
  /-- Closes the frame of the function. -/
  | epilogue
  /-- Checks that the stack has room for the largest frame. -/
  | stackCheck (maxFrameBytes : UInt64)
deriving DecidableEq

namespace Basic

instance : Described Basic where
  form
    | op operation => .single "Op" (form operation)
    | reloadReturnAddress => .bare "Reloadretaddr"
    | pushTrap handler => .labelled "Pushtrap" [("lbl_handler", form handler)]
    | popTrap handler => .labelled "Poptrap" [("lbl_handler", form handler)]
    | prologue => .bare "Prologue"
    | epilogue => .bare "Epilogue"
    | stackCheck maxFrameBytes =>
      .labelled "StackCheck" [("max_frame_size_bytes", form maxFrameBytes)]

/-- The cases of a basic instruction. -/
def cases : List (Case Basic) :=
  [.single "Op" op,
   .bare "Reloadretaddr" reloadReturnAddress,
   .labelled "Pushtrap" fun r => return pushTrap (← r.get "lbl_handler"),
   .labelled "Poptrap" fun r => return popTrap (← r.get "lbl_handler"),
   .bare "Prologue" prologue,
   .bare "Epilogue" epilogue,
   .labelled "StackCheck" fun r => return stackCheck (← r.get "max_frame_size_bytes")]

instance : Readable Basic := ⟨Case.readAny cases⟩

end Basic

/-- A basic instruction with its operands; at first there are none, and the stack is as the
function found it. -/
structure Instruction where
  /-- The number of the instruction within its function. -/
  id : InstrId
  /-- What the instruction does. -/
  desc : Basic
  /-- The registers of its arguments. -/
  args : List Reg := []
  /-- The registers of its results. -/
  res : List Reg := []
  /-- How far the stack has grown at this instruction, in bytes. -/
  stackOffset : Int32 := 0
deriving DecidableEq

namespace Instruction

instance : Described Instruction where
  form i := .record "BasicInstruction" [("id", form i.id), ("desc", form i.desc),
    ("args", form i.args), ("res", form i.res), ("stack_offset", form i.stackOffset)]

instance : Readable Instruction where
  read v := do
    let r ← v.asRecord ["id", "desc", "args", "res", "stack_offset"]
    return ⟨← r.get "id", ← r.get "desc", ← r.get "args", ← r.get "res", ← r.get "stack_offset"⟩

end Instruction

/-- The basic instructions of a block, in order. -/
abbrev Body := List Instruction

end MiddleEnd.Flow
