import MiddleEnd.Ident.Wire
import MiddleEnd.Instr.Operand
import MiddleEnd.Instr.TargetOperation

/-!
# Linear instructions

The flat sequence of instructions that is emitted. Besides what the blocks of the flow graph hold
there is what joins the blocks: labels, branches, the return, the end of the sequence and the end
of the epilogue.
-/

namespace MiddleEnd.Linear

/-- Whether a place in memory may change, as the emitter sees it. -/
inductive MutableFlag where
  /-- It may be written again. -/
  | mutable
  /-- It is never written again. -/
  | immutable
deriving DecidableEq

namespace MutableFlag

/-- The word for a flag. -/
def label : MutableFlag → String
  | mutable => "Mutable"
  | immutable => "Immutable"

/-- Both flags. -/
def all : List MutableFlag := [mutable, immutable]

instance : Described MutableFlag := ⟨fun f => .bare f.label⟩

instance : Readable MutableFlag := ⟨Case.readAny (Case.ofLabels label all)⟩

end MutableFlag

/-! ## Operations -/

/-- Operations of the machine. -/
inductive Operation where
  /-- Copies a register. -/
  | move
  /-- Copies a register to its stack slot. -/
  | spill
  /-- Copies a stack slot to its register. -/
  | reload
  /-- An integer constant. -/
  | constInt (value : Int64)
  /-- A 32-bit float constant, as bits. -/
  | constFloat32 (bits : UInt32)
  /-- A 64-bit float constant, as bits. -/
  | constFloat (bits : UInt64)
  /-- The address of a symbol. -/
  | constSymbol (symbol : Symbol)
  /-- A vector constant. -/
  | constVector (bits : VectorBits)
  /-- Moves the stack pointer. -/
  | stackOffset (offset : Int64)
  /-- Reads memory. -/
  | load (chunk : MemoryChunk) (addressing : Addressing) (mutability : MutableFlag)
      (isAtomic : Bool)
  /-- Writes memory; an assignment overwrites what was initialised before. -/
  | store (chunk : MemoryChunk) (addressing : Addressing) (isAssignment : Bool)
  /-- An integer operation on registers. -/
  | intOp (op : IntOperation)
  /-- An integer operation with a constant. -/
  | intOpImmediate (op : IntOperation) (immediate : Int64)
  /-- An atomic update of memory. -/
  | intOpAtomic (op : AtomicOperation) (size : AtomicWidth) (addressing : Addressing)
  /-- A float operation. -/
  | floatOp (width : FloatWidth) (op : FloatOperation)
  /-- Chooses one of two registers. -/
  | select (condition : Condition)
  /-- A cast that keeps the bits. -/
  | reinterpretCast (cast : ReinterpretCast)
  /-- A cast that converts the value. -/
  | staticCast (cast : StaticCast)
  /-- Asks whether a probe is enabled. -/
  | probeIsEnabled (name : String)
  /-- The identity, which no optimisation sees through. -/
  | blackBox
  /-- An operation that only the target machine has. -/
  | target (op : TargetOperation)
  /-- Opens a region of local allocations. -/
  | beginRegion
  /-- Closes a region of local allocations. -/
  | endRegion
  /-- Tells the debugger which registers hold an identifier, and which parameter it is, if any. -/
  | nameForDebugger (ident : Ident) (parameter : Option UInt64) (regs : List Reg)
  /-- The pointer to the state of the domain. -/
  | domainState
  /-- A safepoint, and where it returns to once that is known. -/
  | poll (returnLabel : Option Label)
  /-- An allocation, its size with all headers. -/
  | alloc (bytes : UInt64) (sites : List AllocSite) (mode : AllocMode)
deriving DecidableEq

namespace Operation

instance : Described Operation where
  form
    | move => .bare "Move"
    | spill => .bare "Spill"
    | reload => .bare "Reload"
    | constInt value => .single "ConstInt" (form value)
    | constFloat32 bits => .single "ConstFloat32" (form bits)
    | constFloat bits => .single "ConstFloat" (form bits)
    | constSymbol symbol => .single "ConstSymbol" (form symbol)
    | constVector bits => .single "ConstVec128" (form bits)
    | stackOffset offset => .single "StackOffset" (form offset)
    | load chunk addressing mutability isAtomic =>
      .labelled "Load" [("memory_chunk", form chunk), ("addressing_mode", form addressing),
        ("mutability", form mutability), ("is_atomic", form isAtomic)]
    | store chunk addressing isAssignment =>
      .labelled "Store" [("memory_chunk", form chunk), ("addressing_mode", form addressing),
        ("is_assignment", form isAssignment)]
    | intOp op => .single "IntOp" (form op)
    | intOpImmediate op immediate => .labelled "IntOpImm" [("op", form op), ("imm", form immediate)]
    | intOpAtomic op size addressing =>
      .labelled "IntOpAtomic" [("op", form op), ("size", form size),
        ("addressing_mode", form addressing)]
    | floatOp width op => .labelled "FloatOp" [("width", form width), ("op", form op)]
    | select condition => .single "Csel" (form condition)
    | reinterpretCast cast => .single "ReinterpretCast" (form cast)
    | staticCast cast => .single "StaticCast" (form cast)
    | probeIsEnabled name => .labelled "ProbeIsEnabled" [("name", form name)]
    | blackBox => .bare "Opaque"
    | target op => .single "Specific" (form op)
    | beginRegion => .bare "BeginRegion"
    | endRegion => .bare "EndRegion"
    | nameForDebugger ident parameter regs =>
      .labelled "NameForDebugger" [("ident", form ident), ("which_parameter", form parameter),
        ("regs", form regs)]
    | domainState => .bare "DlsGet"
    | poll returnLabel => .labelled "Poll" [("return_label", form returnLabel)]
    | alloc bytes sites mode =>
      .labelled "Alloc" [("bytes", form bytes), ("dbginfo", form sites), ("mode", form mode)]

/-- The cases of an operation. -/
def cases : List (Case Operation) :=
  [.bare "Move" move,
   .bare "Spill" spill,
   .bare "Reload" reload,
   .single "ConstInt" constInt,
   .single "ConstFloat32" constFloat32,
   .single "ConstFloat" constFloat,
   .single "ConstSymbol" constSymbol,
   .single "ConstVec128" constVector,
   .single "StackOffset" stackOffset,
   .labelled "Load" fun r =>
    return load (← r.get "memory_chunk") (← r.get "addressing_mode")
      (← r.get "mutability") (← r.get "is_atomic"),
   .labelled "Store" fun r =>
    return store (← r.get "memory_chunk") (← r.get "addressing_mode") (← r.get "is_assignment"),
   .single "IntOp" intOp,
   .labelled "IntOpImm" fun r => return intOpImmediate (← r.get "op") (← r.get "imm"),
   .labelled "IntOpAtomic" fun r =>
    return intOpAtomic (← r.get "op") (← r.get "size") (← r.get "addressing_mode"),
   .labelled "FloatOp" fun r => return floatOp (← r.get "width") (← r.get "op"),
   .single "Csel" select,
   .single "ReinterpretCast" reinterpretCast,
   .single "StaticCast" staticCast,
   .labelled "ProbeIsEnabled" fun r => return probeIsEnabled (← r.get "name"),
   .bare "Opaque" blackBox,
   .single "Specific" target,
   .bare "BeginRegion" beginRegion,
   .bare "EndRegion" endRegion,
   .labelled "NameForDebugger" fun r =>
    return nameForDebugger (← r.get "ident") (← r.get "which_parameter") (← r.get "regs"),
   .bare "DlsGet" domainState,
   .labelled "Poll" fun r => return poll (← r.get "return_label"),
   .labelled "Alloc" fun r => return alloc (← r.get "bytes") (← r.get "dbginfo") (← r.get "mode")]

instance : Readable Operation := ⟨Case.readAny cases⟩

end Operation

/-! ## Instructions -/

/-- What an instruction does. -/
inductive Descriptor where
  /-- Opens the frame of the function. -/
  | prologue
  /-- Begins to close the frame of the function. -/
  | epilogueOpen
  /-- Has closed the frame of the function. -/
  | epilogueClose
  /-- Reloads the return address before a tail call. -/
  | reloadReturnAddress
  /-- Installs an exception handler. -/
  | pushTrap (handler : Label)
  /-- Removes an exception handler. -/
  | popTrap (handler : Label)
  /-- Checks that the stack has room for the largest frame. -/
  | stackCheck (maxFrameBytes : UInt64)
  /-- Computes a value. -/
  | op (operation : Operation)
  /-- The place that a label names. -/
  | label (target : Label)
  /-- A jump, on a condition if there is one. -/
  | branch (condition : Option Condition) (target : Label)
  /-- Leaves the function. -/
  | ret
  /-- Ends the sequence of instructions. -/
  | finish
deriving DecidableEq

namespace Descriptor

instance : Described Descriptor where
  form
    | prologue => .bare "Prologue"
    | epilogueOpen => .bare "EpilogueOpen"
    | epilogueClose => .bare "EpilogueClose"
    | reloadReturnAddress => .bare "Reloadretaddr"
    | pushTrap handler => .labelled "PushTrap" [("lbl_handler", form handler)]
    | popTrap handler => .labelled "PopTrap" [("lbl_handler", form handler)]
    | stackCheck maxFrameBytes =>
      .labelled "StackCheck" [("max_frame_size_bytes", form maxFrameBytes)]
    | op operation => .single "Op" (form operation)
    | label target => .single "Label" (form target)
    | branch condition target =>
      .labelled "Branch" [("test", form condition), ("target", form target)]
    | ret => .bare "Return"
    | finish => .bare "End"

/-- The cases of an instruction. -/
def cases : List (Case Descriptor) :=
  [.bare "Prologue" prologue,
   .bare "EpilogueOpen" epilogueOpen,
   .bare "EpilogueClose" epilogueClose,
   .bare "Reloadretaddr" reloadReturnAddress,
   .labelled "PushTrap" fun r => return pushTrap (← r.get "lbl_handler"),
   .labelled "PopTrap" fun r => return popTrap (← r.get "lbl_handler"),
   .labelled "StackCheck" fun r => return stackCheck (← r.get "max_frame_size_bytes"),
   .single "Op" op,
   .single "Label" label,
   .labelled "Branch" fun r => return branch (← r.get "test") (← r.get "target"),
   .bare "Return" ret,
   .bare "End" finish]

instance : Readable Descriptor := ⟨Case.readAny cases⟩

end Descriptor

/-- An instruction with its operands. -/
structure Instruction where
  /-- What the instruction does. -/
  desc : Descriptor
  /-- The registers of its arguments. -/
  args : List Reg
  /-- The registers of its results. -/
  res : List Reg
  /-- How far the stack has grown at this instruction, in bytes. -/
  stackOffset : Int32
deriving DecidableEq

namespace Instruction

instance : Described Instruction where
  form i := .record "Instruction" [("desc", form i.desc), ("args", form i.args),
    ("res", form i.res), ("stack_offset", form i.stackOffset)]

instance : Readable Instruction where
  read v := do
    let r ← v.asRecord ["desc", "args", "res", "stack_offset"]
    return ⟨← r.get "desc", ← r.get "args", ← r.get "res", ← r.get "stack_offset"⟩

end Instruction

end MiddleEnd.Linear
