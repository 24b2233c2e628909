import MiddleEnd.Instr.Arithmetic
import MiddleEnd.Instr.Memory

/-!
# Operations of the target machine

What only x86-64 has: arithmetic with an operand in memory, sign and zero extension, counters,
fences and prefetching.
-/

namespace MiddleEnd

/-- Operations that only the target machine has. -/
inductive TargetOperation where
  /-- Computes an address. -/
  | loadAddress (addressing : Addressing)
  /-- Stores a constant. -/
  | storeInt (value : Int64) (addressing : Addressing) (isAssignment : Bool)
  /-- Adds a constant to a place in memory. -/
  | offsetLocation (offset : Int64) (addressing : Addressing)
  /-- Float arithmetic with an operand in memory. -/
  | floatMemory (width : FloatWidth) (op : FloatMemOperation) (addressing : Addressing)
  /-- Swaps bytes; the width is in bits. -/
  | byteSwap (width : UInt8)
  /-- Extends the low 32 bits by their sign. -/
  | signExtend32
  /-- Extends the low 32 bits by zeros. -/
  | zeroExtend32
  /-- Reads the clock. -/
  | readTimestamp
  /-- Reads a performance counter. -/
  | readCounter
  /-- Orders loads. -/
  | loadFence
  /-- Orders stores. -/
  | storeFence
  /-- Orders all accesses. -/
  | fullFence
  /-- Tells the machine that it spins. -/
  | pause
  /-- Fetches a line of the cache ahead. -/
  | prefetch (isWrite : Bool) (locality : UInt8) (addressing : Addressing)
deriving DecidableEq

namespace TargetOperation

instance : Described TargetOperation where
  form
    | loadAddress addressing => .single "Lea" (form addressing)
    | storeInt value addressing isAssignment =>
      .labelled "StoreInt" [("value", form value), ("addressing", form addressing),
        ("is_assignment", form isAssignment)]
    | offsetLocation offset addressing =>
      .labelled "OffsetLoc" [("offset", form offset), ("addressing", form addressing)]
    | floatMemory width op addressing =>
      .labelled "FloatArithMem" [("width", form width), ("op", form op),
        ("addressing", form addressing)]
    | byteSwap width => .labelled "Bswap" [("bitwidth", form width)]
    | signExtend32 => .bare "Sextend32"
    | zeroExtend32 => .bare "Zextend32"
    | readTimestamp => .bare "Rdtsc"
    | readCounter => .bare "Rdpmc"
    | loadFence => .bare "Lfence"
    | storeFence => .bare "Sfence"
    | fullFence => .bare "Mfence"
    | pause => .bare "Pause"
    | prefetch isWrite locality addressing =>
      .labelled "Prefetch" [("is_write", form isWrite), ("locality", form locality),
        ("addressing", form addressing)]

/-- The cases of a target operation. -/
def cases : List (Case TargetOperation) :=
  [.single "Lea" loadAddress,
   .labelled "StoreInt" fun r =>
    return storeInt (← r.get "value") (← r.get "addressing") (← r.get "is_assignment"),
   .labelled "OffsetLoc" fun r =>
    return offsetLocation (← r.get "offset") (← r.get "addressing"),
   .labelled "FloatArithMem" fun r =>
    return floatMemory (← r.get "width") (← r.get "op") (← r.get "addressing"),
   .labelled "Bswap" fun r => return byteSwap (← r.get "bitwidth"),
   .bare "Sextend32" signExtend32,
   .bare "Zextend32" zeroExtend32,
   .bare "Rdtsc" readTimestamp,
   .bare "Rdpmc" readCounter,
   .bare "Lfence" loadFence,
   .bare "Sfence" storeFence,
   .bare "Mfence" fullFence,
   .bare "Pause" pause,
   .labelled "Prefetch" fun r =>
    return prefetch (← r.get "is_write") (← r.get "locality") (← r.get "addressing")]

instance : Readable TargetOperation := ⟨Case.readAny cases⟩

end TargetOperation

end MiddleEnd
