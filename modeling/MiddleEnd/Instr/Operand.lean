import MiddleEnd.Wire.Read

/-!
# Operands

Registers, labels and instruction numbers are 32-bit numbers that are never mixed up. On the wire
each is its bare number; in texts a register is `%3`, a label `L12` and an instruction `#7`.
-/

namespace MiddleEnd

/-- A pseudo-register. -/
structure Reg where
  /-- Its number. -/
  number : UInt32
deriving DecidableEq

/-- A code label. -/
structure Label where
  /-- Its number. -/
  number : UInt32
deriving DecidableEq

/-- The number of an instruction within its function. -/
structure InstrId where
  /-- The number. -/
  number : UInt32
deriving DecidableEq

/-- The text of a register. -/
def Reg.render (r : Reg) : String :=
  "%" ++ toString r.number.toNat

/-- The text of a label. -/
def Label.render (l : Label) : String :=
  "L" ++ toString l.number.toNat

/-- The text of an instruction number. -/
def InstrId.render (i : InstrId) : String :=
  "#" ++ toString i.number.toNat

instance : Ord InstrId := ⟨fun a b => compare a.number b.number⟩

instance : Described Reg := ⟨fun r => .wrapper "Reg" (form r.number)⟩

instance : Described Label := ⟨fun l => .wrapper "Label" (form l.number)⟩

instance : Described InstrId := ⟨fun i => .wrapper "InstrId" (form i.number)⟩

instance : Readable Reg := ⟨fun v => (decode v).map Reg.mk⟩

instance : Readable Label := ⟨fun v => (decode v).map Label.mk⟩

instance : Readable InstrId := ⟨fun v => (decode v).map InstrId.mk⟩

end MiddleEnd
