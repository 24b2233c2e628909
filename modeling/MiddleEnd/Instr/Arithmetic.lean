import MiddleEnd.Wire.Read

/-!
# Arithmetic of instructions

The operations on integers and floats that instructions perform, the comparisons and conditions
they test, and the casts between their operands. Both instruction languages share these.

A type without data is given by the labels of its values (`label`) and the list of all of them
(`all`); the other types list their forms and cases.
-/

namespace MiddleEnd

/-! ## Comparisons -/

/-- Comparison operators. -/
inductive Comparison where
  /-- Equal. -/
  | eq
  /-- Not equal. -/
  | ne
  /-- Less than. -/
  | lt
  /-- Greater than. -/
  | gt
  /-- Less than or equal. -/
  | le
  /-- Greater than or equal. -/
  | ge
deriving DecidableEq

namespace Comparison

/-- The word for a comparison. -/
def label : Comparison → String
  | eq => "Eq"
  | ne => "Ne"
  | lt => "Lt"
  | gt => "Gt"
  | le => "Le"
  | ge => "Ge"

/-- All comparisons. -/
def all : List Comparison := [eq, ne, lt, gt, le, ge]

instance : Described Comparison := ⟨fun c => .bare c.label⟩

instance : Readable Comparison := ⟨Case.readAny (Case.ofLabels label all)⟩

end Comparison

/-- Comparison of integers. -/
inductive IntComparison where
  /-- As signed numbers. -/
  | signed (c : Comparison)
  /-- As unsigned numbers. -/
  | unsigned (c : Comparison)
deriving DecidableEq

namespace IntComparison

instance : Described IntComparison where
  form
    | signed c => .single "Signed" (form c)
    | unsigned c => .single "Unsigned" (form c)

/-- The cases of an integer comparison. -/
def cases : List (Case IntComparison) :=
  [.single "Signed" signed, .single "Unsigned" unsigned]

instance : Readable IntComparison := ⟨Case.readAny cases⟩

end IntComparison

/-- Comparison of floats. The negated forms differ on values that are not numbers. -/
inductive FloatComparison where
  /-- False when an operand is not a number. -/
  | ordered (c : Comparison)
  /-- The negation of an ordered comparison. -/
  | negated (c : Comparison)
deriving DecidableEq

namespace FloatComparison

instance : Described FloatComparison where
  form
    | ordered c => .single "Ordered" (form c)
    | negated c => .single "Not" (form c)

/-- The cases of a float comparison. -/
def cases : List (Case FloatComparison) :=
  [.single "Ordered" ordered, .single "Not" negated]

instance : Readable FloatComparison := ⟨Case.readAny cases⟩

end FloatComparison

/-! ## Integers -/

/-- Integer operations. -/
inductive IntOperation where
  /-- Addition. -/
  | add
  /-- Subtraction. -/
  | sub
  /-- Multiplication. -/
  | mul
  /-- High half of a multiplication. -/
  | mulHigh (isSigned : Bool)
  /-- Division. -/
  | div
  /-- Remainder. -/
  | mod
  /-- Bitwise and. -/
  | and
  /-- Bitwise or. -/
  | or
  /-- Bitwise exclusive or. -/
  | xor
  /-- Logical shift to the left. -/
  | shiftLeft
  /-- Logical shift to the right. -/
  | shiftRight
  /-- Arithmetic shift to the right. -/
  | shiftRightSigned
  /-- Number of leading zeros. -/
  | leadingZeros (argIsNonZero : Bool)
  /-- Number of trailing zeros. -/
  | trailingZeros (argIsNonZero : Bool)
  /-- Number of ones. -/
  | popCount
  /-- A comparison, giving 0 or 1. -/
  | compare (c : IntComparison)
deriving DecidableEq

namespace IntOperation

instance : Described IntOperation where
  form
    | add => .bare "Add"
    | sub => .bare "Sub"
    | mul => .bare "Mul"
    | mulHigh isSigned => .labelled "Mulh" [("signed", form isSigned)]
    | div => .bare "Div"
    | mod => .bare "Mod"
    | and => .bare "And"
    | or => .bare "Or"
    | xor => .bare "Xor"
    | shiftLeft => .bare "Lsl"
    | shiftRight => .bare "Lsr"
    | shiftRightSigned => .bare "Asr"
    | leadingZeros argIsNonZero => .labelled "Clz" [("arg_is_non_zero", form argIsNonZero)]
    | trailingZeros argIsNonZero => .labelled "Ctz" [("arg_is_non_zero", form argIsNonZero)]
    | popCount => .bare "Popcnt"
    | compare c => .single "Comp" (form c)

/-- The cases of an integer operation. -/
def cases : List (Case IntOperation) :=
  [.bare "Add" add,
   .bare "Sub" sub,
   .bare "Mul" mul,
   .labelled "Mulh" fun r => return mulHigh (← r.get "signed"),
   .bare "Div" div,
   .bare "Mod" mod,
   .bare "And" and,
   .bare "Or" or,
   .bare "Xor" xor,
   .bare "Lsl" shiftLeft,
   .bare "Lsr" shiftRight,
   .bare "Asr" shiftRightSigned,
   .labelled "Clz" fun r => return leadingZeros (← r.get "arg_is_non_zero"),
   .labelled "Ctz" fun r => return trailingZeros (← r.get "arg_is_non_zero"),
   .bare "Popcnt" popCount,
   .single "Comp" compare]

instance : Readable IntOperation := ⟨Case.readAny cases⟩

end IntOperation

/-! ## Floats -/

/-- Widths of floats. -/
inductive FloatWidth where
  /-- 64 bits. -/
  | float64
  /-- 32 bits. -/
  | float32
deriving DecidableEq

namespace FloatWidth

/-- The word for a width. -/
def label : FloatWidth → String
  | float64 => "Float64"
  | float32 => "Float32"

/-- All widths. -/
def all : List FloatWidth := [float64, float32]

instance : Described FloatWidth := ⟨fun w => .bare w.label⟩

instance : Readable FloatWidth := ⟨Case.readAny (Case.ofLabels label all)⟩

end FloatWidth

/-- Float operations. -/
inductive FloatOperation where
  /-- Addition. -/
  | add
  /-- Subtraction. -/
  | sub
  /-- Multiplication. -/
  | mul
  /-- Division. -/
  | div
  /-- Negation. -/
  | neg
  /-- Absolute value. -/
  | abs
  /-- A comparison, giving 0 or 1. -/
  | compare (c : FloatComparison)
deriving DecidableEq

namespace FloatOperation

instance : Described FloatOperation where
  form
    | add => .bare "Add"
    | sub => .bare "Sub"
    | mul => .bare "Mul"
    | div => .bare "Div"
    | neg => .bare "Neg"
    | abs => .bare "Abs"
    | compare c => .single "Comp" (form c)

/-- The cases of a float operation. -/
def cases : List (Case FloatOperation) :=
  [.bare "Add" add,
   .bare "Sub" sub,
   .bare "Mul" mul,
   .bare "Div" div,
   .bare "Neg" neg,
   .bare "Abs" abs,
   .single "Comp" compare]

instance : Readable FloatOperation := ⟨Case.readAny cases⟩

end FloatOperation

/-- Float arithmetic with an operand in memory. -/
inductive FloatMemOperation where
  /-- Addition. -/
  | add
  /-- Subtraction. -/
  | sub
  /-- Multiplication. -/
  | mul
  /-- Division. -/
  | div
deriving DecidableEq

namespace FloatMemOperation

/-- The word for an operation. -/
def label : FloatMemOperation → String
  | add => "Add"
  | sub => "Sub"
  | mul => "Mul"
  | div => "Div"

/-- All operations. -/
def all : List FloatMemOperation := [add, sub, mul, div]

instance : Described FloatMemOperation := ⟨fun o => .bare o.label⟩

instance : Readable FloatMemOperation := ⟨Case.readAny (Case.ofLabels label all)⟩

end FloatMemOperation

/-- A 128-bit constant. -/
structure VectorBits where
  /-- The upper 64 bits. -/
  high : UInt64
  /-- The lower 64 bits. -/
  low : UInt64
deriving DecidableEq

namespace VectorBits

instance : Described VectorBits where
  form b := .record "Vec128Bits" [("high", form b.high), ("low", form b.low)]

instance : Readable VectorBits where
  read v := do
    let r ← v.asRecord ["high", "low"]
    return ⟨← r.get "high", ← r.get "low"⟩

end VectorBits

/-! ## Conditions -/

/-- What a branch or a conditional selection tests. -/
inductive Condition where
  /-- The argument is not zero. -/
  | nonZero
  /-- The argument is zero. -/
  | zero
  /-- Compares two integers. -/
  | int (c : IntComparison)
  /-- Compares an integer with a constant. -/
  | intImmediate (c : IntComparison) (immediate : Int64)
  /-- Compares two floats. -/
  | float (width : FloatWidth) (c : FloatComparison)
  /-- The argument is odd. -/
  | odd
  /-- The argument is even. -/
  | even
deriving DecidableEq

namespace Condition

instance : Described Condition where
  form
    | nonZero => .bare "True"
    | zero => .bare "False"
    | int c => .single "Int" (form c)
    | intImmediate c immediate =>
      .labelled "IntImm" [("cmp", form c), ("imm", form immediate)]
    | float width c => .labelled "Float" [("width", form width), ("cmp", form c)]
    | odd => .bare "Odd"
    | even => .bare "Even"

/-- The cases of a condition. -/
def cases : List (Case Condition) :=
  [.bare "True" nonZero,
   .bare "False" zero,
   .single "Int" int,
   .labelled "IntImm" fun r => return intImmediate (← r.get "cmp") (← r.get "imm"),
   .labelled "Float" fun r => return float (← r.get "width") (← r.get "cmp"),
   .bare "Odd" odd,
   .bare "Even" even]

instance : Readable Condition := ⟨Case.readAny cases⟩

end Condition

/-! ## Casts -/

/-- Casts that keep the bits. -/
inductive ReinterpretCast where
  /-- A tagged value as an integer. -/
  | intOfValue
  /-- An integer as a tagged value. -/
  | valueOfInt
  /-- A 32-bit integer as a 32-bit float. -/
  | float32OfInt32
  /-- A 32-bit float as a 32-bit integer. -/
  | int32OfFloat32
  /-- A 64-bit integer as a float. -/
  | floatOfInt64
  /-- A float as a 64-bit integer. -/
  | int64OfFloat
  /-- A vector as a vector. -/
  | vectorOfVector
deriving DecidableEq

namespace ReinterpretCast

/-- The word for a cast. -/
def label : ReinterpretCast → String
  | intOfValue => "IntOfValue"
  | valueOfInt => "ValueOfInt"
  | float32OfInt32 => "Float32OfInt32"
  | int32OfFloat32 => "Int32OfFloat32"
  | floatOfInt64 => "FloatOfInt64"
  | int64OfFloat => "Int64OfFloat"
  | vectorOfVector => "V128OfV128"

/-- All casts. -/
def all : List ReinterpretCast :=
  [intOfValue, valueOfInt, float32OfInt32, int32OfFloat32, floatOfInt64, int64OfFloat,
   vectorOfVector]

instance : Described ReinterpretCast := ⟨fun c => .bare c.label⟩

instance : Readable ReinterpretCast := ⟨Case.readAny (Case.ofLabels label all)⟩

end ReinterpretCast

/-- Casts that convert the value. -/
inductive StaticCast where
  /-- An integer to a float. -/
  | floatOfInt (width : FloatWidth)
  /-- A float to an integer. -/
  | intOfFloat (width : FloatWidth)
  /-- A 32-bit float to a float. -/
  | floatOfFloat32
  /-- A float to a 32-bit float. -/
  | float32OfFloat
deriving DecidableEq

namespace StaticCast

instance : Described StaticCast where
  form
    | floatOfInt width => .single "FloatOfInt" (form width)
    | intOfFloat width => .single "IntOfFloat" (form width)
    | floatOfFloat32 => .bare "FloatOfFloat32"
    | float32OfFloat => .bare "Float32OfFloat"

/-- The cases of a converting cast. -/
def cases : List (Case StaticCast) :=
  [.single "FloatOfInt" floatOfInt,
   .single "IntOfFloat" intOfFloat,
   .bare "FloatOfFloat32" floatOfFloat32,
   .bare "Float32OfFloat" float32OfFloat]

instance : Readable StaticCast := ⟨Case.readAny cases⟩

end StaticCast

end MiddleEnd
