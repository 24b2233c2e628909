import MiddleEnd.Wire.Read

/-!
# Memory as instructions see it

Symbols, the width and the address of an access, atomic updates and allocations. Both instruction
languages share these.
-/

namespace MiddleEnd

/-! ## Accesses -/

/-- A symbol of the linker. -/
structure Symbol where
  /-- The name of the symbol. -/
  name : String
  /-- Whether other units see it. -/
  isGlobal : Bool
deriving DecidableEq

namespace Symbol

instance : Described Symbol where
  form s := .record "Symbol" [("name", form s.name), ("global", form s.isGlobal)]

instance : Readable Symbol where
  read v := do
    let r ← v.asRecord ["name", "global"]
    return ⟨← r.get "name", ← r.get "global"⟩

end Symbol

/-- The width of an access, and how what is read is extended. -/
inductive MemoryChunk where
  /-- A byte, extended by zeros. -/
  | byteUnsigned
  /-- A byte, extended by its sign. -/
  | byteSigned
  /-- 16 bits, extended by zeros. -/
  | sixteenUnsigned
  /-- 16 bits, extended by their sign. -/
  | sixteenSigned
  /-- 32 bits, extended by zeros. -/
  | thirtyTwoUnsigned
  /-- 32 bits, extended by their sign. -/
  | thirtyTwoSigned
  /-- A machine word that holds an integer. -/
  | word
  /-- A machine word that holds a tagged value. -/
  | wordValue
  /-- A 32-bit float. -/
  | single
  /-- A 64-bit float. -/
  | double
  /-- A 128-bit vector at any address. -/
  | vectorUnaligned
  /-- A 128-bit vector at a multiple of 16 bytes. -/
  | vectorAligned
deriving DecidableEq

namespace MemoryChunk

/-- The word for a chunk. -/
def label : MemoryChunk → String
  | byteUnsigned => "ByteUnsigned"
  | byteSigned => "ByteSigned"
  | sixteenUnsigned => "SixteenUnsigned"
  | sixteenSigned => "SixteenSigned"
  | thirtyTwoUnsigned => "ThirtytwoUnsigned"
  | thirtyTwoSigned => "ThirtytwoSigned"
  | word => "Word"
  | wordValue => "WordVal"
  | single => "Single"
  | double => "Double"
  | vectorUnaligned => "OnetwentyeightUnaligned"
  | vectorAligned => "OnetwentyeightAligned"

/-- All chunks. -/
def all : List MemoryChunk :=
  [byteUnsigned, byteSigned, sixteenUnsigned, sixteenSigned, thirtyTwoUnsigned, thirtyTwoSigned,
   word, wordValue, single, double, vectorUnaligned, vectorAligned]

instance : Described MemoryChunk := ⟨fun c => .bare c.label⟩

instance : Readable MemoryChunk := ⟨Case.readAny (Case.ofLabels label all)⟩

end MemoryChunk

/-- How the address of an access is computed. -/
inductive Addressing where
  /-- A symbol and a displacement. -/
  | based (symbol : Symbol) (displacement : Int64)
  /-- A register and a displacement. -/
  | indexed (displacement : Int64)
  /-- Two registers and a displacement. -/
  | indexedTwice (displacement : Int64)
  /-- A register times a scale, and a displacement. -/
  | scaled (scale : UInt8) (displacement : Int64)
  /-- A register, another one times a scale, and a displacement. -/
  | indexedScaled (scale : UInt8) (displacement : Int64)
deriving DecidableEq

namespace Addressing

instance : Described Addressing where
  form
    | based symbol displacement =>
      .labelled "Based" [("symbol", form symbol), ("displacement", form displacement)]
    | indexed displacement => .labelled "Indexed" [("displacement", form displacement)]
    | indexedTwice displacement => .labelled "Indexed2" [("displacement", form displacement)]
    | scaled scale displacement =>
      .labelled "Scaled" [("scale", form scale), ("displacement", form displacement)]
    | indexedScaled scale displacement =>
      .labelled "Indexed2Scaled" [("scale", form scale), ("displacement", form displacement)]

/-- The cases of an address. -/
def cases : List (Case Addressing) :=
  [.labelled "Based" fun r => return based (← r.get "symbol") (← r.get "displacement"),
   .labelled "Indexed" fun r => return indexed (← r.get "displacement"),
   .labelled "Indexed2" fun r => return indexedTwice (← r.get "displacement"),
   .labelled "Scaled" fun r => return scaled (← r.get "scale") (← r.get "displacement"),
   .labelled "Indexed2Scaled" fun r =>
    return indexedScaled (← r.get "scale") (← r.get "displacement")]

instance : Readable Addressing := ⟨Case.readAny cases⟩

end Addressing

/-! ## Atomic updates -/

/-- Operations that read and write memory at once. -/
inductive AtomicOperation where
  /-- Adds, and gives the old value. -/
  | fetchAndAdd
  /-- Adds. -/
  | add
  /-- Subtracts. -/
  | sub
  /-- Bitwise and. -/
  | and
  /-- Bitwise or. -/
  | or
  /-- Bitwise exclusive or. -/
  | xor
  /-- Swaps, and gives the old value. -/
  | exchange
  /-- Compares and swaps, and tells whether it did. -/
  | compareAndSwap
  /-- Compares and swaps, and gives the old value. -/
  | compareExchange
deriving DecidableEq

namespace AtomicOperation

/-- The word for an operation. -/
def label : AtomicOperation → String
  | fetchAndAdd => "FetchAndAdd"
  | add => "Add"
  | sub => "Sub"
  | and => "And"
  | or => "Or"
  | xor => "Xor"
  | exchange => "Exchange"
  | compareAndSwap => "CompareAndSwap"
  | compareExchange => "CompareExchange"

/-- All operations. -/
def all : List AtomicOperation :=
  [fetchAndAdd, add, sub, and, or, xor, exchange, compareAndSwap, compareExchange]

instance : Described AtomicOperation := ⟨fun o => .bare o.label⟩

instance : Readable AtomicOperation := ⟨Case.readAny (Case.ofLabels label all)⟩

end AtomicOperation

/-- The width of an atomic access. -/
inductive AtomicWidth where
  /-- 32 bits. -/
  | thirtyTwo
  /-- 64 bits. -/
  | sixtyFour
  /-- A machine word. -/
  | word
deriving DecidableEq

namespace AtomicWidth

/-- The word for a width. -/
def label : AtomicWidth → String
  | thirtyTwo => "Thirtytwo"
  | sixtyFour => "Sixtyfour"
  | word => "Word"

/-- All widths. -/
def all : List AtomicWidth := [thirtyTwo, sixtyFour, word]

instance : Described AtomicWidth := ⟨fun w => .bare w.label⟩

instance : Readable AtomicWidth := ⟨Case.readAny (Case.ofLabels label all)⟩

end AtomicWidth

/-! ## Allocations -/

/-- Where an allocation lives. -/
inductive AllocMode where
  /-- On the heap. -/
  | heap
  /-- On the stack of the region. -/
  | region
deriving DecidableEq

namespace AllocMode

/-- The word for a place. -/
def label : AllocMode → String
  | heap => "Heap"
  | region => "Local"

/-- All places. -/
def all : List AllocMode := [heap, region]

instance : Described AllocMode := ⟨fun m => .bare m.label⟩

instance : Readable AllocMode := ⟨Case.readAny (Case.ofLabels label all)⟩

end AllocMode

/-- What a debugger is told about one block of an allocation. -/
structure AllocSite where
  /-- The size of the block in words, without its header. -/
  words : UInt64
  /-- The place in the source. -/
  site : String
deriving DecidableEq

namespace AllocSite

instance : Described AllocSite where
  form s := .record "AllocDebugInfo" [("words", form s.words), ("site", form s.site)]

instance : Readable AllocSite where
  read v := do
    let r ← v.asRecord ["words", "site"]
    return ⟨← r.get "words", ← r.get "site"⟩

end AllocSite

end MiddleEnd
