import MiddleEnd.Proofs.Ident.Wire
import MiddleEnd.Proofs.Instr.SharedWire
import MiddleEnd.Proofs.Wire.Returning

/-!
# Reading instructions back

Instructions of both languages are read back from their wire form, and so is everything that they
are made of. The proofs follow the types: one case per constructor, and in each case the readers of
the fields in their order.

The one thing that can keep an instruction from coming back is an identifier in it, because
identifiers are checked when they are read. `idents` lists the identifiers in an operation, a basic
instruction or a descriptor; only a name for the debugger has one.

* `Flow.Operation.returns`, `Linear.Operation.returns` — an operation comes back if its identifiers
  are well-formed. For machine operations this follows from the shared wire form, safepoints apart.
* `Flow.Operation.wellFormed_of_decode`, `Linear.Operation.wellFormed_of_decode` — in an operation
  that was read they are.
* `instructions_returning` — both together for whole instructions.
-/

namespace MiddleEnd

open Wire (Value Record)

/-! ## Operands -/

lemma Reg.returns (r : Reg) : Returns r :=
  .of_parts (read₁ Reg.mk (returns_uint32 r.number)) rfl

lemma Label.returns (l : Label) : Returns l :=
  .of_parts (read₁ Label.mk (returns_uint32 l.number)) rfl

lemma InstrId.returns (i : InstrId) : Returns i :=
  .of_parts (read₁ InstrId.mk (returns_uint32 i.number)) rfl

lemma returns_regs (regs : List Reg) : Returns regs :=
  returns_list fun r _ => r.returns

/-! ## Arithmetic -/

lemma Comparison.returns (c : Comparison) : Returns c := by
  cases c <;> rfl

lemma IntComparison.returns (c : IntComparison) : Returns c := by
  cases c with
  | signed c => exact .of_parts (read₁ signed c.returns) rfl
  | unsigned c => exact .of_parts (read₁ unsigned c.returns) rfl

lemma FloatComparison.returns (c : FloatComparison) : Returns c := by
  cases c with
  | ordered c => exact .of_parts (read₁ ordered c.returns) rfl
  | negated c => exact .of_parts (read₁ negated c.returns) rfl

lemma IntOperation.returns (op : IntOperation) : Returns op := by
  cases op with
  | mulHigh isSigned => exact .of_parts (read₁ mulHigh (returns_bool isSigned)) rfl
  | leadingZeros argIsNonZero =>
      exact .of_parts (read₁ leadingZeros (returns_bool argIsNonZero)) rfl
  | trailingZeros argIsNonZero =>
      exact .of_parts (read₁ trailingZeros (returns_bool argIsNonZero)) rfl
  | compare c => exact .of_parts (read₁ compare c.returns) rfl
  | _ => rfl

lemma FloatWidth.returns (w : FloatWidth) : Returns w := by
  cases w <;> rfl

lemma FloatOperation.returns (op : FloatOperation) : Returns op := by
  cases op with
  | compare c => exact .of_parts (read₁ compare c.returns) rfl
  | _ => rfl

lemma FloatMemOperation.returns (op : FloatMemOperation) : Returns op := by
  cases op <;> rfl

lemma VectorBits.returns (b : VectorBits) : Returns b :=
  .of_parts (read₂ VectorBits.mk (returns_uint64 b.high) (returns_uint64 b.low)) rfl

lemma Condition.returns (c : Condition) : Returns c := by
  cases c with
  | int c => exact .of_parts (read₁ int c.returns) rfl
  | intImmediate c immediate =>
      exact .of_parts (read₂ intImmediate c.returns (returns_int64 immediate)) rfl
  | float width c => exact .of_parts (read₂ float width.returns c.returns) rfl
  | _ => rfl

lemma ReinterpretCast.returns (c : ReinterpretCast) : Returns c := by
  cases c <;> rfl

lemma StaticCast.returns (c : StaticCast) : Returns c := by
  cases c with
  | floatOfInt width => exact .of_parts (read₁ floatOfInt width.returns) rfl
  | intOfFloat width => exact .of_parts (read₁ intOfFloat width.returns) rfl
  | _ => rfl

/-! ## Memory -/

lemma Symbol.returns (s : Symbol) : Returns s :=
  .of_parts (read₂ Symbol.mk (returns_string s.name) (returns_bool s.isGlobal)) rfl

lemma MemoryChunk.returns (c : MemoryChunk) : Returns c := by
  cases c <;> rfl

lemma Addressing.returns (a : Addressing) : Returns a := by
  cases a with
  | based symbol displacement =>
      exact .of_parts (read₂ based symbol.returns (returns_int64 displacement)) rfl
  | indexed displacement => exact .of_parts (read₁ indexed (returns_int64 displacement)) rfl
  | indexedTwice displacement =>
      exact .of_parts (read₁ indexedTwice (returns_int64 displacement)) rfl
  | scaled scale displacement =>
      exact .of_parts (read₂ scaled (returns_uint8 scale) (returns_int64 displacement)) rfl
  | indexedScaled scale displacement =>
      exact .of_parts (read₂ indexedScaled (returns_uint8 scale) (returns_int64 displacement)) rfl

lemma AtomicOperation.returns (op : AtomicOperation) : Returns op := by
  cases op <;> rfl

lemma AtomicWidth.returns (w : AtomicWidth) : Returns w := by
  cases w <;> rfl

lemma AllocMode.returns (m : AllocMode) : Returns m := by
  cases m <;> rfl

lemma AllocSite.returns (s : AllocSite) : Returns s :=
  .of_parts (read₂ AllocSite.mk (returns_uint64 s.words) (returns_string s.site)) rfl

lemma TargetOperation.returns (op : TargetOperation) : Returns op := by
  cases op with
  | loadAddress addressing => exact .of_parts (read₁ loadAddress addressing.returns) rfl
  | storeInt value addressing isAssignment =>
      exact .of_parts (read₃ storeInt (returns_int64 value) addressing.returns
        (returns_bool isAssignment)) rfl
  | offsetLocation offset addressing =>
      exact .of_parts (read₂ offsetLocation (returns_int64 offset) addressing.returns) rfl
  | floatMemory width op addressing =>
      exact .of_parts (read₃ floatMemory width.returns op.returns addressing.returns) rfl
  | byteSwap width => exact .of_parts (read₁ byteSwap (returns_uint8 width)) rfl
  | prefetch isWrite locality addressing =>
      exact .of_parts (read₃ prefetch (returns_bool isWrite) (returns_uint8 locality)
        addressing.returns) rfl
  | _ => rfl

/-! ## Operations -/

/-- The identifiers in an operation. -/
def Flow.Operation.idents : Flow.Operation → List Ident
  | .nameForDebugger ident _ _ => [ident]
  | _ => []

/-- The identifiers in a machine operation. -/
def Linear.Operation.idents : Linear.Operation → List Ident
  | .nameForDebugger ident _ _ => [ident]
  | _ => []

lemma Flow.Mutability.returns (m : Flow.Mutability) : Returns m := by
  cases m <;> rfl

/-- An operation comes back if its identifiers are well-formed. -/
lemma Flow.Operation.returns {op : Flow.Operation} (h : ∀ i ∈ op.idents, i.WellFormed) :
    Returns op := by
  cases op with
  | constInt value => exact .of_parts (read₁ constInt (returns_int64 value)) rfl
  | constFloat32 bits => exact .of_parts (read₁ constFloat32 (returns_uint32 bits)) rfl
  | constFloat bits => exact .of_parts (read₁ constFloat (returns_uint64 bits)) rfl
  | constSymbol symbol => exact .of_parts (read₁ constSymbol symbol.returns) rfl
  | constVector bits => exact .of_parts (read₁ constVector bits.returns) rfl
  | stackOffset offset => exact .of_parts (read₁ stackOffset (returns_int64 offset)) rfl
  | load chunk addressing mutability isAtomic =>
      exact .of_parts (read₄ load chunk.returns addressing.returns mutability.returns
        (returns_bool isAtomic)) rfl
  | store chunk addressing isAssignment =>
      exact .of_parts (read₃ store chunk.returns addressing.returns (returns_bool isAssignment)) rfl
  | intOp op => exact .of_parts (read₁ intOp op.returns) rfl
  | intOpImmediate op immediate =>
      exact .of_parts (read₂ intOpImmediate op.returns (returns_int64 immediate)) rfl
  | intOpAtomic op size addressing =>
      exact .of_parts (read₃ intOpAtomic op.returns size.returns addressing.returns) rfl
  | floatOp width op => exact .of_parts (read₂ floatOp width.returns op.returns) rfl
  | select condition => exact .of_parts (read₁ select condition.returns) rfl
  | reinterpretCast cast => exact .of_parts (read₁ reinterpretCast cast.returns) rfl
  | staticCast cast => exact .of_parts (read₁ staticCast cast.returns) rfl
  | probeIsEnabled name => exact .of_parts (read₁ probeIsEnabled (returns_string name)) rfl
  | target op => exact .of_parts (read₁ target op.returns) rfl
  | nameForDebugger ident parameter regs =>
      have hident : Returns ident := Ident.decode_encode_iff.mpr (h ident (List.mem_singleton_self _))
      have hparameter : Returns parameter := returns_option fun n => ⟨returns_uint64 n, nofun⟩
      exact .of_parts (read₃ nameForDebugger hident hparameter (returns_regs regs)) rfl
  | alloc bytes sites mode =>
      have hsites : Returns sites := returns_list fun s _ => s.returns
      exact .of_parts (read₃ alloc (returns_uint64 bytes) hsites mode.returns) rfl
  | _ => rfl

/-- What is read as a name for the debugger has an identifier that is read. -/
lemma Flow.Operation.exists_decode_of_nameForDebugger {v : Value} {ident : Ident}
    {parameter : Option UInt64} {regs : List Reg}
    (h : decode v = .ok (nameForDebugger ident parameter regs)) :
    ∃ w : Value, decode w = .ok ident := by
  have htags : (cases.map (·.tag)).Nodup := by decide
  obtain ⟨c, hc, hread⟩ := (Case.readAny_eq_ok_iff htags).mp h
  revert c
  -- of all cases, one has such values
  simp only [cases, List.mem_cons, List.not_mem_nil, or_false, forall_eq_or_imp, forall_eq,
    Case.reads_bare_iff, Case.reads_single_iff, Case.reads_labelled_iff, bind_eq_ok_iff,
    pure_eq_ok_iff, reduceCtorEq, and_false, exists_false, false_imp_iff, true_and, and_true,
    nameForDebugger.injEq]
  rintro ⟨r, -, ident, hident, _, -, _, -, rfl, -, -⟩
  exact ⟨Record.value r "ident", hident⟩

/-- The identifiers in an operation that was read are well-formed. -/
lemma Flow.Operation.wellFormed_of_decode {v : Value} {op : Flow.Operation}
    (h : decode v = .ok op) : ∀ i ∈ op.idents, i.WellFormed := by
  cases op with
  | nameForDebugger ident parameter regs =>
      obtain ⟨w, hw⟩ := exists_decode_of_nameForDebugger h
      intro i hi
      rw [List.mem_singleton.mp hi]
      exact (Ident.Obtainable.decoded hw).wellFormed
  | _ => exact nofun

/-- Lowering keeps the identifiers. -/
lemma Flow.Operation.idents_lower (op : Flow.Operation) : op.lower.idents = op.idents := by
  cases op <;> rfl

/-- A machine operation that is no safepoint comes from an operation. -/
lemma Linear.Operation.exists_lower_eq {m : Linear.Operation} (hp : ∀ target, m ≠ .poll target) :
    ∃ op : Flow.Operation, op ≠ .poll ∧ op.lower = m := by
  have hraise : ∃ op, m.raise? = some op := by
    cases m with
    | poll target => exact absurd rfl (hp target)
    | _ => exact ⟨_, rfl⟩
  obtain ⟨op, hop⟩ := hraise
  obtain rfl := raise?_eq_some_iff.mp hop
  refine ⟨op, ?_, rfl⟩
  rintro rfl
  exact hp none rfl

/-- A machine operation comes back if its identifiers are well-formed. -/
lemma Linear.Operation.returns {m : Linear.Operation} (h : ∀ i ∈ m.idents, i.WellFormed) :
    Returns m := by
  by_cases hp : ∃ target, m = .poll target
  · obtain ⟨target, rfl⟩ := hp
    have htarget : Returns target := returns_option fun l => ⟨l.returns, nofun⟩
    exact .of_parts (read₁ poll htarget) rfl
  · obtain ⟨op, hop, rfl⟩ := exists_lower_eq (not_exists.mp hp)
    rw [Flow.Operation.idents_lower] at h
    have hread : Returns op := Flow.Operation.returns h
    rw [Returns, Flow.Operation.encode_lower hop]
    exact Flow.Operation.decode_lower hread hop

/-- The identifiers in a machine operation that was read are well-formed. -/
lemma Linear.Operation.wellFormed_of_decode {v : Value} {m : Linear.Operation}
    (h : decode v = .ok m) : ∀ i ∈ m.idents, i.WellFormed := by
  by_cases hp : ∃ target, m = .poll target
  · obtain ⟨target, rfl⟩ := hp
    exact nofun
  · obtain ⟨op, hop, rfl⟩ := Flow.Operation.exists_decode_of_lower h (not_exists.mp hp)
    rw [Flow.Operation.idents_lower]
    exact Flow.Operation.wellFormed_of_decode hop

/-! ## Instructions -/

/-- The identifiers in what a basic instruction does. -/
def Flow.Basic.idents : Flow.Basic → List Ident
  | .op operation => operation.idents
  | _ => []

/-- The identifiers in what an instruction does. -/
def Linear.Descriptor.idents : Linear.Descriptor → List Ident
  | .op operation => operation.idents
  | _ => []

/-- What a basic instruction does comes back if its identifiers are well-formed. -/
lemma Flow.Basic.returns {basic : Flow.Basic} (h : ∀ i ∈ basic.idents, i.WellFormed) :
    Returns basic := by
  cases basic with
  | op operation => exact .of_parts (read₁ op (Flow.Operation.returns h)) rfl
  | pushTrap handler => exact .of_parts (read₁ pushTrap handler.returns) rfl
  | popTrap handler => exact .of_parts (read₁ popTrap handler.returns) rfl
  | stackCheck bytes => exact .of_parts (read₁ stackCheck (returns_uint64 bytes)) rfl
  | _ => rfl

/-- What an instruction does comes back if its identifiers are well-formed. -/
lemma Linear.Descriptor.returns {desc : Linear.Descriptor} (h : ∀ i ∈ desc.idents, i.WellFormed) :
    Returns desc := by
  cases desc with
  | pushTrap handler => exact .of_parts (read₁ pushTrap handler.returns) rfl
  | popTrap handler => exact .of_parts (read₁ popTrap handler.returns) rfl
  | stackCheck bytes => exact .of_parts (read₁ stackCheck (returns_uint64 bytes)) rfl
  | op operation => exact .of_parts (read₁ op (Linear.Operation.returns h)) rfl
  | label target => exact .of_parts (read₁ label target.returns) rfl
  | branch condition target =>
      have hcondition : Returns condition :=
        returns_option fun c => ⟨c.returns, by cases c <;> nofun⟩
      exact .of_parts (read₂ branch hcondition target.returns) rfl
  | _ => rfl

/-- The identifiers in what a basic instruction does are well-formed if it was read. -/
lemma Flow.Basic.wellFormed_of_decode {v : Value} {basic : Flow.Basic} (h : decode v = .ok basic) :
    ∀ i ∈ basic.idents, i.WellFormed := by
  have htags : (cases.map (·.tag)).Nodup := by decide
  obtain ⟨c, hc, hread⟩ := (Case.readAny_eq_ok_iff htags).mp h
  cases basic with
  | op operation =>
      revert c
      simp only [cases, List.mem_cons, List.not_mem_nil, or_false, forall_eq_or_imp, forall_eq,
        Case.reads_bare_iff, Case.reads_single_iff, Case.reads_labelled_iff, bind_eq_ok_iff,
        pure_eq_ok_iff, reduceCtorEq, and_false, exists_false, false_imp_iff, and_true,
        op.injEq]
      rintro ⟨w, operation, -, hw, rfl⟩
      exact Flow.Operation.wellFormed_of_decode hw
  | _ => exact nofun

/-- The identifiers in what an instruction does are well-formed if it was read. -/
lemma Linear.Descriptor.wellFormed_of_decode {v : Value} {desc : Linear.Descriptor}
    (h : decode v = .ok desc) : ∀ i ∈ desc.idents, i.WellFormed := by
  have htags : (cases.map (·.tag)).Nodup := by decide
  obtain ⟨c, hc, hread⟩ := (Case.readAny_eq_ok_iff htags).mp h
  cases desc with
  | op operation =>
      revert c
      simp only [cases, List.mem_cons, List.not_mem_nil, or_false, forall_eq_or_imp, forall_eq,
        Case.reads_bare_iff, Case.reads_single_iff, Case.reads_labelled_iff, bind_eq_ok_iff,
        pure_eq_ok_iff, reduceCtorEq, and_false, exists_false, false_imp_iff, true_and, and_true,
        op.injEq]
      rintro ⟨w, operation, -, hw, rfl⟩
      exact Linear.Operation.wellFormed_of_decode hw
  | _ => exact nofun

/-- A basic instruction comes back if its identifiers are well-formed. -/
lemma Flow.Instruction.returns {i : Flow.Instruction}
    (h : ∀ x ∈ i.desc.idents, x.WellFormed) : Returns i :=
  .of_parts (read₅ Flow.Instruction.mk i.id.returns (Flow.Basic.returns h) (returns_regs i.args)
    (returns_regs i.res) (returns_int32 i.stackOffset)) rfl

/-- An instruction comes back if its identifiers are well-formed. -/
lemma Linear.Instruction.returns {i : Linear.Instruction}
    (h : ∀ x ∈ i.desc.idents, x.WellFormed) : Returns i :=
  .of_parts (read₄ Linear.Instruction.mk (Linear.Descriptor.returns h) (returns_regs i.args)
    (returns_regs i.res) (returns_int32 i.stackOffset)) rfl

/-- The identifiers in a basic instruction that was read are well-formed. -/
lemma Flow.Instruction.wellFormed_of_decode {v : Value} {i : Flow.Instruction}
    (h : decode v = .ok i) : ∀ x ∈ i.desc.idents, x.WellFormed := by
  obtain ⟨r, -, h⟩ := bind_eq_ok_iff.mp h
  simp only [bind_eq_ok_iff, pure_eq_ok_iff] at h
  obtain ⟨id, -, desc, hdesc, args, -, res, -, offset, -, rfl⟩ := h
  exact Flow.Basic.wellFormed_of_decode hdesc

/-- The identifiers in an instruction that was read are well-formed. -/
lemma Linear.Instruction.wellFormed_of_decode {v : Value} {i : Linear.Instruction}
    (h : decode v = .ok i) : ∀ x ∈ i.desc.idents, x.WellFormed := by
  obtain ⟨r, -, h⟩ := bind_eq_ok_iff.mp h
  simp only [bind_eq_ok_iff, pure_eq_ok_iff] at h
  obtain ⟨desc, hdesc, args, -, res, -, offset, -, rfl⟩ := h
  exact Linear.Descriptor.wellFormed_of_decode hdesc

/-! ## The main result -/

/-- **Instructions of both languages are read back.** An instruction comes back from its wire form
exactly if the identifiers in it are well-formed; and every instruction that was read, from
whichever spelling, has well-formed identifiers and comes back. -/
theorem instructions_returning :
    (∀ i : Flow.Instruction,
      decode (encode i) = .ok i ↔ ∀ x ∈ i.desc.idents, x.WellFormed) ∧
    (∀ i : Linear.Instruction,
      decode (encode i) = .ok i ↔ ∀ x ∈ i.desc.idents, x.WellFormed) ∧
    (∀ (v : Value) (i : Flow.Instruction), decode v = .ok i →
      (∀ x ∈ i.desc.idents, x.WellFormed) ∧ decode (encode i) = .ok i) ∧
    ∀ (v : Value) (i : Linear.Instruction), decode v = .ok i →
      (∀ x ∈ i.desc.idents, x.WellFormed) ∧ decode (encode i) = .ok i := by
  refine ⟨fun i => ?_, fun i => ?_, fun v i h => ?_, fun v i h => ?_⟩
  · exact ⟨Flow.Instruction.wellFormed_of_decode, Flow.Instruction.returns⟩
  · exact ⟨Linear.Instruction.wellFormed_of_decode, Linear.Instruction.returns⟩
  · have hx := Flow.Instruction.wellFormed_of_decode h
    exact ⟨hx, Flow.Instruction.returns hx⟩
  · have hx := Linear.Instruction.wellFormed_of_decode h
    exact ⟨hx, Linear.Instruction.returns hx⟩

/-- A name for the debugger, written as a bare list and with a scope above all, is read and comes
back with the scope bounded; with an applied name that has no arguments it would not. A branch on a
condition comes back as well. -/
theorem instructions_returning_name :
    let ident (scope : Int) : Value := .record [("Scoped", .record
      [("name", .text "x"), ("stamp", .int 3), ("scope", .int scope)])]
    let op (ident : Value) : Value := .record [("Op", .record [("NameForDebugger", .record
      [("regs", .list [.int 7]), ("ident", ident)])])]
    let v : Value := .list [.int 9, op (ident 4294967295), .list [], .list [.int 7], .int (-16)]
    let named (x : Ident) : Flow.Instruction :=
      ⟨⟨9⟩, .op (.nameForDebugger x none [⟨7⟩]), [], [⟨7⟩], -16⟩
    let i := named (.scopeLocal "x" 3 100000000)
    let branch : Linear.Instruction :=
      ⟨.branch (some (.intImmediate (.signed .lt) (-1))) ⟨4⟩, [⟨0⟩], [], 0⟩
    decode v = .ok i ∧ (∀ x ∈ i.desc.idents, x.WellFormed) ∧ decode (encode i) = .ok i ∧
      decode (encode (named (.applied (.plain "M")))) ≠ .ok (named (.applied (.plain "M"))) ∧
      decode (encode branch) = .ok branch ∧ ∀ x ∈ branch.desc.idents, x.WellFormed := by
  intro ident op v named i branch
  obtain ⟨hflow, hlinear, hread, hreadLinear⟩ := instructions_returning
  have hv : decode v = .ok i := by decide
  have hbranch : decode (encode branch) = .ok branch := (hlinear branch).mpr nofun
  refine ⟨hv, (hread v i hv).1, (hread v i hv).2, ?_, hbranch, (hreadLinear _ _ hbranch).1⟩
  rw [ne_eq, hflow]
  intro hx
  exact Bool.false_ne_true (hx _ (List.mem_singleton_self _))

end MiddleEnd
