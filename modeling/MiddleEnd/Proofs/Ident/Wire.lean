import MiddleEnd.Ident.Wire
import MiddleEnd.KeySource
import MiddleEnd.Mint
import MiddleEnd.Proofs.Wire.Reading

/-!
# Reading identifiers back

The wire format of identifiers as a relation, apart from the reader and the writer:

* `NameWritten v g`, `ArgWritten v a` — `v` writes a global name, or an argument of one. Records
  may have further fields or be bare lists, on every level.
* `Ident.Written v i` — `v` writes the identifier `i`, which need not be a well-formed one.

The reader accepts what is written (`GlobalName.readName_eq_ok_iff`, `readWritten_eq_ok_iff`), and
the writer writes it (`nameWritten_encode`, `written_encode`); both are inductions over names, so
that nothing is said about reader and writer together before the end. What is left is
`Ident.validate`, which refuses applied names without arguments and bounds scopes
(`decode_eq_ok_iff`, `decode_eq_invalid_iff`).

`Ident.Obtainable` lists the ways to come by an identifier. `Ident.decode_encode_agree` is the main
result.
-/

namespace MiddleEnd

open Wire (Value Record)

/-! ## Global names -/

mutual

/-- A tree writes a global name: it holds the head and the list of arguments. -/
inductive NameWritten : Value → GlobalName → Prop
  | fields {v : Value} {head : String} {items : List Value} {args : List GlobalArg}
      (hv : v.HasFields ["head", "args"] [.text head, .list items])
      (hargs : ArgsWritten items args) : NameWritten v ⟨head, args⟩

/-- Trees write arguments, one by one. -/
inductive ArgsWritten : List Value → List GlobalArg → Prop
  | nil : ArgsWritten [] []
  | cons {v : Value} {items : List Value} {arg : GlobalArg} {args : List GlobalArg}
      (harg : ArgWritten v arg) (hargs : ArgsWritten items args) :
      ArgsWritten (v :: items) (arg :: args)

/-- A tree writes an argument: it holds the parameter and the value. -/
inductive ArgWritten : Value → GlobalArg → Prop
  | fields {v p q : Value} {param value : GlobalName}
      (hv : v.HasFields ["param", "value"] [p, q]) (hparam : NameWritten p param)
      (hvalue : NameWritten q value) : ArgWritten v ⟨param, value⟩

end

namespace GlobalName

/-- Arguments are read from a list. -/
lemma readArgs_eq_ok {v : Value} {args : List GlobalArg} :
    readArgs v = .ok args ↔ ∃ items, v = .list items ∧ readItems items = .ok args := by
  rw [readArgs.eq_def]
  cases v <;> simp

/-- A name is read from its head and its arguments. -/
lemma readName_eq_ok {v : Value} {head : String} {args : List GlobalArg} :
    readName v = .ok ⟨head, args⟩ ↔
      ∃ items, v.HasFields ["head", "args"] [.text head, .list items] ∧
        readItems items = .ok args := by
  have hkeys : ["head", "args"].Nodup := by decide
  simp only [hasFields_iff hkeys, List.map_cons, List.map_nil, List.cons.injEq, and_true]
  rw [readName]
  split
  · next fault hv => simp [hv]
  · next r hv =>
    simp only [hv, Wire.Record.get, bind_eq_ok_iff, pure_eq_ok_iff, decode_string_eq_ok_iff,
      readArgs_eq_ok, mk.injEq, Except.ok.injEq]
    constructor
    · rintro ⟨_, hhead, _, ⟨items, hargs, hitems⟩, rfl, rfl⟩
      exact ⟨items, ⟨r, rfl, hhead, hargs⟩, hitems⟩
    · rintro ⟨items, ⟨_, rfl, hhead, hargs⟩, hitems⟩
      exact ⟨head, hhead, args, ⟨items, hargs, hitems⟩, rfl, rfl⟩

/-- An argument is read from its parameter and its value. -/
lemma readArg_eq_ok {v : Value} {param value : GlobalName} :
    readArg v = .ok ⟨param, value⟩ ↔
      ∃ p q, v.HasFields ["param", "value"] [p, q] ∧ readName p = .ok param ∧
        readName q = .ok value := by
  have hkeys : ["param", "value"].Nodup := by decide
  simp only [hasFields_iff hkeys, List.map_cons, List.map_nil, List.cons.injEq, and_true]
  rw [readArg]
  split
  · next fault hv => simp [hv]
  · next r hv =>
    simp only [hv, bind_eq_ok_iff, pure_eq_ok_iff, GlobalArg.mk.injEq, Except.ok.injEq]
    constructor
    · rintro ⟨_, hparam, _, hvalue, rfl, rfl⟩
      exact ⟨_, _, ⟨r, rfl, rfl, rfl⟩, hparam, hvalue⟩
    · rintro ⟨_, _, ⟨_, rfl, rfl, rfl⟩, hparam, hvalue⟩
      exact ⟨param, hparam, value, hvalue, rfl, rfl⟩

/-- Arguments are read one by one. -/
lemma readItems_cons_eq_ok {v : Value} {rest : List Value} {out : List GlobalArg} :
    readItems (v :: rest) = .ok out ↔
      ∃ arg args, readArg v = .ok arg ∧ readItems rest = .ok args ∧ arg :: args = out := by
  rw [readItems]
  simp only [bind_eq_ok_iff, pure_eq_ok_iff, exists_and_left]

mutual

/-- **Names are read from the trees that write them.** -/
lemma readName_eq_ok_iff : (g : GlobalName) → ∀ v, (readName v = .ok g ↔ NameWritten v g)
  | ⟨head, args⟩, v => by
      rw [readName_eq_ok]
      constructor
      · rintro ⟨items, hv, hargs⟩
        exact .fields hv ((readItems_eq_ok_iff args items).mp hargs)
      · rintro ⟨hv, hargs⟩
        exact ⟨_, hv, (readItems_eq_ok_iff args _).mpr hargs⟩

/-- Arguments are read from the trees that write them. -/
lemma readItems_eq_ok_iff : (args : List GlobalArg) →
    ∀ items, (readItems items = .ok args ↔ ArgsWritten items args)
  | [], [] => by
      rw [readItems]
      exact ⟨fun _ => .nil, fun _ => rfl⟩
  | [], v :: rest => by
      rw [readItems_cons_eq_ok]
      constructor
      · rintro ⟨_, _, _, _, heq⟩
        cases heq
      · nofun
  | arg :: args, [] => by
      rw [readItems]
      exact ⟨nofun, nofun⟩
  | arg :: args, v :: rest => by
      rw [readItems_cons_eq_ok]
      constructor
      · rintro ⟨_, _, harg, hargs, heq⟩
        cases heq
        exact .cons ((readArg_eq_ok_iff arg v).mp harg) ((readItems_eq_ok_iff args rest).mp hargs)
      · intro h
        cases h with
        | cons harg hargs =>
            exact ⟨arg, args, (readArg_eq_ok_iff arg v).mpr harg,
              (readItems_eq_ok_iff args rest).mpr hargs, rfl⟩

/-- An argument is read from the trees that write it. -/
lemma readArg_eq_ok_iff : (arg : GlobalArg) → ∀ v, (readArg v = .ok arg ↔ ArgWritten v arg)
  | ⟨param, value⟩, v => by
      rw [readArg_eq_ok]
      constructor
      · rintro ⟨p, q, hv, hparam, hvalue⟩
        exact .fields hv ((readName_eq_ok_iff param p).mp hparam)
          ((readName_eq_ok_iff value q).mp hvalue)
      · rintro ⟨hv, hparam, hvalue⟩
        exact ⟨_, _, hv, (readName_eq_ok_iff param _).mpr hparam,
          (readName_eq_ok_iff value _).mpr hvalue⟩

end

/-- Names are read from the trees that write them. -/
lemma decode_eq_ok_iff {v : Value} {g : GlobalName} : decode v = .ok g ↔ NameWritten v g :=
  readName_eq_ok_iff g v

mutual

/-- The wire form of a name writes it. -/
lemma nameWritten_encode : (g : GlobalName) → NameWritten (encode g) g
  | ⟨head, args⟩ => by
      refine .fields (.inl ⟨_, rfl, ?_⟩) (argsWritten_argForms args)
      rfl

/-- The wire forms of arguments write them. -/
lemma argsWritten_argForms : (args : List GlobalArg) →
    ArgsWritten (Form.wireItems (argForms args)) args
  | [] => .nil
  | arg :: args => .cons (argWritten_argForm arg) (argsWritten_argForms args)

/-- The wire form of an argument writes it. -/
lemma argWritten_argForm : (arg : GlobalArg) → ArgWritten (argForm arg).wire arg
  | ⟨param, value⟩ => by
      refine .fields (.inl ⟨_, rfl, ?_⟩) (nameWritten_encode param) (nameWritten_encode value)
      rfl

end

mutual

/-- Names are refused for their shape only. -/
lemma byShape_readName (v : Value) : ByShape (readName v) := by
  rw [readName]
  split
  · next fault hv => exact fun error heq => byShape_asRecord _ v error (by cases heq; exact hv)
  · next r hv =>
    have := sizeOf_asRecord_value_lt hv "args"
    exact (byShape_string _).bind fun head => (byShape_readArgs _).bind fun args => byShape_ok _
termination_by sizeOf v

/-- Lists of arguments are refused for their shape only. -/
lemma byShape_readArgs (v : Value) : ByShape (readArgs v) := by
  rw [readArgs.eq_def]
  split
  · next items => exact byShape_readItems items
  · exact byShape_mismatch
termination_by sizeOf v

/-- Arguments are refused for their shape only. -/
lemma byShape_readItems (items : List Value) : ByShape (readItems items) := by
  rw [readItems.eq_def]
  split
  · exact byShape_ok _
  · next v rest =>
    exact (byShape_readArg v).bind fun arg => (byShape_readItems rest).bind fun args => byShape_ok _
termination_by sizeOf items

/-- An argument is refused for its shape only. -/
lemma byShape_readArg (v : Value) : ByShape (readArg v) := by
  rw [readArg]
  split
  · next fault hv => exact fun error heq => byShape_asRecord _ v error (by cases heq; exact hv)
  · next r hv =>
    have := sizeOf_asRecord_value_lt hv "param"
    have := sizeOf_asRecord_value_lt hv "value"
    exact (byShape_readName _).bind fun param => (byShape_readName _).bind fun value => byShape_ok _
termination_by sizeOf v

end

end GlobalName

/-! ## Identifiers as they are written -/

namespace Ident

/-- A tree writes an identifier: it is tagged with the kind and holds the parts. -/
inductive Written : Value → Ident → Prop
  | unitLocal {r : Record} {name : String} {stamp : Stamp} (hname : r.value "name" = .text name)
      (hstamp : r.value "stamp" = .int stamp.toInt) :
      Written (.record [("Local", .record r)]) (.unitLocal name stamp)
  | scopeLocal {r : Record} {name : String} {stamp : Stamp} {scope : UInt32}
      (hname : r.value "name" = .text name) (hstamp : r.value "stamp" = .int stamp.toInt)
      (hscope : r.value "scope" = .int scope.toNat) :
      Written (.record [("Scoped", .record r)]) (.scopeLocal name stamp scope)
  | global (name : String) : Written (.record [("Global", .text name)]) (.global name)
  | applied {v : Value} {g : GlobalName} (hg : NameWritten v g) :
      Written (.record [("GlobalWithArgs", v)]) (.applied g)
  | builtIn {r : Record} {name : String} {stamp : Stamp} (hname : r.value "name" = .text name)
      (hstamp : r.value "stamp" = .int stamp.toInt) :
      Written (.record [("Predef", .record r)]) (.builtIn name stamp)

/-- The wire form of an identifier writes it. -/
lemma written_encode (i : Ident) : Written (encode i) i := by
  cases i with
  | unitLocal name stamp => exact .unitLocal rfl rfl
  | scopeLocal name stamp scope => exact .scopeLocal rfl rfl rfl
  | global name => exact .global name
  | applied g => exact .applied (GlobalName.nameWritten_encode g)
  | builtIn name stamp => exact .builtIn rfl rfl

/-- **Identifiers are read from the trees that write them.** -/
lemma readWritten_eq_ok_iff {v : Value} {i : Ident} : readWritten v = .ok i ↔ Written v i := by
  rw [readWritten, Case.readAny_eq_ok_iff (by decide)]
  simp only [cases, List.mem_cons, List.not_mem_nil, or_false, exists_eq_or_imp, exists_eq_left,
    Case.reads_labelled_iff, Case.reads_single_iff, Wire.Record.get, bind_eq_ok_iff,
    pure_eq_ok_iff, decode_string_eq_ok_iff, decode_int64_eq_ok_iff, decode_uint32_eq_ok_iff,
    GlobalName.decode_eq_ok_iff]
  constructor
  · rintro (⟨r, rfl, name, hname, stamp, hstamp, rfl⟩ |
      ⟨r, rfl, name, hname, stamp, hstamp, scope, hscope, rfl⟩ | ⟨_, name, rfl, rfl, rfl⟩ |
      ⟨w, g, rfl, hg, rfl⟩ | ⟨r, rfl, name, hname, stamp, hstamp, rfl⟩)
    · exact .unitLocal hname hstamp
    · exact .scopeLocal hname hstamp hscope
    · exact .global name
    · exact .applied hg
    · exact .builtIn hname hstamp
  · intro h
    cases h with
    | @unitLocal r name stamp hname hstamp =>
        exact .inl ⟨r, rfl, name, hname, stamp, hstamp, rfl⟩
    | @scopeLocal r name stamp scope hname hstamp hscope =>
        exact .inr (.inl ⟨r, rfl, name, hname, stamp, hstamp, scope, hscope, rfl⟩)
    | global name => exact .inr (.inr (.inl ⟨_, name, rfl, rfl, rfl⟩))
    | @applied w g hg => exact .inr (.inr (.inr (.inl ⟨w, g, rfl, hg, rfl⟩)))
    | @builtIn r name stamp hname hstamp =>
        exact .inr (.inr (.inr (.inr ⟨r, rfl, name, hname, stamp, hstamp, rfl⟩)))

/-- What is no identifier is refused for its shape only. -/
lemma byShape_readWritten (v : Value) : ByShape (readWritten v) := by
  have hstamped : ∀ (make : String → Stamp → Ident) (r : Record),
      ByShape (do return make (← r.get "name") (← r.get "stamp")) := fun make r =>
    (byShape_string _).bind fun name => (byShape_int64 _).bind fun stamp => byShape_ok _
  have hscoped : ∀ r : Record, ByShape
      (do return scopeLocal (← r.get "name") (← r.get "stamp") (← r.get "scope")) := fun r =>
    (byShape_string _).bind fun name => (byShape_int64 _).bind fun stamp =>
      (byShape_uint32 _).bind fun scope => byShape_ok _
  refine byShape_readAny ?_ v
  simp only [cases, List.forall_mem_cons, List.not_mem_nil, false_imp_iff, implies_true, and_true]
  exact ⟨Case.byShape_labelled _ (hstamped unitLocal), Case.byShape_labelled _ hscoped,
    Case.byShape_single byShape_string _ _, Case.byShape_single GlobalName.byShape_readName _ _,
    Case.byShape_labelled _ (hstamped builtIn)⟩

/-! ## Identifiers as they are accepted -/

/-- An identifier with its scope bounded. -/
def bounded : Ident → Ident
  | scopeLocal name stamp scope => .scopeLocal name stamp (min scope highestScope)
  | i => i

/-- What is accepted: all but applied names without arguments, with the scope bounded. -/
lemma validate_eq_ok_iff {w x : Ident} :
    w.validate = .ok x ↔ (∀ head, w ≠ .applied (.plain head)) ∧ x = w.bounded := by
  cases w with
  | applied g =>
      obtain ⟨head, args⟩ := g
      cases args <;> simp [validate, bounded, GlobalName.hasArgs, GlobalName.plain, eq_comm]
  | _ => simp [validate, bounded, ofScope, eq_comm]

/-- What is refused: applied names without arguments, by name. -/
lemma validate_eq_error_iff {w : Ident} {error : IdentError} :
    w.validate = .error error ↔
      ∃ head, error = .emptyGlobalArgs head ∧ w = .applied (.plain head) := by
  cases w with
  | applied g =>
      obtain ⟨head, args⟩ := g
      cases args <;> simp [validate, GlobalName.hasArgs, GlobalName.plain, eq_comm]
  | _ => simp [validate]

/-- What is accepted is well-formed. -/
lemma wellFormed_of_validate {w x : Ident} (h : w.validate = .ok x) : x.WellFormed := by
  obtain ⟨hw, rfl⟩ := validate_eq_ok_iff.mp h
  cases w with
  | scopeLocal name stamp scope => exact Std.min_le_right (a := scope) (b := highestScope)
  | applied g =>
      obtain ⟨head, args⟩ := g
      cases args with
      | nil => exact absurd rfl (hw head)
      | cons arg args => rfl
  | _ => trivial

/-- What is well-formed is accepted as it is. -/
lemma validate_of_wellFormed {i : Ident} (h : i.WellFormed) : i.validate = .ok i := by
  cases i with
  | scopeLocal name stamp scope =>
      have hmin : min scope highestScope = scope := if_pos h
      rw [validate, ofScope, hmin]
  | applied g => rw [validate, if_pos (show g.hasArgs = true from h)]
  | _ => rfl

/-- A tree is accepted if it writes an identifier that is. -/
lemma decode_eq_ok_iff {v : Value} {x : Ident} :
    decode v = .ok x ↔ ∃ w, Written v w ∧ w.validate = .ok x := by
  change (readWritten v >>= fun w => w.validate.mapError Fault.invalid) = .ok x ↔ _
  simp only [bind_eq_ok_iff, readWritten_eq_ok_iff]
  refine exists_congr fun w => and_congr_right fun _ => ?_
  cases w.validate <;> simp [Except.mapError]

/-- A tree is refused for what it says if it writes an identifier that is refused. -/
lemma decode_eq_invalid_iff {v : Value} {error : IdentError} :
    (decode v : Except Fault Ident) = .error (.invalid error) ↔
      ∃ w, Written v w ∧ w.validate = .error error := by
  change (readWritten v >>= fun w => w.validate.mapError Fault.invalid) = _ ↔ _
  simp only [← readWritten_eq_ok_iff]
  cases hread : readWritten v with
  | error fault =>
      constructor
      · intro h
        cases h
        exact absurd hread (byShape_readWritten v error)
      · rintro ⟨w, hw, -⟩
        cases hw
  | ok w =>
      simp only [Except.ok.injEq, exists_eq_left']
      change w.validate.mapError Fault.invalid = _ ↔ _
      cases w.validate <;> simp [Except.mapError]

/-- **An identifier is read back exactly if it is well-formed.** -/
lemma decode_encode_iff {i : Ident} : decode (encode i) = .ok i ↔ i.WellFormed := by
  rw [decode_eq_ok_iff]
  constructor
  · rintro ⟨w, -, hw⟩
    exact wellFormed_of_validate hw
  · intro h
    exact ⟨i, written_encode i, validate_of_wellFormed h⟩

/-! ## The main result -/

/-- The identifiers that can be come by: minted, renamed, made as a key, global, or read. -/
inductive Obtainable : Ident → Prop
  | mintLocal (m : Mint) (name : String) : Obtainable (m.mintLocal name).1
  | mintScoped (m : Mint) (name : String) (scope : UInt32) :
      Obtainable (m.mintScoped name scope).1
  | mintBuiltIn (m : Mint) (name : String) : Obtainable (m.mintBuiltIn name).1
  | global (name : String) : Obtainable (.global name)
  | ofGlobalName (g : GlobalName) : Obtainable (.ofGlobalName g)
  | renamed {m : Mint} {i fresh : Ident} (h : (m.rename i).1 = .ok fresh) : Obtainable fresh
  | key {k : KeySource} {i fresh : Ident} (h : (k.key i).1 = .ok fresh) : Obtainable fresh
  | decoded {v : Value} {i : Ident} (h : decode v = .ok i) : Obtainable i

/-- What can be come by is well-formed. -/
lemma Obtainable.wellFormed {i : Ident} (h : Obtainable i) : i.WellFormed := by
  cases h with
  | mintLocal m name => trivial
  | mintScoped m name scope => exact Std.min_le_right (a := scope) (b := highestScope)
  | mintBuiltIn m name => trivial
  | global name => trivial
  | ofGlobalName g =>
      rw [Ident.ofGlobalName]
      split
      · next h => exact h
      · trivial
  | @renamed m i fresh h =>
      unfold Mint.rename at h
      split at h
      · cases h; trivial
      · cases h
  | @key k i fresh h =>
      unfold KeySource.key at h
      split at h
      · cases h; trivial
      · cases h
  | decoded h =>
      obtain ⟨w, -, hw⟩ := decode_eq_ok_iff.mp h
      exact wellFormed_of_validate hw

/-- **Reading and writing of identifiers agree over the whole format.**

* What is read is well-formed, and is read again from its own wire form.
* A tree is refused as an applied name without arguments, by its head, exactly if this is what it
  writes; names without arguments inside of it do not matter.
* A tree is accepted exactly if it writes any other identifier, and it is accepted as that
  identifier, with the scope bounded.
* An identifier that can be come by is well-formed and is read again from its wire form. -/
theorem decode_encode_agree :
    (∀ (v : Value) (x : Ident), decode v = .ok x →
      x.WellFormed ∧ decode (encode x) = .ok x) ∧
    (∀ (v : Value) (error : IdentError),
      (decode v : Except Fault Ident) = .error (.invalid error) ↔
        ∃ head, error = .emptyGlobalArgs head ∧ Written v (.applied (.plain head))) ∧
    (∀ (v : Value) (x : Ident), decode v = .ok x ↔
      ∃ w, Written v w ∧ (∀ head, w ≠ .applied (.plain head)) ∧ x = w.bounded) ∧
    ∀ x : Ident, Obtainable x → x.WellFormed ∧ decode (encode x) = .ok x := by
  have hback : ∀ x : Ident, Obtainable x → x.WellFormed ∧ decode (encode x) = .ok x :=
    fun x h => ⟨h.wellFormed, decode_encode_iff.mpr h.wellFormed⟩
  refine ⟨fun v x h => hback x (.decoded h), fun v error => ?_, fun v x => ?_, hback⟩
  · rw [decode_eq_invalid_iff]
    simp only [validate_eq_error_iff]
    constructor
    · rintro ⟨w, hw, head, rfl, rfl⟩
      exact ⟨head, rfl, hw⟩
    · rintro ⟨head, rfl, hw⟩
      exact ⟨_, hw, head, rfl, rfl⟩
  · simp only [decode_eq_ok_iff, validate_eq_ok_iff]

/-- An applied name as a bare list, its argument as a record in another order and with a further
field, is read; a name that is applied to nothing is not; and a scope above all is bounded. -/
theorem decode_encode_agree_nested :
    let elt : Value := .record [("args", .list []), ("head", .text "Elt")]
    let int : Value := .list [.text "Int", .list []]
    let arg : Value := .record [("value", int), ("note", .null), ("param", elt)]
    let set : Ident := .applied ⟨"Set", [⟨.plain "Elt", .plain "Int"⟩]⟩
    let high : Value := .record [("Scoped", .record [("scope", .int 4294967295),
      ("name", .text "x"), ("stamp", .int (-3))])]
    decode (.record [("GlobalWithArgs", .list [.text "Set", .list [arg]])]) = .ok set ∧
      set.WellFormed ∧ decode (encode set) = .ok set ∧
      (decode (.record [("GlobalWithArgs", int)]) : Except Fault Ident) =
        .error (.invalid (.emptyGlobalArgs "Int")) ∧
      decode high = .ok (scopeLocal "x" (-3) 100000000) := by
  intro elt int arg set high
  obtain ⟨hread, hrefused, haccepted, -⟩ := decode_encode_agree
  have helt : NameWritten elt (.plain "Elt") := .fields (.inl ⟨_, rfl, rfl⟩) .nil
  have hint : NameWritten int (.plain "Int") := .fields (.inr ⟨rfl, rfl⟩) .nil
  have harg : ArgWritten arg ⟨.plain "Elt", .plain "Int"⟩ :=
    .fields (.inl ⟨_, rfl, rfl⟩) helt hint
  have hset : decode (.record [("GlobalWithArgs", .list [.text "Set", .list [arg]])]) =
      .ok set := by
    refine (haccepted _ _).mpr ⟨set, ?_, ?_, rfl⟩
    · exact .applied (.fields (.inr ⟨rfl, rfl⟩) (.cons harg .nil))
    · simp [set, GlobalName.plain]
  refine ⟨hset, (hread _ _ hset).1, (hread _ _ hset).2, ?_, ?_⟩
  · exact (hrefused _ _).mpr ⟨"Int", rfl, .applied hint⟩
  · refine (haccepted _ _).mpr ⟨.scopeLocal "x" (-3) 4294967295, ?_, nofun, rfl⟩
    exact .scopeLocal rfl rfl rfl

end Ident

end MiddleEnd
