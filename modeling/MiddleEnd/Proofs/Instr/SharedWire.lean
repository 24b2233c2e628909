import Mathlib.Data.List.Forall2
import MiddleEnd.Proofs.Instr.Lowering
import MiddleEnd.Proofs.Wire.Reading

/-!
# One wire form for two vocabularies

The flow graph and the linear language have operations of their own, each with its own forms and
its own table of cases. Only safepoints are written differently: those of the flow graph are a bare
tag, those of the linear language carry a label. For everything else the two vocabularies are one
on the wire.

* **Writing** (`Flow.Operation.form_lower`): an operation and its machine operation have the same
  form, and so the same wire form and the same description.
* **Reading** (`Flow.Operation.decode_lower`): the two tables of cases go in step, case by case,
  and what the second one reads is what the first one reads, lowered. `Case.InStep` says this of
  one case and `Case.readAny_of_inStep` carries it to tables. It covers every spelling that is
  accepted, and refusals as well.

`Flow.Operation.lower_keeps_wire` puts the two together.
-/

namespace MiddleEnd

open Wire (Value Record)

variable {α β γ : Type}

/-! ## Tables of cases in step -/

/-- What is done to the result of two readers in a row is done to the second. -/
lemma map_bind {x : Except Fault α} {g : α → Except Fault β} {f : β → γ} :
    (x >>= g).map f = x >>= fun a => (g a).map f := by
  cases x <;> rfl

/-- A reader that goes on from a changed result goes on from the result. -/
lemma bind_map {x : Except Fault α} {f : α → β} {g : β → Except Fault γ} :
    (x.map f >>= g) = x >>= fun a => g (f a) := by
  cases x <;> rfl

/-- What is done to an answer without further ado. -/
lemma map_pure {a : α} {f : α → β} :
    (pure a : Except Fault α).map f = pure (f a) := rfl

/-- The tag that a tree is written with, if it is written as a variant. -/
def Wire.Value.tag? : Value → Option String
  | .text tag => some tag
  | .record [(tag, _)] => some tag
  | _ => none

namespace Case

/-- A tree with a tag is read by the case with this tag, whichever table is asked. -/
lemma readAny_eq_readTagged {v : Value} {tag : String} (h : v.tag? = some tag) :
    ∃ payload, ∀ {α : Type} (cases : List (Case α)),
      readAny cases v = readTagged cases tag payload := by
  unfold Wire.Value.tag? at h
  split at h
  · cases h
    exact ⟨none, fun cases => rfl⟩
  · next payload =>
    cases h
    exact ⟨some payload, fun cases => rfl⟩
  · cases h

/-- A tree without a tag is no variant. -/
lemma readAny_of_tag?_eq_none {v : Value} (h : v.tag? = none) (cases : List (Case α)) :
    readAny cases v = .error .mismatch := by
  unfold readAny
  split
  · cases h
  · cases h
  · rfl

/-- Two cases have one tag and, if it is among the given ones, the second reads what the first
does, put through a function. -/
structure InStep (tags : String → Prop) (f : α → β) (c : Case α) (d : Case β) : Prop where
  /-- The tag. -/
  tag_eq : c.tag = d.tag
  /-- What is read, and what is refused. -/
  read_eq : tags c.tag → ∀ payload, d.read payload = (c.read payload).map f

section inStep

variable {tags : String → Prop} {f : α → β} {tag : String}

/-- Cases without data are in step. -/
lemma inStep_bare {a : α} {b : β} (h : f a = b) : InStep tags f (bare tag a) (bare tag b) := by
  subst h
  refine ⟨rfl, fun _ payload => ?_⟩
  cases payload with
  | none => rfl
  | some v => cases v <;> rfl

/-- Cases around one value of the same type are in step. -/
lemma inStep_single [Readable γ] {make : γ → α} {make' : γ → β} (h : ∀ c, f (make c) = make' c) :
    InStep tags f (single tag make) (single tag make') := by
  obtain rfl : (fun c => f (make c)) = make' := funext h
  refine ⟨rfl, fun _ payload => ?_⟩
  cases payload with
  | none => rfl
  | some v =>
      change (decode v).map (fun c => f (make c)) = ((decode v).map make).map f
      cases (decode v : Except Fault γ) <;> rfl

/-- Cases with labelled data are in step if their readers are. -/
lemma inStep_labelled {make : Record → Except Fault α} {make' : Record → Except Fault β}
    (h : ∀ r, make' r = (make r).map f) :
    InStep tags f (labelled tag make) (labelled tag make') := by
  refine ⟨rfl, fun _ payload => ?_⟩
  cases payload with
  | none => rfl
  | some v =>
      cases v with
      | record r => exact h r
      | _ => rfl

/-- What tables in step read behind a tag. -/
lemma readTagged_of_inStep {cs : List (Case α)} {ds : List (Case β)}
    (h : List.Forall₂ (InStep tags f) cs ds) (htag : tags tag) (payload : Option Value) :
    readTagged ds tag payload = (readTagged cs tag payload).map f := by
  unfold readTagged
  induction h with
  | nil => rfl
  | @cons c d cs ds hcd _ ih =>
      obtain ⟨hc, hread⟩ := hcd
      by_cases hfound : c.tag = tag
      · have hfound' : d.tag = tag := hc ▸ hfound
        simp only [List.find?_cons, hfound, hfound', decide_true]
        exact hread (hfound ▸ htag) payload
      · have hfound' : ¬ d.tag = tag := hc ▸ hfound
        simp only [List.find?_cons, hfound, hfound', decide_false]
        exact ih

/-- **Tables in step read the same trees**, those with a tag that is not among the given ones
apart: the second reads what the first does, put through the function. -/
lemma readAny_of_inStep {cs : List (Case α)} {ds : List (Case β)}
    (h : List.Forall₂ (InStep tags f) cs ds) {v : Value} (hv : ∀ tag ∈ v.tag?, tags tag) :
    readAny ds v = (readAny cs v).map f := by
  cases htag : v.tag? with
  | none => rw [readAny_of_tag?_eq_none htag, readAny_of_tag?_eq_none htag]; rfl
  | some tag =>
      obtain ⟨payload, hread⟩ := readAny_eq_readTagged htag
      rw [hread cs, hread ds]
      exact readTagged_of_inStep h (hv tag htag) payload

end inStep

end Case

/-! ## Reading -/

/-- A flag is read from the trees that a mutability is read from. -/
lemma Flow.Mutability.decode_lower (v : Value) :
    (decode v : Except Fault Linear.MutableFlag) =
      (decode v : Except Fault Flow.Mutability).map Flow.Mutability.lower := by
  have hstep : List.Forall₂ (Case.InStep (fun _ => True) Flow.Mutability.lower)
      (Case.ofLabels Flow.Mutability.label Flow.Mutability.all)
      (Case.ofLabels Linear.MutableFlag.label Linear.MutableFlag.all) :=
    .cons (Case.inStep_bare rfl) (.cons (Case.inStep_bare rfl) .nil)
  exact Case.readAny_of_inStep hstep fun _ _ => trivial

namespace Flow.Operation

open Case in
/-- The two tables of operations go in step but for safepoints. -/
lemma inStep_cases :
    List.Forall₂ (InStep (· ≠ "Poll") lower) cases Linear.Operation.cases := by
  unfold cases Linear.Operation.cases
  refine .cons (inStep_bare rfl) <| .cons (inStep_bare rfl) <| .cons (inStep_bare rfl) <|
    .cons (inStep_single fun _ => rfl) <| .cons (inStep_single fun _ => rfl) <|
    .cons (inStep_single fun _ => rfl) <| .cons (inStep_single fun _ => rfl) <|
    .cons (inStep_single fun _ => rfl) <| .cons (inStep_single fun _ => rfl) <|
    .cons (inStep_labelled fun r => ?load) <| .cons (inStep_labelled fun r => ?store) <|
    .cons (inStep_single fun _ => rfl) <| .cons (inStep_labelled fun r => ?intOpImmediate) <|
    .cons (inStep_labelled fun r => ?intOpAtomic) <|
    .cons (inStep_labelled fun r => ?floatOp) <| .cons (inStep_single fun _ => rfl) <|
    .cons (inStep_single fun _ => rfl) <| .cons (inStep_single fun _ => rfl) <|
    .cons (inStep_labelled fun r => ?probeIsEnabled) <| .cons (inStep_bare rfl) <|
    .cons (inStep_single fun _ => rfl) <| .cons (inStep_bare rfl) <| .cons (inStep_bare rfl) <|
    .cons (inStep_labelled fun r => ?nameForDebugger) <| .cons (inStep_bare rfl) <|
    .cons ⟨rfl, fun hpoll => absurd rfl hpoll⟩ <| .cons (inStep_labelled fun r => ?alloc) .nil
  case load =>
    -- the one place where the types of the fields differ
    simp only [Wire.Record.get, Flow.Mutability.decode_lower, map_bind, bind_map, map_pure, lower]
  all_goals simp only [map_bind, map_pure, lower]

/-- Trees that are not tagged as safepoints are read, or refused, in step. -/
lemma decode_eq_map_lower {v : Value} (hv : v.tag? ≠ some "Poll") :
    (decode v : Except Fault Linear.Operation) =
      (decode v : Except Fault Flow.Operation).map lower := by
  refine Case.readAny_of_inStep inStep_cases fun tag htag hpoll => hv ?_
  rw [Option.mem_def.mp htag, hpoll]

/-- What is tagged as a safepoint is read as one. -/
lemma eq_poll_of_tag? {v : Value} (hv : v.tag? = some "Poll") {op : Flow.Operation}
    (h : decode v = .ok op) : op = .poll := by
  obtain ⟨payload, hread⟩ := Case.readAny_eq_readTagged hv
  have hbare : (Case.bare "Poll" poll).read payload = .ok op := (hread cases).symm.trans h
  cases payload with
  | none => cases hbare; rfl
  | some w =>
      cases w with
      | null => cases hbare; rfl
      | _ => cases hbare

end Flow.Operation

/-- What is tagged as a safepoint is read as one. -/
lemma Linear.Operation.exists_poll_of_tag? {v : Value} (hv : v.tag? = some "Poll")
    {m : Linear.Operation} (h : decode v = .ok m) : ∃ target, m = .poll target := by
  obtain ⟨payload, hread⟩ := Case.readAny_eq_readTagged hv
  have hlabelled : (Case.labelled "Poll" fun r => return poll (← r.get "return_label")).read
      payload = .ok m := (hread cases).symm.trans h
  cases payload with
  | none => cases hlabelled
  | some w =>
      cases w with
      | record r =>
          obtain ⟨target, -, htarget⟩ := bind_eq_ok_iff.mp hlabelled
          exact ⟨target, (pure_eq_ok_iff.mp htarget).symm⟩
      | _ => cases hlabelled

namespace Flow.Operation

/-- **A tree that writes an operation writes its machine operation as well.** -/
lemma decode_lower {v : Value} {op : Flow.Operation} (h : decode v = .ok op) (hp : op ≠ .poll) :
    decode v = .ok op.lower := by
  have hv : v.tag? ≠ some "Poll" := fun hv => hp (eq_poll_of_tag? hv h)
  rw [decode_eq_map_lower hv, h]
  rfl

/-- **A tree that writes a machine operation writes an operation that is lowered to it.** -/
lemma exists_decode_of_lower {v : Value} {m : Linear.Operation} (h : decode v = .ok m)
    (hp : ∀ target, m ≠ .poll target) : ∃ op : Flow.Operation, decode v = .ok op ∧ op.lower = m := by
  have hv : v.tag? ≠ some "Poll" := by
    intro hv
    obtain ⟨target, htarget⟩ := Linear.Operation.exists_poll_of_tag? hv h
    exact hp target htarget
  rw [decode_eq_map_lower hv] at h
  exact map_eq_ok_iff.mp h

/-! ## Writing -/

/-- **An operation and its machine operation have one form.** -/
lemma form_lower {op : Flow.Operation} (hp : op ≠ .poll) : form op.lower = form op := by
  cases op with
  | load chunk addressing mutability isAtomic => cases mutability <;> rfl
  | poll => exact absurd rfl hp
  | _ => rfl

/-- An operation and its machine operation have one wire form. -/
lemma encode_lower {op : Flow.Operation} (hp : op ≠ .poll) : encode op.lower = encode op :=
  congrArg Form.wire (form_lower hp)

/-! ## The main result -/

/-- **The two vocabularies share one wire form.** Safepoints apart,

* an operation and its machine operation are written as the same tree, and described by the same
  text, on one line or over many;
* a tree that is read as an operation is read as its machine operation;
* a tree that is read as a machine operation is read as an operation that is lowered to it. -/
theorem lower_keeps_wire :
    (∀ op : Flow.Operation, op ≠ .poll →
      encode op.lower = encode op ∧ (outline op.lower).line = (outline op).line ∧
        (outline op.lower).page = (outline op).page) ∧
    (∀ (v : Value) (op : Flow.Operation), decode v = .ok op → op ≠ .poll →
      decode v = .ok op.lower) ∧
    ∀ (v : Value) (m : Linear.Operation), decode v = .ok m → (∀ target, m ≠ .poll target) →
      ∃ op : Flow.Operation, decode v = .ok op ∧ op.lower = m := by
  refine ⟨fun op hp => ?_, fun v op h hp => decode_lower h hp,
    fun v m h hp => exists_decode_of_lower h hp⟩
  have houtline : outline op.lower = outline op := congrArg Form.outline (form_lower hp)
  exact ⟨encode_lower hp, by rw [houtline], by rw [houtline]⟩

/-- A load in another order of fields and with a further one is read in both vocabularies, with
the mutability of each; and both write it in the same way. -/
theorem lower_keeps_wire_load :
    let r : Record := [("is_atomic", .bool true), ("note", .list []),
      ("mutability", .record [("Immutable", .null)]),
      ("addressing_mode", .record [("Indexed", .record [("displacement", .int (-8))])]),
      ("memory_chunk", .text "WordVal")]
    let v : Value := .record [("Load", .record r)]
    let op : Flow.Operation := .load .wordValue (.indexed (-8)) .immutable true
    let m : Linear.Operation := .load .wordValue (.indexed (-8)) .immutable true
    op ≠ .poll ∧ decode v = .ok op ∧ op.lower = m ∧ decode v = .ok m ∧ encode m = encode op ∧
      (outline m).line = (outline op).line ∧
      ∃ op' : Flow.Operation, decode v = .ok op' ∧ op'.lower = m := by
  intro r v op m
  obtain ⟨hwrite, hread, hback⟩ := lower_keeps_wire
  have hop : op ≠ .poll := nofun
  have hv : decode v = .ok op := rfl
  have hm : decode v = .ok m := hread v op hv hop
  exact ⟨hop, hv, rfl, hm, (hwrite op hop).1, (hwrite op hop).2.1, hback v m hm nofun⟩

end Flow.Operation

end MiddleEnd
