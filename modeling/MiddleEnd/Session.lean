import MiddleEnd.KeySource
import MiddleEnd.Mint

/-!
# Sessions

A `Session` is a mint and a source of keys, with the identifiers that were made so far in numbered
registers. A step names an identifier by its register or in full (`Operand`).

`Session.step` performs one step and gives its answer: an identifier, which then also has a
register, an event, or the reason why the step was refused. `Session.run` performs a list of
steps; a refused step does not end it.
-/

namespace MiddleEnd

/-- How a step refers to an identifier. -/
inductive Operand where
  /-- The identifier in a register. -/
  | register (index : Nat)
  /-- An identifier in full. -/
  | literal (i : Ident)
deriving DecidableEq

/-- A mint, a source of keys, and the identifiers made so far. -/
structure Session where
  /-- Where identifiers are minted. -/
  mint : Mint := {}
  /-- Where keys come from. -/
  keys : KeySource := {}
  /-- The identifiers made so far, oldest first. -/
  registers : Array Ident := #[]
deriving DecidableEq, Inhabited

namespace Session

/-- An operation on a session; `ref` is how a step refers to an identifier. -/
inductive Step (ref : Type) where
  /-- An operation on the mint. -/
  | mint (step : Mint.Step ref)
  /-- See `KeySource.key`. -/
  | key (target : ref)
  /-- Puts an identifier from elsewhere into a register. -/
  | adopt (i : Ident)
deriving DecidableEq

/-- Why a step is refused. -/
inductive Refusal where
  /-- An identifier is of the wrong kind. -/
  | misuse (error : IdentError)
  /-- There is no such register. -/
  | noRegister (index : Nat)
deriving DecidableEq

/-- Puts identifiers in the place of references, as far as they can be found. -/
def Step.resolve {ref error : Type} (find : ref → Except error Ident) :
    Step ref → Except error (Step Ident)
  | .mint step => (step.resolve find).map .mint
  | .key target => (find target).map .key
  | .adopt i => .ok (.adopt i)

/-- The identifier that an operand refers to. -/
def find (s : Session) : Operand → Except Refusal Ident
  | .literal i => .ok i
  | .register index =>
    match s.registers[index]? with
    | some i => .ok i
    | none => .error (.noRegister index)

/-- Keeps an identifier that was made. -/
def keep (s : Session) : Except IdentError Mint.Reply → Session
  | .ok (.ident i) => { s with registers := s.registers.push i }
  | _ => s

/-- Performs a step whose identifiers are given in full. -/
def perform (s : Session) : Step Ident → Except IdentError Mint.Reply × Session
  | .mint step =>
    let (answer, mint) := s.mint.step step
    (answer, { s with mint := mint }.keep answer)
  | .key target =>
    let (answer, keys) := s.keys.key target
    (answer.map .ident, { s with keys := keys }.keep (answer.map .ident))
  | .adopt i => (.ok (.ident i), s.keep (.ok (.ident i)))

/-- Performs a step. -/
def step (s : Session) (x : Step Operand) : Except Refusal Mint.Reply × Session :=
  match x.resolve s.find with
  | .ok x =>
    let (answer, s) := s.perform x
    (answer.mapError .misuse, s)
  | .error refusal => (.error refusal, s)

/-- Performs steps one after the other and collects their answers. -/
def run (s : Session) : List (Step Operand) → List (Except Refusal Mint.Reply) × Session
  | [] => ([], s)
  | x :: xs =>
    let (answer, s) := s.step x
    let (answers, s) := s.run xs
    (answer :: answers, s)

end Session

end MiddleEnd
