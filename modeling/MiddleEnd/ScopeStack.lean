import MiddleEnd.Edition
import MiddleEnd.Mint
import MiddleEnd.NameTable.Lookup
import MiddleEnd.NameTable.Walk

/-!
# Lexical scopes

A `ScopeStack` keeps the table of the bindings that are visible, and one saved table for every
open scope. Entering a scope saves the table; leaving brings the saved one back, so that the
bindings made inside vanish without being removed. The mint belongs to the stack and is not taken
back on leaving.

`ScopeStack.step` performs any operation on a stack, given as a `ScopeStack.Step`.
-/

namespace MiddleEnd

variable {V : Type}

/-- A mint, the visible bindings, and those to go back to. -/
structure ScopeStack (V : Type) where
  /-- Where identifiers are minted. -/
  mint : Mint := {}
  /-- The bindings that are visible. -/
  current : Edition V := {}
  /-- The bindings at the entry of every open scope, innermost first. -/
  saved : List (Edition V) := []
  /-- The number of nodes that the tables have been made of so far. -/
  nodes : Nat := 0
deriving DecidableEq

/-- Why an operation on scopes fails. -/
inductive ScopeError where
  /-- There is no scope to leave. -/
  | noOpenScope
  /-- An identifier cannot be bound anew. -/
  | cannotRebind (name : String) (cause : IdentError)
  /-- The mint refused. -/
  | misuse (error : IdentError)
deriving DecidableEq

namespace ScopeError

/-- What went wrong, in one sentence. -/
def message : ScopeError → String
  | noOpenScope => "no open scope to leave"
  | cannotRebind name _ => "cannot rebind `" ++ name ++ "`"
  | misuse error => error.message

/-- What went wrong, followed by its cause. -/
def chain : ScopeError → String
  | e@(cannotRebind _ cause) => e.message ++ ": " ++ cause.message
  | e => e.message

end ScopeError

namespace ScopeStack

/-! ## Operations -/

/-- The number of open scopes. -/
def depth (s : ScopeStack V) : Nat :=
  s.saved.length

/-- The bindings that are visible. -/
def table (s : ScopeStack V) : NameTable V :=
  s.current.table

/-- Opens a scope. -/
def enter (s : ScopeStack V) : ScopeStack V :=
  { s with saved := s.current :: s.saved }

/-- Closes the innermost scope. -/
def leave (s : ScopeStack V) : Except ScopeError Unit × ScopeStack V :=
  match s.saved with
  | [] => (.error .noOpenScope, s)
  | outer :: saved => (.ok (), { s with current := outer, saved := saved })

/-- Makes a binding visible. -/
def record (s : ScopeStack V) (b : Binding V) : ScopeStack V :=
  let (current, nodes) := (s.current.insert b).run s.nodes
  { s with current := current, nodes := nodes }

/-- Binds a fresh local identifier. -/
def bind (s : ScopeStack V) (name : String) (data : V) : Ident × ScopeStack V :=
  let (i, mint) := s.mint.mintLocal name
  (i, { s with mint := mint }.record ⟨i, data⟩)

/-- Binds a fresh copy of a local identifier. -/
def rebind (s : ScopeStack V) (i : Ident) (data : V) :
    Except ScopeError Ident × ScopeStack V :=
  match s.mint.rename i with
  | (.ok fresh, mint) => (.ok fresh, { s with mint := mint }.record ⟨fresh, data⟩)
  | (.error cause, mint) => (.error (.cannotRebind i.name cause), { s with mint := mint })

/-- The data of the innermost binding of a name. -/
def lookup (s : ScopeStack V) (name : String) : Option V :=
  (s.table.newest? name).map (·.data)

instance [Outlined V] : Outlined (ScopeStack V) where
  outline s := .record "ScopeStack"
    [("ctx", outline s.mint),
     ("current", outline s.table),
     ("saved", .list (s.saved.reverse.map fun e => outline e.table))]

/-! ## Steps -/

/-- An operation on a stack. -/
inductive Step (V : Type) where
  /-- See `ScopeStack.enter`. -/
  | enter
  /-- See `ScopeStack.leave`. -/
  | leave
  /-- See `ScopeStack.bind`. -/
  | bind (name : String) (data : V)
  /-- See `ScopeStack.rebind`. -/
  | rebind (i : Ident) (data : V)
  /-- An operation on the mint of the stack. -/
  | mint (step : Mint.Step Ident)
deriving DecidableEq

/-- Performs a step; entering and leaving have nothing to answer. -/
def step (s : ScopeStack V) : Step V → Except ScopeError (Option Mint.Reply) × ScopeStack V
  | .enter => (.ok none, s.enter)
  | .leave => let (answer, s) := s.leave; (answer.map fun _ => none, s)
  | .bind name data => let (i, s) := s.bind name data; (.ok (some (.ident i)), s)
  | .rebind i data => let (answer, s) := s.rebind i data; (answer.map fun i => some (.ident i), s)
  | .mint x =>
    let (answer, mint) := s.mint.step x
    ((answer.map some).mapError .misuse, { s with mint := mint })

/-- Performs steps one after the other and collects their answers. -/
def run (s : ScopeStack V) :
    List (Step V) → List (Except ScopeError (Option Mint.Reply)) × ScopeStack V
  | [] => ([], s)
  | x :: xs =>
    let (answer, s) := s.step x
    let (answers, s) := s.run xs
    (answer :: answers, s)

end ScopeStack

end MiddleEnd
