import MiddleEnd.Event
import MiddleEnd.Ident.Render
import MiddleEnd.Settings

/-!
# Minting identifiers

A `Mint` owns the stamp counters of one session. Local identifiers, with or without a scope, draw
from one counter and built-in ones from another; a counter is raised before it is used, so the
first stamp is 1.

`Mint.reset` restarts the numbering of locals: the first call records the counter as the
checkpoint and leaves it alone, every later call takes the counter back there. Built-in stamps are
never taken back.

`Mint.step` performs any of these operations on a mint, given as a `Mint.Step`. Steps are written
over a type of references to identifiers, so that a list of steps can name an identifier that an
earlier step will have made.
-/

namespace MiddleEnd

/-- The stamp counters and settings of one session. -/
structure Mint where
  /-- The last stamp given to a local identifier. -/
  current : Stamp := 0
  /-- The last stamp given to a built-in identifier. -/
  currentBuiltIn : Stamp := 0
  /-- Where the numbering of locals restarts, once that is recorded. -/
  checkpoint : Option Stamp := none
  /-- How identifiers are rendered. -/
  settings : Settings := {}
deriving DecidableEq, Inhabited

namespace Mint

/-! ## Operations -/

/-- A fresh local identifier. -/
def mintLocal (m : Mint) (name : String) : Ident × Mint :=
  let stamp := m.current + 1
  (.unitLocal name stamp, { m with current := stamp })

/-- A fresh local identifier of a scope. -/
def mintScoped (m : Mint) (name : String) (scope : UInt32) : Ident × Mint :=
  let stamp := m.current + 1
  (.ofScope name stamp scope, { m with current := stamp })

/-- A fresh built-in identifier. That names of built-in identifiers are not reused is up to the
caller. -/
def mintBuiltIn (m : Mint) (name : String) : Ident × Mint :=
  let stamp := m.currentBuiltIn + 1
  (.builtIn name stamp, { m with currentBuiltIn := stamp })

/-- A fresh local identifier with the name of a given one, which must be local itself; a scope is
dropped. -/
def rename (m : Mint) (i : Ident) : Except IdentError Ident × Mint :=
  if i.isLocal then
    let (fresh, m) := m.mintLocal i.name
    (.ok fresh, m)
  else (.error (.renameNonLocal i.name), m)

/-- Records the checkpoint, or takes the counter of locals back to it. -/
def reset (m : Mint) : Event × Mint :=
  match m.checkpoint with
  | none => (.checkpointRecorded m.current, { m with checkpoint := some m.current })
  | some level => (.stampsReset m.current level, { m with current := level })

/-! ## Rendering -/

/-- What is shown of identifiers in this session. -/
def renderOptions (m : Mint) (withScope : Bool) : RenderOptions :=
  ⟨m.settings.uniqueIds, withScope⟩

/-- The text of an identifier in this session. -/
def render (m : Mint) (i : Ident) : String :=
  i.render (m.renderOptions false)

/-- The text of an identifier with its scope in this session. -/
def renderWithScope (m : Mint) (i : Ident) : String :=
  i.render (m.renderOptions true)

instance : Outlined Mint where
  outline m := .record "IdentContext"
    [("current_stamp", outline m.current),
     ("predef_stamp", outline m.currentBuiltIn),
     ("reinit_level", outline m.checkpoint),
     ("config", outline m.settings)]

/-! ## Steps -/

/-- An operation on a mint; `ref` is how a step refers to an identifier. -/
inductive Step (ref : Type) where
  /-- See `Mint.mintLocal`. -/
  | mintLocal (name : String)
  /-- See `Mint.mintScoped`. -/
  | mintScoped (name : String) (scope : UInt32)
  /-- See `Mint.mintBuiltIn`. -/
  | mintBuiltIn (name : String)
  /-- See `Mint.rename`. -/
  | rename (target : ref)
  /-- See `Mint.reset`. -/
  | reset
deriving DecidableEq

/-- The answer to a step that succeeds. -/
inductive Reply where
  /-- An identifier was made. -/
  | ident (i : Ident)
  /-- The numbering was reset. -/
  | event (e : Event)
deriving DecidableEq

/-- Performs a step. -/
def step (m : Mint) : Step Ident → Except IdentError Reply × Mint
  | .mintLocal name => let (i, m) := m.mintLocal name; (.ok (.ident i), m)
  | .mintScoped name scope => let (i, m) := m.mintScoped name scope; (.ok (.ident i), m)
  | .mintBuiltIn name => let (i, m) := m.mintBuiltIn name; (.ok (.ident i), m)
  | .rename target => let (answer, m) := m.rename target; (answer.map .ident, m)
  | .reset => let (e, m) := m.reset; (.ok (.event e), m)

/-- Puts identifiers in the place of references, as far as they can be found. -/
def Step.resolve {ref error : Type} (find : ref → Except error Ident) :
    Step ref → Except error (Step Ident)
  | .mintLocal name => .ok (.mintLocal name)
  | .mintScoped name scope => .ok (.mintScoped name scope)
  | .mintBuiltIn name => .ok (.mintBuiltIn name)
  | .rename target => (find target).map .rename
  | .reset => .ok .reset

end Mint

end MiddleEnd
