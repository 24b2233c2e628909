import MiddleEnd.Ident.Basic
import MiddleEnd.Instr.Operand

/-!
# Events

What the middle end reports while it works. An `Event` is a level, a text and the figures that
belong to it; `bodyEntered` opens a span, all others happen at a point.
-/

namespace MiddleEnd

open Wire (Value)

/-- How closely one has to look to see an event. -/
inductive Level where
  /-- Of interest when something is wrong. -/
  | debug
  /-- Of interest step by step. -/
  | trace
deriving DecidableEq

/-- The word for a level. -/
def Level.label : Level → String
  | debug => "DEBUG"
  | trace => "TRACE"

/-- What the middle end reports. -/
inductive Event where
  /-- The stamp counter was taken as the checkpoint. -/
  | checkpointRecorded (stamp : Stamp)
  /-- The stamp counter went back to the checkpoint. -/
  | stampsReset (before after : Stamp)
  /-- Every binding of a name was dropped, since none was the one to remove. -/
  | nameDropped (name : String) (stamp : Stamp)
  /-- The lowering of a body began. -/
  | bodyEntered (length : Nat)
  /-- An instruction is being lowered. -/
  | instructionLowered (id : InstrId)
deriving DecidableEq

namespace Event

/-- The level of an event. -/
def level : Event → Level
  | checkpointRecorded _ => .debug
  | stampsReset _ _ => .debug
  | nameDropped _ _ => .debug
  | bodyEntered _ => .trace
  | instructionLowered _ => .trace

/-- Whether an event opens a span. -/
def isSpan : Event → Bool
  | bodyEntered _ => true
  | _ => false

/-- The text of an event: the message, or the name of the span. -/
def text : Event → String
  | checkpointRecorded _ => "recorded identifier stamp checkpoint"
  | stampsReset _ _ => "reset identifier stamps to checkpoint"
  | nameDropped _ _ => "no binding is the same identifier, dropping every binding of the name"
  | bodyEntered _ => "lower_body"
  | instructionLowered _ => "lowering basic instruction"

/-- The figures of an event. -/
def fields : Event → List (String × Value)
  | checkpointRecorded stamp => [("stamp", encode stamp)]
  | stampsReset before after => [("from", encode before), ("to", encode after)]
  | nameDropped name stamp => [("name", encode name), ("stamp", encode stamp)]
  | bodyEntered length => [("len", .int length)]
  | instructionLowered id => [("id", .text id.render)]

/-- The record of an event in a log. -/
def toValue (e : Event) : Value :=
  .record [("level", .text e.level.label), ("fields", .record e.fields),
    (if e.isSpan then "span" else "message", .text e.text)]

end Event

end MiddleEnd
