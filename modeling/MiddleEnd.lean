import MiddleEnd.Archive
import MiddleEnd.Ident.Order
import MiddleEnd.Instr.Lowering
import MiddleEnd.ScopeStack
import MiddleEnd.Session
import MiddleEnd.Wire.Json
import MiddleEnd.Proofs.Edition.Sharing
import MiddleEnd.Proofs.GlobalName.Rendering
import MiddleEnd.Proofs.Ident.Order
import MiddleEnd.Proofs.Ident.Wire
import MiddleEnd.Proofs.Instr.Lowering
import MiddleEnd.Proofs.Instr.Returning
import MiddleEnd.Proofs.Instr.SharedWire
import MiddleEnd.Proofs.NameTable.Height
import MiddleEnd.Proofs.NameTable.Invariant
import MiddleEnd.Proofs.NameTable.Rebalancing
import MiddleEnd.Proofs.NameTable.Refinement
import MiddleEnd.Proofs.NameTable.Removal
import MiddleEnd.Proofs.NameTable.Separation
import MiddleEnd.Proofs.NameTable.Traversal
import MiddleEnd.Proofs.NameTable.Undoing
import MiddleEnd.Proofs.NameTable.Workshops
import MiddleEnd.Proofs.Refusals
import MiddleEnd.Proofs.Runs
import MiddleEnd.Proofs.Session.Counters
import MiddleEnd.Proofs.Session.Identity
import MiddleEnd.Proofs.Session.Resetting
import MiddleEnd.Proofs.Session.Symbols
import MiddleEnd.Proofs.ScopeStack.Resolution
import MiddleEnd.Proofs.ScopeStack.Scoping
import MiddleEnd.Proofs.Wire.Keys
import MiddleEnd.Proofs.Wire.Reading
import MiddleEnd.Proofs.Wire.Returning
