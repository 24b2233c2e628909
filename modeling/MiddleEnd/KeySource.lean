import MiddleEnd.Ident.Basic

/-!
# Keys

Tables that share values across bindings need keys that are no identifiers of the program. A key
is a local identifier with an empty name and a negative stamp, counted down from -1: it cannot be
taken for an identifier that a mint has made, and making it costs the mint no stamp.
-/

namespace MiddleEnd

/-- Hands out keys. -/
structure KeySource where
  /-- The stamp of the next key. -/
  next : Stamp := -1
deriving DecidableEq, Inhabited

namespace KeySource

/-- A fresh key that stands for an identifier, which must be local. -/
def key (k : KeySource) (i : Ident) : Except IdentError Ident × KeySource :=
  if i.isLocal then (.ok (.unitLocal "" k.next), ⟨k.next - 1⟩)
  else (.error (.keyOfNonLocal i.name), k)

instance : Outlined KeySource where
  outline k := .record "KeyGenerator" [("next", outline k.next)]

end KeySource

end MiddleEnd
