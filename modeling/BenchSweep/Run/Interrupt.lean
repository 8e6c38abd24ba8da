/-! # Interrupting a run

    A run watches a signal that an operator may fire.  Handles fire it,
    listeners watch it; once fired it stays fired, whatever happens to the
    handles.  Without a handle left it can no longer fire, and a listener that
    waits for it waits for good. -/

namespace BenchSweep

/-- A signal with its handles, each alive or dropped, and its listeners. -/
structure Interrupt where
  fired     : Bool
  handles   : List Bool
  listeners : Nat
deriving DecidableEq, Repr

namespace Interrupt

/-- A signal that has not fired, with one handle and one listener. -/
def new : Interrupt := { fired := false, handles := [true], listeners := 1 }

/-- Whether a handle is alive. -/
def isAlive (i : Interrupt) (handle : Nat) : Bool :=
  (i.handles[handle]?).getD false

/-- Fires the signal through a handle. -/
def trigger (i : Interrupt) (handle : Nat) : Interrupt :=
  if i.isAlive handle then { i with fired := true } else i

/-- One more handle, behind all others. -/
def cloneHandle (i : Interrupt) : Interrupt :=
  { i with handles := i.handles ++ [true] }

/-- Drops a handle; the others keep their places. -/
def dropHandle (i : Interrupt) (handle : Nat) : Interrupt :=
  { i with handles := i.handles.set handle false }

/-- One more listener. -/
def cloneListener (i : Interrupt) : Interrupt :=
  { i with listeners := i.listeners + 1 }

/-- Whether a listener that waits for the signal can go on at once. -/
def isReady (i : Interrupt) : Bool := i.fired

end Interrupt

end BenchSweep
