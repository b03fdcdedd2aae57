import PocketDesk.Desktop.Effects
import PocketDesk.Desktop.Host

/-! A host without windows. It keeps the requests in order and remembers the effects, so
that it answers every switch as a desktop would. -/

namespace PocketDesk

structure Recorder where
  /-- The requests that were not taken yet, oldest first. -/
  requests : List Request
  effects : Effects

namespace Recorder

def empty : Recorder := ⟨[], .empty⟩

def record (r : Recorder) (request : Request) : Recorder :=
  { r with requests := r.requests ++ [request] }

/-- The recorder without its requests, which have been taken. -/
def drained (r : Recorder) : Recorder := { r with requests := [] }

def toggleEffect (r : Recorder) (effect : String) : Bool × Recorder :=
  let effects := r.effects.toggle effect
  let active := effects.isActive effect
  (active, { r with effects := effects }.record (.toggleEffect effect active))

instance : WindowHost Recorder where
  openWindow w p r := r.record (.openWindow w p)
  closeWindow w r := r.record (.closeWindow w)
  toggleWindow w r := r.record (.toggleWindow w)
  toggleEffect e r := r.toggleEffect e

end Recorder

end PocketDesk
