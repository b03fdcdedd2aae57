import PocketDesk.Desktop.Window

/-! What a terminal may ask of the desktop around it. A host opens, closes and toggles
windows and switches effects; only a switch is answered, with the effect's new state. -/

namespace PocketDesk

class WindowHost (H : Type) where
  openWindow : WindowId → Option Payload → H → H
  closeWindow : WindowId → H → H
  toggleWindow : WindowId → H → H
  toggleEffect : String → H → Bool × H

/-- A request as a host saw it, with the answer it gave to a switch. -/
inductive Request where
  | openWindow (window : WindowId) (payload : Option Payload)
  | closeWindow (window : WindowId)
  | toggleWindow (window : WindowId)
  | toggleEffect (effect : String) (active : Bool)
  deriving DecidableEq, Repr

/-- Makes the same request of a host. -/
def Request.replay {H : Type} [WindowHost H] : Request → H → H
  | .openWindow w p => WindowHost.openWindow w p
  | .closeWindow w => WindowHost.closeWindow w
  | .toggleWindow w => WindowHost.toggleWindow w
  | .toggleEffect e _ => fun h => (WindowHost.toggleEffect e h).2

end PocketDesk
