import PocketDesk.Desktop.Manager
import PocketDesk.Desktop.Notice

/-! The operations on a window manager as data: what each does, and what it reports. -/

namespace PocketDesk

inductive WindowOp where
  | openWindow (window : WindowId) (payload : Option Payload)
  | closeWindow (window : WindowId)
  | toggleWindow (window : WindowId)
  | raise (window : WindowId)
  | toggleMaximized (window : WindowId)
  | toggleEffect (effect : String)
  | setSound (on : Bool)
  deriving DecidableEq, Repr

namespace WindowOp

def apply : WindowOp → Manager → Manager
  | .openWindow w p, m => m.openWindow w p
  | .closeWindow w, m => m.closeWindow w
  | .toggleWindow w, m => m.toggleWindow w
  | .raise w, m => m.raise w
  | .toggleMaximized w, m => m.toggleMaximized w
  | .toggleEffect e, m => m.toggleEffect e
  | .setSound on, m => m.setSound on

def window? : WindowOp → Option WindowId
  | .openWindow w _ | .closeWindow w | .toggleWindow w | .raise w | .toggleMaximized w => some w
  | .toggleEffect _ | .setSound _ => none

/-- What the operation reports when it is applied to the manager. -/
def notices : WindowOp → Manager → List Notice
  | .toggleEffect e, m => [.effectSwitched e (!m.effectActive e)]
  | op, m =>
    match op.window? with
    | some w => if m.knows w then [] else [.unknownWindow w]
    | none => []

end WindowOp

def Manager.restoreNotices (m : Manager) (s : Snapshot) : List Notice :=
  (s.windows.filter fun w => !m.knows w.id).map fun w => .unknownSavedWindow w.id

/-- A manager together with what it has reported, oldest first. -/
structure ReportingManager where
  manager : Manager
  notices : List Notice

namespace ReportingManager

def apply (r : ReportingManager) (op : WindowOp) : ReportingManager :=
  ⟨op.apply r.manager, r.notices ++ op.notices r.manager⟩

instance : WindowHost ReportingManager where
  openWindow w p r := r.apply (.openWindow w p)
  closeWindow w r := r.apply (.closeWindow w)
  toggleWindow w r := r.apply (.toggleWindow w)
  toggleEffect e r :=
    let r := r.apply (.toggleEffect e)
    (r.manager.effectActive e, r)

end ReportingManager

end PocketDesk
