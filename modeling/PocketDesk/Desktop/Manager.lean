import PocketDesk.Desktop.Effects
import PocketDesk.Desktop.Host
import PocketDesk.Desktop.Snapshot.Basic

/-! The manager of the desktop's windows. Raising a window takes the next place in the
stack, so the window that was raised last stands in front. A request for a window that
the registry does not have changes nothing. -/

namespace PocketDesk

structure Manager where
  /-- The registered windows, always in the same order. -/
  windows : List Window
  /-- The highest place in the stack that was given out. -/
  counter : UInt32
  effects : Effects
  soundEnabled : Bool
  deriving DecidableEq, Repr

namespace Manager

/-- All windows closed, no effect on, and sound on. -/
def fresh : Manager := ⟨registry.map Window.fresh, initialZIndex, .empty, true⟩

def get? (m : Manager) (id : WindowId) : Option Window := m.windows.find? (·.id = id)

def knows (m : Manager) (id : WindowId) : Bool := (m.get? id).isSome

def isOpen (m : Manager) (id : WindowId) : Bool := (m.get? id).any (·.isOpen)

def openWindows (m : Manager) : List Window := m.windows.filter (·.isOpen)

/-- The open window furthest in front; of equals the last in the registry. -/
def focused? (m : Manager) : Option Window :=
  m.openWindows.foldl
    (fun best w =>
      match best with
      | none => some w
      | some b => if b.zIndex ≤ w.zIndex then some w else some b)
    none

def update (m : Manager) (id : WindowId) (f : Window → Window) : Manager :=
  { m with windows := m.windows.map fun w => if w.id = id then f w else w }

/-- Puts a window in front of all others. -/
def raise (m : Manager) (id : WindowId) : Manager :=
  if m.knows id then
    let z := m.counter + 1
    { m.update id fun w => { w with zIndex := z } with counter := z }
  else m

/-- Opens a window and raises it. A payload replaces the one before; without one that stays. -/
def openWindow (m : Manager) (id : WindowId) (payload : Option Payload) : Manager :=
  (m.update id fun w => { w with isOpen := true, payload := payload.or w.payload }).raise id

def closeWindow (m : Manager) (id : WindowId) : Manager :=
  m.update id fun w => { w with isOpen := false }

def toggleWindow (m : Manager) (id : WindowId) : Manager :=
  if m.isOpen id then m.closeWindow id else m.openWindow id none

def toggleMaximized (m : Manager) (id : WindowId) : Manager :=
  m.update id fun w => { w with isMaximized := !w.isMaximized }

def effectActive (m : Manager) (effect : String) : Bool := m.effects.isActive effect

def toggleEffect (m : Manager) (effect : String) : Manager :=
  { m with effects := m.effects.toggle effect }

def setSound (m : Manager) (on : Bool) : Manager := { m with soundEnabled := on }

def settings (m : Manager) : Settings := ⟨m.soundEnabled, m.effectActive matrixEffect⟩

/-- What is saved of a window; the payload is not. -/
def saved (w : Window) : SavedWindow := ⟨w.id, w.isOpen, w.isMaximized, w.zIndex⟩

def snapshot (m : Manager) : Snapshot := ⟨m.windows.map saved, m.settings⟩

/-- Takes over what was saved of one window. The counter only grows. -/
def restoreWindow (m : Manager) (s : SavedWindow) : Manager :=
  if m.knows s.id then
    { m.update s.id fun w =>
        { w with isOpen := s.isOpen, isMaximized := s.isMaximized, zIndex := s.zIndex } with
      counter := max m.counter s.zIndex }
  else m

/-- Takes over a snapshot: its windows in their order, and the settings. -/
def restore (m : Manager) (s : Snapshot) : Manager :=
  let restored := s.windows.foldl restoreWindow m
  { restored with
    soundEnabled := s.settings.soundEnabled
    effects := restored.effects.set matrixEffect s.settings.matrixActive }

instance : WindowHost Manager where
  openWindow id payload m := m.openWindow id payload
  closeWindow id m := m.closeWindow id
  toggleWindow id m := m.toggleWindow id
  toggleEffect effect m := ((m.toggleEffect effect).effectActive effect, m.toggleEffect effect)

end Manager

end PocketDesk
