import PocketDesk.Desktop.Window

/-! What is kept of a desktop between two visits. -/

namespace PocketDesk

structure Settings where
  soundEnabled : Bool
  matrixActive : Bool
  deriving DecidableEq, Repr

/-- What stands for settings that were not saved. -/
def Settings.unsaved : Settings := ⟨false, false⟩

structure SavedWindow where
  id : WindowId
  isOpen : Bool
  isMaximized : Bool
  zIndex : UInt32
  deriving DecidableEq, Repr

structure Snapshot where
  windows : List SavedWindow
  settings : Settings
  deriving DecidableEq, Repr

end PocketDesk
