import PocketDesk.Desktop.Snapshot.Basic
import PocketDesk.Json.Printer

/-! Writing a snapshot as JSON: every part is written, in a fixed order. -/

namespace PocketDesk

def SavedWindow.write (w : SavedWindow) : List Char :=
  Json.writeObject
    [ ("id", Json.writeString w.id.name)
    , ("is_open", Json.writeBool w.isOpen)
    , ("is_maximized", Json.writeBool w.isMaximized)
    , ("z_index", Json.writeNat w.zIndex.toNat) ]

def Settings.write (s : Settings) : List Char :=
  Json.writeObject
    [ ("sound_enabled", Json.writeBool s.soundEnabled)
    , ("matrix_active", Json.writeBool s.matrixActive) ]

def Snapshot.write (s : Snapshot) : List Char :=
  Json.writeObject
    [ ("windows", Json.writeArray (s.windows.map SavedWindow.write))
    , ("settings", s.settings.write) ]

def Snapshot.toJson (s : Snapshot) : String := String.ofList s.write

end PocketDesk
