import PocketDesk.Desktop.Snapshot.Basic
import PocketDesk.Json.Record

/-! Reading a snapshot from JSON. A saved window needs its name, whether it is open, and
its place in the stack; everything else may be absent. -/

namespace PocketDesk

def SavedWindow.fields : List (Json.Field SavedWindow) :=
  [ .of "id" true Json.readString fun x w => { w with id := ⟨x⟩ }
  , .of "is_open" true Json.readBool fun x w => { w with isOpen := x }
  , .of "is_maximized" false Json.readBool fun x w => { w with isMaximized := x }
  , .of "z_index" true Json.readUInt32 fun x w => { w with zIndex := x } ]

def SavedWindow.read : Json.Reader SavedWindow :=
  Json.readRecord "WindowSnapshot" (some fields) ⟨⟨""⟩, false, false, 0⟩

def Settings.fields : List (Json.Field Settings) :=
  [ .of "sound_enabled" false Json.readBool fun x s => { s with soundEnabled := x }
  , .of "matrix_active" false Json.readBool fun x s => { s with matrixActive := x } ]

def Settings.read : Json.Reader Settings := Json.readRecord "Settings" (some fields) .unsaved

def Snapshot.fields : List (Json.Field Snapshot) :=
  [ .of "windows" false (Json.readArray (some SavedWindow.read)) fun x s => { s with windows := x }
  , .of "settings" false Settings.read fun x s => { s with settings := x } ]

def Snapshot.read : Json.Reader Snapshot :=
  Json.readRecord "SessionSnapshot" (some fields) ⟨[], .unsaved⟩

def Snapshot.ofJson (text : String) : Except Json.Fault Snapshot :=
  Json.readDocument Snapshot.read text

end PocketDesk
