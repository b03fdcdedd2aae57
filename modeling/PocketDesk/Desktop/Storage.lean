import PocketDesk.Desktop.Snapshot.Printer
import PocketDesk.Desktop.Snapshot.Reader

/-! Where the snapshot lives between visits: one text under one key. A storage may be
out of order in several ways; one that is in order gives back what was saved. -/

namespace PocketDesk

def storageKey : String := "gelos_state"

inductive StorageTrouble where
  /-- There is none. -/
  | missing
  /-- It may not be looked at. -/
  | denied
  /-- Nothing can be read from it. -/
  | unreadable
  /-- Nothing can be written to it. -/
  | unwritable
  deriving DecidableEq, Repr

structure Storage where
  stored : Option String := none
  trouble : Option StorageTrouble := none
  deriving DecidableEq, Repr

inductive StorageError where
  | unavailable
  | invalidSnapshot (fault : Json.Fault)
  | writeFailed

def StorageError.message : StorageError → String
  | .unavailable => "localStorage not available"
  | .invalidSnapshot fault => "invalid snapshot JSON:" ++ fault.detail
  | .writeFailed => "failed to write to localStorage"

namespace Storage

/-- The snapshot that was saved, if one was. What cannot be read counts as not saved. -/
def load (s : Storage) : Except StorageError (Option Snapshot) :=
  match s.trouble with
  | some .missing => .error .unavailable
  | some .denied => .error .unavailable
  | some .unreadable => .ok none
  | _ =>
    match s.stored with
    | none => .ok none
    | some text =>
      match Snapshot.ofJson text with
      | .error f => .error (.invalidSnapshot f)
      | .ok snapshot => .ok (some snapshot)

def save (s : Storage) (snapshot : Snapshot) : Except StorageError Storage :=
  match s.trouble with
  | some .missing => .error .unavailable
  | some .denied => .error .unavailable
  | some .unwritable => .error .writeFailed
  | _ => .ok { s with stored := some snapshot.toJson }

end Storage

end PocketDesk
