import PocketDesk.Desktop.WindowOp

/-! How a visit starts. What was saved is taken over if it can be loaded; otherwise the
desktop starts fresh. Once the boot screen is done, the read-me window opens unless some
window is open already. -/

namespace PocketDesk

/-- The snapshot in a storage. A storage that fails is reported and counts as empty. -/
def Storage.loadOrReport (s : Storage) : Option Snapshot × List Notice :=
  match s.load with
  | .ok snapshot => (snapshot, [])
  | .error e => (none, [.loadFailed e])

/-- Saves a snapshot. A storage that fails is reported and stays as it was. -/
def Storage.saveOrReport (s : Storage) (snapshot : Snapshot) : Storage × List Notice :=
  match s.save snapshot with
  | .ok s => (s, [])
  | .error e => (s, [.saveFailed e])

namespace Manager

def start (s : Storage) : Manager × List Notice :=
  match s.loadOrReport with
  | (none, notices) => (fresh, notices)
  | (some snapshot, notices) =>
    (fresh.restore snapshot, notices ++ fresh.restoreNotices snapshot)

def bootWindow : WindowId := readmeWindow

def afterBoot (m : Manager) : Manager :=
  if m.openWindows.isEmpty then m.openWindow bootWindow none else m

end Manager

end PocketDesk
