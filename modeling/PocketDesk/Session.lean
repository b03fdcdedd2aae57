import PocketDesk.Desktop.Startup
import PocketDesk.Terminal.Shell

/-! A visit as a whole: one terminal session and the desktop's windows. Lines entered in
the terminal may act on the windows; the desktop's own controls never act on the
terminal. Every step gives the session after it and what it reported. -/

namespace PocketDesk

structure Session where
  shell : Shell
  windows : Manager

namespace Session

/-- A visit to a tree, with the windows as they are at its start. -/
def start (tree : Tree) (windows : Manager) : Session := ⟨.start tree, windows⟩

/-- Submits a line to the terminal. What it asks of the desktop goes to the windows. -/
def submit (s : Session) (line : String) : Session × List Notice :=
  let (shell, host) := s.shell.submit line (ReportingManager.mk s.windows [])
  (⟨shell, host.manager⟩, host.notices)

/-- One step through the history: back for a negative direction, else forward. -/
def navigateHistory (s : Session) (direction : Int) : Option String × Session :=
  let (entry, shell) := if direction < 0 then s.shell.previous else s.shell.next
  (entry, { s with shell := shell })

def act (s : Session) (op : WindowOp) : Session × List Notice :=
  ({ s with windows := op.apply s.windows }, op.notices s.windows)

/-- The listing of a directory, empty when there is none. -/
def list (s : Session) (l : Location) : List ListEntry := (s.shell.tree.list? l).getD []

/-- Opens an absolute path as the terminal would, and prints nothing; what the terminal would have
printed is reported. -/
def openPath (s : Session) (path : String) : Session × List Notice :=
  let (outcome, host) :=
    (Command.openPath (some path)).execute s.shell.tree .root (ReportingManager.mk s.windows [])
  ({ s with windows := host.manager },
    host.notices ++ outcome.output.map fun line => .opened path line.plainText)

def restore (s : Session) (snapshot : Snapshot) : Session × List Notice :=
  ({ s with windows := s.windows.restore snapshot }, s.windows.restoreNotices snapshot)

end Session

end PocketDesk
