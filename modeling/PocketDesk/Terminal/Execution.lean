import PocketDesk.Desktop.Effects
import PocketDesk.Desktop.Host
import PocketDesk.Terminal.Command
import PocketDesk.Terminal.CommandError
import PocketDesk.Terminal.Line

/-! Executing a command. It reads the tree, asks the desktop for at most one thing, and
says what the terminal should print and where it should go; it changes neither. -/

namespace PocketDesk

/-- What a command has the terminal do. -/
structure Outcome where
  output : List Line := []
  /-- Where to go, if anywhere. -/
  navigate : Option Location := none
  /-- Empty the log first. -/
  clear : Bool := false
  deriving DecidableEq, Repr

namespace Outcome

def nothing : Outcome := {}

def line (l : Line) : Outcome := { output := [l] }

def goTo (l : Location) : Outcome := { navigate := some l }

def cleared : Outcome := { clear := true }

/-- A complaint takes one line: a warning for a hint, an error for a failure. -/
def failure (e : CommandError) : Outcome :=
  line (if e.isUsage then .warning e.message else .error e.message)

end Outcome

def matrixEnabled : String := "Matrix Protocol Enabled... Wake up, Neo!"

def matrixDisabled : String := "Matrix Protocol Disabled... Hello, Gelo!"

def openUsage : CommandError := .usage "open [filename]"

namespace Command

variable {H : Type} [WindowHost H]

/-- Asks the desktop for what an executable does. -/
def runAction (action : Action) (host : H) : H :=
  match action with
  | .openWindow w => WindowHost.openWindow w none host
  | .toggleWindow w => WindowHost.toggleWindow w host
  | .toggleEffect e => (WindowHost.toggleEffect e host).2

/-- Opens a node that was named by `path`. -/
def openNode (node : Node) (path : String) (host : H) : Outcome × H :=
  match node with
  | .directory _ => (.failure (.isADirectory "open" path), host)
  | .shortcut w =>
    (.line (.muted ("Launching " ++ path ++ "...")), WindowHost.openWindow w none host)
  | .executable action =>
    (.line (.muted ("Executing " ++ path ++ "...")), runAction action host)
  | .file .pdf asset =>
    (.line (.muted ("Opening PDF: " ++ path ++ "...")),
      WindowHost.openWindow pdfWindow (some ⟨path, asset⟩) host)
  | .file .image asset =>
    (.line (.muted ("Opening Image: " ++ path ++ "...")),
      WindowHost.openWindow imageWindow (some ⟨path, asset⟩) host)
  | .file .text content => (.line (.text content), host)
  | .file (.other kind) _ => (.failure (.unsupportedKind kind), host)

def runList (tree : Tree) (current : Location) : Outcome :=
  match tree.list? current with
  | some entries => .line (.listing entries)
  | none => .nothing

def runChangeDirectory (tree : Tree) (current : Location) (path : String) : Outcome :=
  match tree.resolve current path with
  | .error e => .failure (.ofNotFound "cd" e)
  | .ok (node, l) => if node.isDirectory then .goTo l else .failure (.notADirectory "cd" path)

def runOpen (tree : Tree) (current : Location) (path : String) (host : H) : Outcome × H :=
  match tree.resolve current path with
  | .error e => (.failure (.ofNotFound "open" e), host)
  | .ok (node, _) => openNode node path host

def execute (command : Command) (tree : Tree) (current : Location) (host : H) : Outcome × H :=
  match command with
  | .doc page => (.line (.rich page.body), host)
  | .list => (runList tree current, host)
  | .changeDirectory none => (.goTo .root, host)
  | .changeDirectory (some path) => (runChangeDirectory tree current path, host)
  | .openPath none => (.failure openUsage, host)
  | .openPath (some path) => runOpen tree current path host
  | .clear => (.cleared, host)
  | .exit => (.nothing, WindowHost.closeWindow terminalWindow host)
  | .matrix =>
    let (active, host) := WindowHost.toggleEffect matrixEffect host
    (.line (.success (if active then matrixEnabled else matrixDisabled)), host)
  | .unknown verb => (.failure (.unknownCommand verb), host)

end Command

end PocketDesk
