import PocketDesk.Desktop.Manager

/-! The desktop behind the command line: a window manager that says every request it is
handed. The terminal's own window is open from the start. -/

namespace PocketDesk.CommandLine

inductive Printed where
  /-- A request to the desktop. -/
  | request (text : String)
  /-- A line of the log. -/
  | line (text : String)
  | prompt (text : String)
  | completion (text : String)
  /-- The input has ended behind a prompt. -/
  | endOfInput
  deriving DecidableEq, Repr

/-- How a piece is written; only a prompt does not end its line. -/
def Printed.text : Printed → String
  | .request s | .line s | .completion s => s ++ "\n"
  | .prompt s => s ++ "$ "
  | .endOfInput => "\n"

structure EchoHost where
  manager : Manager
  /-- What was said, oldest first. -/
  said : List Printed

namespace EchoHost

def start : EchoHost := ⟨Manager.fresh.openWindow terminalWindow none, []⟩

def say (h : EchoHost) (text : String) : EchoHost :=
  { h with said := h.said ++ [.request ("[desktop] " ++ text)] }

def terminalOpen (h : EchoHost) : Bool := h.manager.isOpen terminalWindow

def openText (w : WindowId) : Option Payload → String
  | some p => "open " ++ w.name ++ " (" ++ p.title ++ " -> " ++ p.contentRef ++ ")"
  | none => "open " ++ w.name

instance : WindowHost EchoHost where
  openWindow w p h := { h.say (openText w p) with manager := h.manager.openWindow w p }
  closeWindow w h := { h.say ("close " ++ w.name) with manager := h.manager.closeWindow w }
  toggleWindow w h := { h.say ("toggle " ++ w.name) with manager := h.manager.toggleWindow w }
  toggleEffect e h :=
    let manager := h.manager.toggleEffect e
    let active := manager.effectActive e
    (active,
      { h.say ("effect " ++ e ++ (if active then " on" else " off")) with manager := manager })

end EchoHost

end PocketDesk.CommandLine
