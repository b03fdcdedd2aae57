import PocketDesk.Terminal.Completion
import PocketDesk.Terminal.Execution
import PocketDesk.Terminal.History
import PocketDesk.Terminal.InputLine
import PocketDesk.Terminal.Log

/-! A terminal session: the tree it looks at, where it is, what it printed and what was
entered. The desktop around it is a host that is handed in with every line. -/

namespace PocketDesk

structure Shell where
  tree : Tree
  current : Location
  log : Log
  history : History

def welcomeMessage : String := "Welcome to GelOS v2.0. Type 'help'."

/-- How many lines a session keeps. -/
def maxLogLines : Nat := 1000

def promptUser : String := "root"

def promptHost : String := "gelo"

def promptAt (l : Location) : String := promptUser ++ "@" ++ promptHost ++ ":" ++ l.display

namespace Shell

def start (tree : Tree) : Shell :=
  ⟨tree, .root, (Log.empty maxLogLines).push (.success welcomeMessage), .empty⟩

def prompt (s : Shell) : String := promptAt s.current

/-- What a command has the session do. -/
def follow (s : Shell) (outcome : Outcome) : Shell :=
  let log := if outcome.clear then s.log.clear else s.log
  { s with
    log := log.extend outcome.output
    current := outcome.navigate.getD s.current }

/-- A line as it stands after it was entered: in the history, and behind the prompt in the log. -/
def echo (s : Shell) (line : String) : Shell :=
  { s with history := s.history.push line, log := s.log.push (.command s.prompt line) }

/-- Submits a line. A blank line only puts the history's cursor behind the newest entry. -/
def submit {H : Type} [WindowHost H] (s : Shell) (line : String) (host : H) : Shell × H :=
  match InputLine.parse? line with
  | none => ({ s with history := s.history.park }, host)
  | some input =>
    let command := Command.parse input.verb input.argument
    let (outcome, host) := command.execute s.tree s.current host
    ((s.echo line).follow outcome, host)

def complete (s : Shell) (buffer : String) : Completion := .complete s.tree s.current buffer

/-- The entry before; without one, what is being typed stays. -/
def previous (s : Shell) : Option String × Shell :=
  let (entry, history) := s.history.previous
  (entry, { s with history := history })

/-- The entry after; without one, what is being typed goes. -/
def next (s : Shell) : Option String × Shell :=
  let (entry, history) := s.history.next
  (entry, { s with history := history })

end Shell

end PocketDesk
