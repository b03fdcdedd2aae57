import PocketDesk.Tree.Basic

/-! What a command can complain about. -/

namespace PocketDesk

inductive CommandError where
  | notFound (command path : String)
  | notADirectory (command path : String)
  | isADirectory (command path : String)
  | unsupportedKind (kind : String)
  | unknownCommand (verb : String)
  | usage (form : String)
  deriving DecidableEq, Repr

namespace CommandError

/-- A path that was not found, for the command that asked for it. -/
def ofNotFound (command : String) (e : NotFound) : CommandError := .notFound command e.expression

def message : CommandError → String
  | .notFound command path => command ++ ": " ++ path ++ ": No such file or directory"
  | .notADirectory command path => command ++ ": " ++ path ++ ": Not a directory"
  | .isADirectory command path => command ++ ": " ++ path ++ ": Is a directory"
  | .unsupportedKind kind => "Cannot open file type: " ++ kind
  | .unknownCommand verb => "Command not found: " ++ verb
  | .usage form => "usage: " ++ form

/-- A hint on the use of a command rather than a failure. -/
def isUsage : CommandError → Bool
  | .usage _ => true
  | _ => false

end CommandError

end PocketDesk
