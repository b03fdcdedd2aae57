import PocketDesk.Desktop.Storage

/-! What the desktop reports beside its output, for whoever looks after it. -/

namespace PocketDesk

inductive NoticeLevel where
  | debug
  | warn
  | error
  deriving DecidableEq, Repr

def NoticeLevel.name : NoticeLevel → String
  | .debug => "debug"
  | .warn => "warn"
  | .error => "error"

inductive Notice where
  /-- A request named a window that the desktop does not have. -/
  | unknownWindow (window : WindowId)
  /-- A snapshot told of a window that the desktop does not have. -/
  | unknownSavedWindow (window : WindowId)
  | effectSwitched (effect : String) (active : Bool)
  /-- A path was opened from the desktop; the terminal would have printed this. -/
  | opened (path printed : String)
  | loadFailed (error : StorageError)
  | saveFailed (error : StorageError)
  | noAudio (asset : String)
  | noCanvas
  | noRootElement

def Notice.level : Notice → NoticeLevel
  | .unknownWindow _ | .unknownSavedWindow _ | .noCanvas => .warn
  | .effectSwitched .. | .opened .. | .noAudio _ => .debug
  | .loadFailed _ | .saveFailed _ | .noRootElement => .error

def Notice.message : Notice → String
  | .unknownWindow w => "ignoring request for unknown window '" ++ w.name ++ "'"
  | .unknownSavedWindow w => "dropping saved state of unknown window '" ++ w.name ++ "'"
  | .effectSwitched e active =>
    "effect '" ++ e ++ "' -> " ++ (if active then "true" else "false")
  | .opened path printed => "open " ++ path ++ ": " ++ printed
  | .loadFailed e => "failed to load desktop state: " ++ e.message
  | .saveFailed e => "failed to save desktop state: " ++ e.message
  | .noAudio asset => "cannot create audio element for " ++ asset
  | .noCanvas => "matrix rain: canvas 2d context unavailable"
  | .noRootElement => "failed to find #app element"

/-- The level and the message on one line. -/
def Notice.line (n : Notice) : String := n.level.name ++ " " ++ n.message

end PocketDesk
