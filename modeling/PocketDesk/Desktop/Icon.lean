import PocketDesk.Desktop.WindowId
import PocketDesk.Tree.Listing

/-! The pictures on the desktop: one for every window, one for every style of entry, and
those of the controls. -/

namespace PocketDesk

inductive Icon where
  | terminal
  | explorer
  | browser
  | specs
  | settings
  | mail
  | folder
  | file
  | fileText
  | filePdf
  | fileImage
  | fileLink
  | start
  | maximize
  | restore
  | close
  deriving DecidableEq, Repr

def Icon.name : Icon → String
  | .terminal => "TERMINAL"
  | .explorer => "EXPLORER"
  | .browser => "BROWSER"
  | .specs => "SPECS"
  | .settings => "SETTINGS"
  | .mail => "MAIL"
  | .folder => "FOLDER"
  | .file => "FILE"
  | .fileText => "FILE_TEXT"
  | .filePdf => "FILE_PDF"
  | .fileImage => "FILE_IMAGE"
  | .fileLink => "FILE_LINK"
  | .start => "START"
  | .maximize => "MAXIMIZE"
  | .restore => "RESTORE"
  | .close => "CLOSE"

/-- A window that is not known has the picture of a file. -/
def Icon.ofWindow (w : WindowId) : Icon :=
  match w.name with
  | "terminal" => .terminal
  | "files" => .explorer
  | "browser" => .browser
  | "readme" => .fileText
  | "features" => .specs
  | "settings" => .settings
  | "mail" => .mail
  | "pdf" => .filePdf
  | "image" => .fileImage
  | _ => .file

def Icon.ofStyle : EntryStyle → Icon
  | .directory => .folder
  | .shortcut | .executable => .fileLink
  | .pdf => .filePdf
  | .image => .fileImage
  | .file => .fileText

end PocketDesk
