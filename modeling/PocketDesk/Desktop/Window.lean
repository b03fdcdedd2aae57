import PocketDesk.Desktop.WindowId

/-! Windows and the registry of those the desktop knows. -/

namespace PocketDesk

/-- What a viewer shows: its title, and the asset under it. -/
structure Payload where
  title : String
  contentRef : String
  deriving DecidableEq, Repr

structure Window where
  id : WindowId
  title : String
  isOpen : Bool := false
  isMaximized : Bool := false
  /-- The place in the stack; a higher one is further in front. -/
  zIndex : UInt32
  /-- The last payload a viewer was given. -/
  payload : Option Payload := none
  deriving DecidableEq, Repr

/-- The place in the stack of a window that was never raised. -/
def baseZIndex : UInt32 := 10

/-- The highest place given out before any window was raised. -/
def initialZIndex : UInt32 := 100

def terminalWindow : WindowId := ⟨"terminal"⟩

def filesWindow : WindowId := ⟨"files"⟩

def readmeWindow : WindowId := ⟨"readme"⟩

def settingsWindow : WindowId := ⟨"settings"⟩

def pdfWindow : WindowId := ⟨"pdf"⟩

def imageWindow : WindowId := ⟨"image"⟩

/-- The windows of the desktop with their titles, in the order of the registry. -/
def registry : List (WindowId × String) :=
  [ (terminalWindow, "Terminal")
  , (filesWindow, "File Explorer")
  , (⟨"browser"⟩, "GeloNet")
  , (readmeWindow, "README.md")
  , (⟨"features"⟩, "Sys Specs")
  , (settingsWindow, "Settings")
  , (⟨"mail"⟩, "Mail")
  , (pdfWindow, "PDF Viewer")
  , (imageWindow, "Image Viewer") ]

def Window.fresh (entry : WindowId × String) : Window :=
  { id := entry.1, title := entry.2, zIndex := baseZIndex }

end PocketDesk
