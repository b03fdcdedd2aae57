import PocketDesk.Desktop.WindowOp
import PocketDesk.Tree.Location

/-! What the page's elements do when a visitor uses them. A handler waits for one kind
of gesture; what it then does is told by a list of deeds, which are done in order. -/

namespace PocketDesk.Page

inductive Sound where
  | click
  | keyPress
  deriving DecidableEq, Repr

def Sound.asset : Sound → String
  | .click => "assets/sounds/click.mp3"
  | .keyPress => "assets/sounds/keypress.wav"

/-- One would be as loud as can be. -/
def Sound.volume : Sound → String
  | .click => "0.4"
  | .keyPress => "0.2"

inductive Folder where
  | documents
  | pictures
  | desktop
  deriving DecidableEq, Repr

namespace Folder

/-- All folders in the order of the sidebar. -/
def all : List Folder := [.documents, .pictures, .desktop]

/-- The name of the folder's directory, which is right below the root. -/
def name : Folder → String
  | .documents => "documents"
  | .pictures => "pictures"
  | .desktop => "desktop"

def location (f : Folder) : Location := ⟨[f.name]⟩

def path (f : Folder) (entry : String) : String := "/" ++ f.name ++ "/" ++ entry

end Folder

inductive Trigger where
  | click
  | doubleClick
  | mouseDown
  | keyDown
  | input
  | change
  deriving DecidableEq, Repr

inductive Deed where
  /-- Plays a sound, if sounds are on. -/
  | play (sound : Sound)
  | operate (op : WindowOp)
  /-- Opens an absolute path of the tree. -/
  | openPath (path : String)
  /-- Has the explorer show another folder. -/
  | choose (folder : Folder)
  /-- Puts the keyboard's focus on the terminal's input field. -/
  | focusField
  /-- Hands the key to the terminal. -/
  | pressKey
  /-- Takes over the text that the input field now has. -/
  | takeText
  deriving DecidableEq, Repr

structure Handler where
  trigger : Trigger
  deeds : List Deed
  deriving DecidableEq, Repr

end PocketDesk.Page
