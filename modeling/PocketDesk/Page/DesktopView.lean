import PocketDesk.Content.Product
import PocketDesk.Page.ProgramView
import PocketDesk.Text.Split

/-! The boot screen, and the parts of the desktop: the icons, the windows and the bar at
the bottom. -/

namespace PocketDesk.Page

open View (el)

/-- A line of the boot screen, with the first tag in it highlighted. -/
def bootLineView (line : String) : View :=
  match Text.cutAt? okTag.toList line.toList with
  | some (before, after) =>
    el "div" []
      [ .text (String.ofList before)
      , el "span" ["ok"] [.text okTag]
      , .text (String.ofList after) ]
  | none => el "div" [] [.text line]

def bootView (shown : Nat) : View :=
  el "div" ["screen"] ((bootLines.take shown).map bootLineView)
  |>.withAttribute "scrollTop" (.number scrollEnd)

/-- The directory whose entries are on the desktop, under the root. -/
def iconFolder : Folder := .desktop

/-- What is written under an icon: the entry's name without the ending of shortcuts. -/
def iconLabel (entry : String) : String :=
  match Text.stripEnd? ".lnk".toList entry.toList with
  | some label => String.ofList label
  | none => entry

def iconView (e : ListEntry) : View :=
  let label := iconLabel e.name
  el "button" ["icon"]
    [ el "span" ["iconGlyph"] [.icon (.ofWindow ⟨label⟩)]
    , el "span" ["iconLabel"] [.text label] ]
  |>.on .doubleClick [.play .click, .openPath (iconFolder.path e.name)]

def iconsView (s : Session) : View :=
  el "div" ["icons"] ((s.list iconFolder.location).map iconView)

def controlsView (w : Window) : View :=
  el "div" ["controls"]
    [ el "button" ["control"] [.icon (if w.isMaximized then .restore else .maximize)]
        |>.withTexts [("title", "Maximize")]
        |>.on .click [.play .click, .operate (.toggleMaximized w.id)]
    , el "button" ["control", "close"] [.icon .close]
        |>.withTexts [("title", "Close")]
        |>.on .click [.play .click, .operate (.closeWindow w.id)] ]

def titleBarView (w : Window) : View :=
  el "header" ["titleBar"]
    [ el "span" ["titleIcon"] [.icon (.ofWindow w.id)]
    , el "span" ["title"] [.text w.title]
    , controlsView w ]

/-- A window around what it holds. Pressing the mouse anywhere in it raises it. -/
def windowView (w : Window) (program : View) : View :=
  el "section" ("window" :: if w.isMaximized then ["maximized"] else [])
    [titleBarView w, el "div" ["body"] [program]]
  |>.withTexts [("style", "z-index: " ++ toString w.zIndex ++ ";")]
  |>.on .mouseDown [.operate (.raise w.id)]

/-- The tab of a window in the bar. That of the focused window is another element than the one
the same window has while it is not focused. -/
def tabView (w : Window) (focused : Bool) : View :=
  el "button" ("tab" :: if focused then ["tabActive"] else [])
    [.icon (.ofWindow w.id), el "span" ["tabTitle"] [.text w.title]]
  |>.withKey ((if focused then "active " else "tab ") ++ w.id.name)
  |>.on .click [.play .click, .operate (.raise w.id)]

def startView : View :=
  el "button" ["start"] [.icon .start, el "span" [] [.text productName]]
  |>.withTexts [("title", "Open terminal")]
  |>.on .click [.play .click, .operate (.openWindow terminalWindow none)]

def tabsView (m : Manager) : View :=
  let focused := m.focused?.map Window.id
  el "div" ["tabs"] (m.openWindows.map fun w => tabView w (focused = some w.id))

/-- The clock shows when it was last set. -/
def barView (m : Manager) (clock : Nat) : View :=
  el "footer" ["bar"]
    [ startView
    , tabsView m
    , el "span" ["clock"] [.text ("clock " ++ toString clock)] ]

def canvasView (width height : UInt32) : View :=
  el "canvas" ["canvas"] []
  |>.withTexts [("width", toString width), ("height", toString height)]

end PocketDesk.Page
