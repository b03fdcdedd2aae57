import PocketDesk.Page.ConsoleView
import PocketDesk.Session

/-! What the windows hold: the terminal, the explorer, the read-me and the features page,
the settings and the two viewers. A window without a program of its own says so. -/

namespace PocketDesk.Page

open View (el)

/-- An entry in the explorer. Directories make a sound and do not open. -/
def entryView (folder : Folder) (e : ListEntry) : View :=
  el "button" ["entry"] [.icon (.ofStyle e.style), el "span" ["entryName"] [.text e.name]]
  |>.on .doubleClick
    (.play .click :: if e.style = .directory then [] else [.openPath (folder.path e.name)])

def sidebarView (chosen : Folder) : View :=
  el "nav" ["sidebar"]
    (Folder.all.map fun f =>
      el "button" ("sidebarItem" :: if f = chosen then ["sidebarActive"] else [])
        [.icon .folder, el "span" [] [.text f.name]]
      |>.on .click [.play .click, .choose f])

def explorerView (s : Session) (folder : Folder) : View :=
  el "div" ["explorer"]
    [ sidebarView folder
    , el "div" ["grid"] ((s.list folder.location).map (entryView folder)) ]

def docView (page : DocPage) : View := el "div" ["doc"] [.markup page.body]

def switchView (label : String) (on : Bool) (flip : WindowOp) : View :=
  el "label" ["setting"]
    [ el "input" [] []
        |>.withTexts [("type", "checkbox")]
        |>.withAttribute "checked" (.flag on)
        |>.on .change [.operate flip]
    , .text label ]

def settingsView (m : Manager) : View :=
  el "div" ["settings"]
    [ switchView "Sound effects" m.soundEnabled (.setSound !m.soundEnabled)
    , switchView "Matrix protocol" (m.effectActive matrixEffect) (.toggleEffect matrixEffect) ]

def documentView (p : Payload) : View :=
  el "iframe" ["pdf"] []
  |>.withTexts [("src", p.contentRef), ("title", p.title)]
  |>.withKey "document"

def imageView (p : Payload) : View :=
  el "div" ["imageFrame"]
    [el "img" ["image"] [] |>.withTexts [("src", p.contentRef), ("alt", p.title)]]
  |>.withKey "image"

/-- A viewer shows what it was given last. -/
def viewerView (view : Payload → View) : Option Payload → View
  | some p => view p
  | none => el "div" ["empty"] [.text "Nothing to show."] |>.withKey "empty"

def offlineView (w : WindowId) : View :=
  el "div" ["empty"] [.text (w.name ++ ": service offline.")]

/-- What a window holds, with what the visitor has typed and chosen in it. -/
def programView (s : Session) (field : InputField) (folder : Folder) (w : Window) : View :=
  match w.id.name with
  | "terminal" => (Console.mk s.shell field).view
  | "files" => explorerView s folder
  | "readme" => docView .whoami
  | "features" => docView .achievements
  | "settings" => settingsView s.windows
  | "pdf" => viewerView documentView w.payload
  | "image" => viewerView imageView w.payload
  | _ => offlineView w.id

end PocketDesk.Page
