import PocketDesk.Page.Basic

/-! What a visitor does with a page: waiting, and gestures on its elements. A gesture is
heard by the element and then by everything around it, up to the root. The page settles
in between, so an element that has gone away by then no longer hears it. -/

namespace PocketDesk.Page

/-- A gesture as the elements hear it. -/
inductive Gesture where
  | click
  | doubleClick
  | mouseDown
  | keyDown (key : Key)
  /-- The element now has this text. -/
  | input (text : String)
  | change
  deriving DecidableEq, Repr

def Gesture.trigger : Gesture → Trigger
  | .click => .click
  | .doubleClick => .doubleClick
  | .mouseDown => .mouseDown
  | .keyDown _ => .keyDown
  | .input _ => .input
  | .change => .change

def press (p : Page) (key : Key) : Page :=
  let (after, host) := p.console.press key (ReportingManager.mk p.windows [])
  let cursor? := p.console.cursor? key
  let p := { p.notify host.notices with
    session := ⟨after.shell, host.manager⟩
    field := after.field
    unsaved := p.unsaved || key.submits }
  let p := cursor?.elim p fun position => p.tell (.cursorPut position)
  { p with report := { p.report with keyTaken := p.report.keyTaken || key.isTaken } }

def perform (g : Gesture) (p : Page) : Deed → Page
  | .play sound => p.play sound
  | .operate op => p.use (p.session.act op)
  | .openPath path => p.use (p.session.openPath path)
  | .choose folder => { p with folder := folder }
  | .focusField => p.tell (.focused fieldId)
  | .pressKey =>
    match g with
    | .keyDown key => p.press key
    | _ => p
  | .takeText =>
    match g with
    | .input text => { p with field := (p.console.type text).field }
    | _ => p

/-- What the element at a path is to do on a gesture. -/
def deedsAt (p : Page) (g : Gesture) (path : Path) : List Deed :=
  ((p.view?.bind (·.at? path)).bind View.head?).elim [] (·.deeds g.trigger)

/-- Lets the element at a path hear a gesture, if it is still there. -/
def hear (p : Page) (g : Gesture) (path : Path) : Page :=
  match p.deedsAt g path with
  | [] => p
  | deeds => settle p (deeds.foldl (perform g) p)

/-- Lets an element hear a gesture, and then all that is around it. -/
def bubble (p : Page) (g : Gesture) : Path → Page
  | [] => p.hear g []
  | step :: above => (p.hear g (step :: above)).bubble g above

/-- Which element a visitor means. Of those that fit all that is given it is the n-th. -/
structure Target where
  /-- The title of a window that it is in. -/
  window : Option String := none
  tag : Option String := none
  /-- One of its classes. -/
  className : Option String := none
  /-- All the text in it. -/
  text : Option String := none
  id : Option String := none
  nth : Nat := 0

namespace Target

def field : Target := { id := some fieldId }

def fits (t : Target) (place : View.Place) : Bool :=
  t.window.all (fun title => [.keyed (windowPart title), desktopStep].isSuffixOf place.path) &&
  t.tag.all (fun tag => place.head.tag = tag) &&
  t.className.all (fun name => place.head.classes.contains name) &&
  t.text.all (fun text => place.text = text) &&
  t.id.all (fun id => place.head.attribute? "id" = some (.text id))

end Target

def find? (p : Page) (t : Target) : Option View.Place :=
  (((p.view?.elim [] (·.places [])).filter t.fits))[t.nth]?

inductive Act where
  /-- Puts a text where another one may have been. -/
  | type (text : String)
  | key (key : Key)
  /-- Types a text and presses the enter key. -/
  | line (text : String)
  /-- Flips a switch. -/
  | change
  | click
  | doubleClick
  | mouseDown
  deriving DecidableEq, Repr

/-- Whether an element is seen as checked. What the element says goes before what was set. -/
def isChecked (p : Page) (place : View.Place) : Bool :=
  match place.head.attribute? "checked" with
  | some (.flag on) => on
  | _ => (p.touches.get place.path).checked.getD false

def typeInto (p : Page) (place : View.Place) (text : String) : Page :=
  let touches := p.touches.update place.path ({ · with value := some text })
  { p with touches := touches }.bubble (.input text) place.path

def flip (p : Page) (place : View.Place) : Page :=
  let checked := !p.isChecked place
  let touches := p.touches.update place.path ({ · with checked := some checked })
  { p with touches := touches }.bubble .change place.path

def act (p : Page) (place : View.Place) : Act → Page
  | .type text => p.typeInto place text
  | .key key => p.bubble (.keyDown key) place.path
  | .line text => (p.typeInto place text).bubble (.keyDown .enter) place.path
  | .change => p.flip place
  | .click => p.bubble .click place.path
  | .doubleClick => p.bubble .doubleClick place.path
  | .mouseDown => p.bubble .mouseDown place.path

inductive VisitStep where
  | wait (ms : Nat)
  | act (target : Target) (act : Act)

/-- The page after a step, with a report of that step alone, and whether the element that was
meant is there. -/
def visit (p : Page) (s : VisitStep) : Page × Bool :=
  let p := { p with report := {} }
  match s with
  | .wait ms => (p.wait ms, true)
  | .act target act =>
    match p.find? target with
    | some place => (p.act place act, true)
    | none => (p, false)

end PocketDesk.Page
