import PocketDesk.Content.BuiltIn
import PocketDesk.Page.DesktopView
import PocketDesk.Page.Picture
import PocketDesk.Page.Report

/-! The page that a visitor has before them: first the boot screen, then the desktop. What
it shows follows from its state alone. After every change the page settles: windows that
were used are saved, and what has newly come into view begins. -/

namespace PocketDesk

namespace Page

/-- The world around the page, which does not change during a visit. -/
structure Surroundings where
  width : Float := 800
  height : Float := 600
  /-- Sounds can be played. -/
  audible : Bool := true
  /-- One can draw on a canvas. -/
  drawable : Bool := true
  /-- There is an element for the page to stand in. -/
  rooted : Bool := true
  /-- Somebody keeps the notices, so that the page need not. -/
  logTaken : Bool := true

inductive Stage where
  /-- There is nothing, as there is no element for it. -/
  | nowhere
  /-- So many lines of the boot screen are shown, and at the time that is due comes the next. -/
  | booting (shown due : Nat)
  /-- The desktop, with the time to which its clock was set. -/
  | desktop (clock : Nat)
  deriving DecidableEq, Repr

end Page

structure Page where
  surroundings : Page.Surroundings
  /-- In milliseconds since the start. -/
  now : Nat := 0
  chance : Page.Chance
  storage : Storage
  session : Session
  stage : Page.Stage := .nowhere
  /-- The terminal's input field. It means nothing while the terminal is not shown. -/
  field : Page.InputField := {}
  /-- The explorer's folder. It means nothing while the explorer is not shown. -/
  folder : Page.Folder := .documents
  /-- The rain, while it is drawn. -/
  rain : Option Page.Rain := none
  touches : Page.Touches := []
  /-- The windows were used since they were saved. -/
  unsaved : Bool := false
  report : Page.Report := {}

namespace Page

def windows (p : Page) : Manager := p.session.windows

def console (p : Page) : Console := ⟨p.session.shell, p.field⟩

def isDesktop (p : Page) : Bool :=
  match p.stage with
  | .desktop _ => true
  | _ => false

def shows (p : Page) (w : WindowId) : Bool := p.isDesktop && p.windows.isOpen w

def showsRain (p : Page) : Bool := p.isDesktop && p.windows.effectActive matrixEffect

def windowPart (title : String) : String := "window:" ++ title

/-- The parts of the page by their names, in the order of the document. -/
def parts (p : Page) : List (String × View) :=
  match p.stage with
  | .nowhere => []
  | .booting shown _ => [("screen", bootView shown)]
  | .desktop clock =>
    (if p.showsRain then
      [("canvas", canvasView p.surroundings.width.toUInt32 p.surroundings.height.toUInt32)]
    else []) ++
    [("icons", iconsView p.session)] ++
    (p.windows.openWindows.map fun w =>
      (windowPart w.title, windowView w (programView p.session p.field p.folder w))) ++
    [("bar", barView p.windows clock)]

/-- The step to the desktop, which holds its parts. -/
def desktopStep : Step := .keyed "desktop"

def partPath (p : Page) (name : String) : Path :=
  if p.isDesktop then [.keyed name, desktopStep] else [.keyed name]

/-- The page as a whole, if it stands anywhere. -/
def view? (p : Page) : Option View :=
  let parts := p.parts.map fun (name, v) => v.withKey name
  let root (children : List View) : View := View.el "div" [] children |>.withTexts [("id", "app")]
  match p.stage with
  | .nowhere => none
  | .booting .. => some (root parts)
  | .desktop _ => some (root [View.el "main" ["desktop"] parts |>.withKey "desktop"])

def pictures (p : Page) : List (String × Picture) :=
  p.parts.filterMap fun (name, v) => (v.picture p.touches (p.partPath name)).map (name, ·)

/-! What the page does to the world. -/

def tell (p : Page) (e : Event) : Page :=
  { p with report := { p.report with events := p.report.events ++ [e] } }

def notify (p : Page) (notices : List Notice) : Page :=
  { p with report := { p.report with notices := p.report.notices ++ notices } }

/-- Plays a sound, if sounds are on. -/
def play (p : Page) (s : Sound) : Page :=
  if p.windows.soundEnabled then
    if p.surroundings.audible then p.tell (.played s) else p.notify [.noAudio s.asset]
  else p

/-- The page after its windows were used. -/
def use (p : Page) (used : Session × List Notice) : Page :=
  { p.notify used.2 with session := used.1, unsaved := true }

/-! Settling. -/

def save (p : Page) : Page :=
  if p.unsaved then
    let (storage, notices) := p.storage.saveOrReport p.windows.snapshot
    { p.notify notices with storage := storage, unsaved := false }
  else p

/-- A terminal that comes into view has an empty field, which gets the focus. -/
def beginTerminal (p : Page) : Page :=
  { p with field := (Console.mount p.session.shell).field }.tell (.focused fieldId)

/-- An explorer that comes into view shows the documents. -/
def beginExplorer (p : Page) : Page := { p with folder := .documents }

/-- A canvas that comes into view has rain, unless one cannot draw on it. -/
def beginRain (p : Page) : Page :=
  if p.surroundings.drawable then { p with rain := some (.start p.surroundings.width p.now) }
  else p.notify [.noCanvas]

def endRain (p : Page) : Page := { p with rain := none }

/-- Begins what is in view and was not in view before. -/
def begin (before p : Page) : Page :=
  let p := if p.showsRain then (if before.showsRain then p else p.beginRain) else p.endRain
  let p := if p.shows filesWindow && !before.shows filesWindow then p.beginExplorer else p
  if p.shows terminalWindow && !before.shows terminalWindow then p.beginTerminal else p

/-- Forgets what was set on elements that are gone. -/
def prune (p : Page) : Page :=
  if p.touches.isEmpty then p
  else { p with touches := (p.view?.map p.touches.within).getD [] }

/-- The page once all has been done that follows from a change. -/
def settle (before p : Page) : Page := (begin before p.save).prune

/-! Time. -/

/-- The pause after a line of the boot screen; it is longer after the last one. -/
def bootPause (value : Float) (last : Bool) : Nat :=
  50 + (value * 100).toUInt32.toNat + if last then 800 else 0

def bootLine (p : Page) (shown : Nat) : Page :=
  let pause := bootPause p.chance.value (shown + 1 = bootLines.length)
  { p with stage := .booting (shown + 1) (p.now + pause), chance := p.chance.advance }

/-- Takes the boot screen away. Windows that were open when the visit began are there again. -/
def enterDesktop (p : Page) : Page :=
  let p := { p with stage := .desktop p.now }
  if p.windows.openWindows.isEmpty then
    p.use ({ p.session with windows := p.windows.afterBoot }, [])
  else p

def clockPeriod : Nat := 1000

/-- When the stage next changes by itself. -/
def Stage.due? : Stage → Option Nat
  | .nowhere => none
  | .booting _ due => some due
  | .desktop clock => some (clock + clockPeriod)

/-- What the boot screen and the clock do when their time has come. -/
def advanceStage (p : Page) : Page :=
  match p.stage with
  | .nowhere => p
  | .booting shown _ => if shown < bootLines.length then p.bootLine shown else p.enterDesktop
  | .desktop _ => { p with stage := .desktop p.now }

def advanceRain (p : Page) (rain : Rain) : Page :=
  let (strokes, rain, chance) := rain.frame p.surroundings.width p.surroundings.height p.chance
  { p with
    rain := some rain
    chance := chance
    report := { p.report with strokes := p.report.strokes ++ strokes } }

/-- One millisecond. -/
def tick (p : Page) : Page :=
  let p := { p with now := p.now + 1 }
  let p := if p.stage.due?.any (· ≤ p.now) then settle p p.advanceStage else p
  match p.rain with
  | some rain => if rain.due ≤ p.now then p.advanceRain rain else p
  | none => p

def wait (p : Page) (ms : Nat) : Page := Nat.repeat tick ms p

/-- Waiting twice is waiting once for as long as both. -/
theorem wait_add (p : Page) (m n : Nat) : p.wait (m + n) = (p.wait m).wait n := by
  induction n with
  | zero => rfl
  | succ n ih => exact congrArg tick ih

/-- The page at the start of a visit. It takes over what was saved, and saves it again. -/
def start (s : Surroundings) (storage : Storage) (chance : Chance) : Page :=
  let (windows, notices) := Manager.start storage
  let page (windows : Manager) : Page :=
    { surroundings := s, chance, storage, session := .start .builtIn windows
      report := { events := if s.logTaken then [.logTaken] else [] } }
  if s.rooted then ({ (page windows).notify notices with unsaved := true }.bootLine 0).save
  else (page .fresh).notify [.noRootElement]

end Page

end PocketDesk
