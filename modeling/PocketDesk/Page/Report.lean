import PocketDesk.Desktop.Notice
import PocketDesk.Page.Deed
import PocketDesk.Page.Rain

/-! What a page does to the world around it: what it plays, where it puts the focus and
the cursor, what it draws, and what it reports. -/

namespace PocketDesk.Page

inductive Event where
  /-- Somebody else keeps the notices already. -/
  | logTaken
  | played (sound : Sound)
  /-- The focus went to the element with this name. -/
  | focused (id : String)
  /-- The cursor was put behind as many bytes. -/
  | cursorPut (position : Nat)
  deriving DecidableEq, Repr

def Event.line : Event → String
  | .logTaken => "console.warn logger already initialized"
  | .played s => "play " ++ s.asset ++ " " ++ s.volume
  | .focused id => "focus " ++ id
  | .cursorPut n => "select " ++ toString n ++ "-" ++ toString n

/-- What has been done since the report was begun, in order. -/
structure Report where
  events : List Event := []
  notices : List Notice := []
  strokes : Array Stroke := #[]
  /-- A key was kept from doing in the browser what it usually does. -/
  keyTaken : Bool := false

end PocketDesk.Page
