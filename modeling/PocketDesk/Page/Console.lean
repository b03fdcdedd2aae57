import PocketDesk.Terminal.Shell

/-! A terminal session together with the input field in which its lines are typed. Under
the field stand suggestions, where completing what was typed found more than one
candidate. Anything done afterwards takes them away. -/

namespace PocketDesk.Page

structure InputField where
  buffer : String := ""
  suggestions : List String := []
  deriving DecidableEq, Repr

inductive Key where
  | tab
  | enter
  | up
  | down
  /-- Clears the log and leaves what is being typed. -/
  | clearLog
  /-- Drops what is being typed. -/
  | abandon
  | other
  deriving DecidableEq, Repr

namespace Key

/-- The key with this name, the control key being held or not. -/
def ofName (name : String) (control : Bool) : Key :=
  match name, control with
  | "Tab", _ => .tab
  | "Enter", _ => .enter
  | "ArrowUp", _ => .up
  | "ArrowDown", _ => .down
  | "l", true => .clearLog
  | "c", true => .abandon
  | _, _ => .other

/-- Whether the key is kept from doing in the browser what it usually does. -/
def isTaken : Key → Bool
  | .tab | .up | .down | .clearLog => true
  | _ => false

def submits : Key → Bool
  | .enter | .clearLog => true
  | _ => false

end Key

structure Console where
  shell : Shell
  field : InputField

namespace Console

def mount (shell : Shell) : Console := ⟨shell, {}⟩

def type (c : Console) (text : String) : Console := { c with field := ⟨text, []⟩ }

def completed (c : Console) : InputField :=
  match c.shell.complete c.field.buffer with
  | .nothing => ⟨c.field.buffer, []⟩
  | .single buffer => ⟨buffer, []⟩
  | .multiple candidates => ⟨c.field.buffer, candidates⟩

/-- What a key does, the desktop around being a host. -/
def press {H : Type} [WindowHost H] (c : Console) (key : Key) (host : H) : Console × H :=
  match key with
  | .tab => ({ c with field := c.completed }, host)
  | .enter =>
    let (shell, host) := c.shell.submit c.field.buffer host
    (⟨shell, {}⟩, host)
  | .up =>
    let (entry, shell) := c.shell.previous
    (⟨shell, ⟨entry.getD c.field.buffer, []⟩⟩, host)
  | .down =>
    let (entry, shell) := c.shell.next
    (⟨shell, ⟨entry.getD "", []⟩⟩, host)
  | .clearLog =>
    let (shell, host) := c.shell.submit "clear" host
    (⟨shell, ⟨c.field.buffer, []⟩⟩, host)
  | .abandon => ({ c with field := {} }, host)
  | .other => (c, host)

/-- Whether a key puts another text where the cursor then has to go to the end. -/
def movesCursor (c : Console) : Key → Bool
  | .tab =>
    match c.shell.complete c.field.buffer with
    | .single _ => true
    | _ => false
  | .up => c.shell.previous.1.isSome
  | _ => false

/-- Where a key puts the cursor, if anywhere. It goes to the end of the text before, counted in
bytes, as the new text is not in the element yet. -/
def cursor? (c : Console) (key : Key) : Option Nat :=
  if c.movesCursor key then some c.field.buffer.utf8ByteSize else none

end Console

end PocketDesk.Page
