import PocketDesk.Desktop.WindowId

/-! What a tree consists of: directories, files, shortcuts to windows and executables.
A directory keeps its members in the order in which they came, under distinct names. -/

namespace PocketDesk

/-- What kind of file it is decides how it is opened. -/
inductive FileKind where
  /-- A document for the document viewer. -/
  | pdf
  /-- A picture for the picture viewer. -/
  | image
  /-- A text that is printed in the terminal. -/
  | text
  /-- Anything else, by its own name. -/
  | other (name : String)
  deriving DecidableEq, Repr

def FileKind.ofName (name : String) : FileKind :=
  match name with
  | "pdf" => .pdf
  | "img" => .image
  | "text" => .text
  | name => .other name

def FileKind.name : FileKind → String
  | .pdf => "pdf"
  | .image => "img"
  | .text => "text"
  | .other name => name

/-- A kind made from a name has that name. -/
theorem FileKind.name_ofName (name : String) : (FileKind.ofName name).name = name := by
  unfold FileKind.ofName
  split <;> rfl

/-- What an executable does. -/
inductive Action where
  | openWindow (window : WindowId)
  | toggleWindow (window : WindowId)
  | toggleEffect (effect : String)
  deriving DecidableEq, Repr

namespace Action

def ofVerb? (verb target : String) : Option Action :=
  match verb with
  | "open" => some (.openWindow ⟨target⟩)
  | "toggle" => some (.toggleWindow ⟨target⟩)
  | "effect" => some (.toggleEffect target)
  | _ => none

/-- Reads `open:x`, `toggle:x` and `effect:x`, where `x` is not empty. -/
def parse? (spec : String) : Option Action :=
  let verb := spec.toList.takeWhile (· ≠ ':')
  match spec.toList.drop verb.length with
  | _ :: c :: target => ofVerb? (String.ofList verb) (String.ofList (c :: target))
  | _ => none

def text : Action → String
  | .openWindow w => "open:" ++ w.name
  | .toggleWindow w => "toggle:" ++ w.name
  | .toggleEffect e => "effect:" ++ e

end Action

/-- A directory's members, with their names, stand in the node itself. -/
inductive Node where
  | directory (members : List (String × Node))
  /-- The content is the text itself, or for other kinds the asset to show. -/
  | file (kind : FileKind) (content : String)
  | shortcut (window : WindowId)
  | executable (action : Action)

structure Directory where
  members : List (String × Node)

namespace Directory

def empty : Directory := ⟨[]⟩

def names (d : Directory) : List String := d.members.map Prod.fst

def size (d : Directory) : Nat := d.members.length

def isEmpty (d : Directory) : Bool := d.members.isEmpty

def get? (d : Directory) (name : String) : Option Node := d.members.lookup name

/-- Adds a member at the end. When the name is taken, the node comes back. -/
def insert (d : Directory) (name : String) (node : Node) : Except Node Directory :=
  match d.get? name with
  | some _ => .error node
  | none => .ok ⟨d.members ++ [(name, node)]⟩

theorem get?_eq_none_iff {d : Directory} {name : String} : d.get? name = none ↔ name ∉ d.names := by
  simp only [get?, names, List.lookup_eq_none_iff, List.mem_map, Prod.exists, exists_and_right,
    exists_eq_right, not_exists]
  constructor
  · intro h node hm
    simpa using h (name, node) hm
  · rintro h ⟨n, node⟩ hm
    by_cases hn : name = n
    · exact absurd (hn ▸ hm) (h node)
    · simpa using hn

end Directory

namespace Node

def asDirectory? : Node → Option Directory
  | .directory members => some ⟨members⟩
  | _ => none

def isDirectory (n : Node) : Bool := n.asDirectory?.isSome

/-- The kind's name as manifests write it. -/
def label : Node → String
  | .directory _ => "directory"
  | .file kind _ => kind.name
  | .shortcut _ => "shortcut"
  | .executable _ => "exec"

end Node

end PocketDesk
