import PocketDesk.Tree.Node

/-! How the members of a directory are listed: every name in the style of its node. -/

namespace PocketDesk

inductive EntryStyle where
  | directory
  | shortcut
  | executable
  | pdf
  | image
  | file
  deriving DecidableEq, Repr

/-- What a listing puts behind the name. -/
def EntryStyle.marker : EntryStyle → String
  | .directory => "/"
  | .shortcut => "*"
  | _ => ""

def Node.style : Node → EntryStyle
  | .directory _ => .directory
  | .shortcut _ => .shortcut
  | .executable _ => .executable
  | .file .pdf _ => .pdf
  | .file .image _ => .image
  | .file _ _ => .file

structure ListEntry where
  name : String
  style : EntryStyle
  deriving DecidableEq, Repr

def ListEntry.displayName (e : ListEntry) : String := e.name ++ e.style.marker

def Directory.listing (d : Directory) : List ListEntry :=
  d.members.map fun m => ⟨m.1, m.2.style⟩

theorem Directory.map_name_listing (d : Directory) : d.listing.map ListEntry.name = d.names := by
  simp [listing, names, Function.comp_def]

end PocketDesk
