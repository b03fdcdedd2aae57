/-! Locations in the tree: the names on the way from the root. The root itself is not
among the names, so it cannot be left upwards. Any name can be put behind them, the root's
own included; but no tree that was built from a manifest has an entry of that name. -/

namespace PocketDesk

def rootName : String := "root"

structure Location where
  /-- The names below the root, outermost first. -/
  below : List String
  deriving DecidableEq, Repr

namespace Location

def root : Location := ⟨[]⟩

/-- All names, the root's first. -/
def segments (l : Location) : List String := rootName :: l.below

def isRoot (l : Location) : Bool := l.below.isEmpty

def depth (l : Location) : Nat := l.below.length

def push (l : Location) (name : String) : Location := ⟨l.below ++ [name]⟩

/-- The last name, if this is not the root. -/
def last? (l : Location) : Option String := l.below.getLast?

/-- One name less; the root stays the root. -/
def parent (l : Location) : Location := ⟨l.below.dropLast⟩

/-- The form in the prompt: `~` for the root, `~/a/b` below it. -/
def display (l : Location) : String := String.intercalate "/" ("~" :: l.below)

theorem parent_push (l : Location) (name : String) : (l.push name).parent = l := by
  simp [push, parent]

theorem parent_root : root.parent = root := rfl

theorem depth_push (l : Location) (name : String) : (l.push name).depth = l.depth + 1 := by
  simp [push, depth]

end Location

end PocketDesk
