import PocketDesk.Text.Split
import PocketDesk.Tree.Location

/-! Path expressions. An expression that begins with a slash starts at the root, any
other at the current location; then its names are followed one by one. Empty names and
`.` say nothing, and `..` goes up and stays at the root when it is there. -/

namespace PocketDesk.Path

def isAbsolute (expression : String) : Bool :=
  match expression.toList with
  | '/' :: _ => true
  | _ => false

/-- The names between the slashes that say something. -/
def steps (expression : String) : List String :=
  ((Text.fields (· == '/') expression.toList).map String.ofList).filter
    fun name => name ≠ "" && name ≠ "."

def step (l : Location) (name : String) : Location :=
  if name = ".." then l.parent else l.push name

/-- The location an expression names, whether or not the tree has it. -/
def normalize (current : Location) (expression : String) : Location :=
  (steps expression).foldl step (if isAbsolute expression then .root else current)

end PocketDesk.Path
