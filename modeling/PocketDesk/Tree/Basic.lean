import PocketDesk.Tree.Listing
import PocketDesk.Tree.Path

/-! The tree as a whole, which is only ever read: looking up a location, and resolving
a path expression against the current one. -/

namespace PocketDesk

structure Tree where
  root : Directory

/-- Nothing is at the location an expression names. The expression is kept as typed. -/
structure NotFound where
  expression : String
  deriving DecidableEq, Repr

def NotFound.message (e : NotFound) : String := e.expression ++ ": No such file or directory"

/-- The node that a list of names leads to, through directories only. -/
def Node.descend? : Node → List String → Option Node
  | n, [] => some n
  | .directory members, name :: names =>
    match Directory.get? ⟨members⟩ name with
    | some n => n.descend? names
    | none => none
  | _, _ :: _ => none

namespace Tree

def empty : Tree := ⟨.empty⟩

def rootNode (t : Tree) : Node := .directory t.root.members

def get? (t : Tree) (l : Location) : Option Node := t.rootNode.descend? l.below

/-- The node an expression names, with its location. -/
def resolve (t : Tree) (current : Location) (expression : String) :
    Except NotFound (Node × Location) :=
  let l := Path.normalize current expression
  match t.get? l with
  | some n => .ok (n, l)
  | none => .error ⟨expression⟩

def directory? (t : Tree) (l : Location) : Option Directory :=
  (t.get? l).bind Node.asDirectory?

def list? (t : Tree) (l : Location) : Option (List ListEntry) :=
  (t.directory? l).map Directory.listing

def isDirectory (t : Tree) (l : Location) : Bool := (t.directory? l).isSome

theorem get?_root (t : Tree) : t.get? .root = some t.rootNode := by
  simp [get?, Location.root, Node.descend?]

end Tree

end PocketDesk
