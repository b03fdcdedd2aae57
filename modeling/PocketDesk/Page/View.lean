import PocketDesk.Desktop.Icon
import PocketDesk.Page.Deed

/-! The page as a tree of elements. An element is found by its path, the steps that lead
to it from the root of the page. A step goes to the n-th child, or to a child by its key;
a key keeps an element apart from another one that takes its place among the children. -/

namespace PocketDesk.Page

inductive AttributeValue where
  | text (text : String)
  | flag (on : Bool)
  | number (n : Nat)
  deriving DecidableEq, Repr

structure Attribute where
  name : String
  value : AttributeValue
  deriving DecidableEq, Repr

inductive Step where
  | nth (n : Nat)
  | keyed (key : String)
  deriving DecidableEq, Repr

/-- The steps to an element from the root, the last one first. What stands above the element is
then what is left when steps are taken away at the front. -/
abbrev Path := List Step

/-- An element without its children. -/
structure Head where
  tag : String
  classes : List String := []
  attributes : List Attribute := []
  handlers : List Handler := []
  key : Option String := none
  deriving DecidableEq, Repr

namespace Head

/-- The deeds of the handlers for a kind of gesture. -/
def deeds (h : Head) (trigger : Trigger) : List Deed :=
  (h.handlers.filter (·.trigger = trigger)).flatMap Handler.deeds

def attribute? (h : Head) (name : String) : Option AttributeValue :=
  (h.attributes.find? (·.name = name)).map Attribute.value

end Head

inductive View where
  | text (text : String)
  /-- A markup text that is shown as markup. -/
  | markup (markup : String)
  | icon (icon : Icon)
  | element (head : Head) (children : List View)

namespace View

def el (tag : String) (classes : List String) (children : List View) : View :=
  .element { tag, classes } children

def mapHead (f : Head → Head) : View → View
  | .element head children => .element (f head) children
  | v => v

def withAttribute (v : View) (name : String) (value : AttributeValue) : View :=
  v.mapHead fun h => { h with attributes := h.attributes ++ [⟨name, value⟩] }

def withTexts (v : View) (texts : List (String × String)) : View :=
  v.mapHead fun h =>
    { h with attributes := h.attributes ++ texts.map fun (name, s) => ⟨name, .text s⟩ }

def withKey (v : View) (key : String) : View := v.mapHead ({ · with key := key })

def on (v : View) (trigger : Trigger) (deeds : List Deed) : View :=
  v.mapHead fun h => { h with handlers := h.handlers ++ [⟨trigger, deeds⟩] }

/-- The element's own part; that of a picture is its tag alone. -/
def head? : View → Option Head
  | .text _ | .markup _ => none
  | .icon _ => some { tag := "svg" }
  | .element head _ => some head

/-- The step to the child at a position. -/
def step (position : Nat) : View → Step
  | .element { key := some key, .. } _ => .keyed key
  | _ => .nth position

def children : View → List View
  | .element _ children => children
  | _ => []

/-- The child that a step goes to. -/
def child? (v : View) (s : Step) : Option View :=
  (v.children.zipIdx.find? fun (c, position) => c.step position = s).map Prod.fst

def at? (root : View) : Path → Option View
  | [] => some root
  | s :: above => (root.at? above).bind (·.child? s)

mutual
/-- The text in a view. Markup and pictures count as none. -/
def textContent : View → String
  | .text s => s
  | .markup _ => ""
  | .icon _ => ""
  | .element _ children => textContents children

def textContents : List View → String
  | [] => ""
  | v :: rest => v.textContent ++ textContents rest
end

/-- An element as one meets it in the page. -/
structure Place where
  path : Path
  head : Head
  /-- All the text in it. -/
  text : String

mutual
/-- The elements of a view in the order of the document, the view itself being at `path`. -/
def places (path : Path) : View → List Place
  | .text _ => []
  | .markup _ => []
  | .icon _ => [⟨path, { tag := "svg" }, ""⟩]
  | .element head children => ⟨path, head, textContents children⟩ :: placesFrom path 0 children

/-- The elements of the children from a position on. -/
def placesFrom (path : Path) (position : Nat) : List View → List Place
  | [] => []
  | v :: rest => v.places (v.step position :: path) ++ placesFrom path (position + 1) rest
end

end View

end PocketDesk.Page
