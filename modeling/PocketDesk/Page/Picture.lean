import PocketDesk.Page.View

/-! What is seen of a page: its elements without their handlers, and with the properties
that a visitor has set on them. A property that an element sets by itself is shown as the
element has it. -/

namespace PocketDesk.Page

inductive Picture where
  | text (text : String)
  | markup (markup : String)
  | icon (icon : Icon)
  | element (tag : String) (attributes : List Attribute) (children : List Picture)

namespace Picture

mutual
def same : Picture → Picture → Bool
  | .text s, .text t => s = t
  | .markup s, .markup t => s = t
  | .icon i, .icon j => i = j
  | .element t as cs, .element u bs ds => t = u && as = bs && sameList cs ds
  | _, _ => false

def sameList : List Picture → List Picture → Bool
  | [], [] => true
  | c :: cs, d :: ds => c.same d && sameList cs ds
  | _, _ => false
end

mutual
theorem same_iff (a b : Picture) : a.same b = true ↔ a = b := by
  cases a <;> cases b <;> simp [same, sameList_iff, and_assoc]

theorem sameList_iff (as bs : List Picture) : sameList as bs = true ↔ as = bs := by
  cases as with
  | nil => cases bs <;> simp [sameList]
  | cons a as =>
    cases bs with
    | nil => simp [sameList]
    | cons b bs => simp [sameList, same_iff a b, sameList_iff as bs]
end

instance : DecidableEq Picture := fun a b => decidable_of_iff _ (same_iff a b)

end Picture

/-- The properties of an element that a visitor has set. -/
structure Touch where
  value : Option String := none
  checked : Option Bool := none
  deriving DecidableEq, Repr

/-- The elements that a visitor has set properties of, by their paths. -/
abbrev Touches := List (Path × Touch)

namespace Touches

def get (t : Touches) (path : Path) : Touch := (t.lookup path).getD {}

def update (t : Touches) (path : Path) (f : Touch → Touch) : Touches :=
  (path, f (t.get path)) :: t.filter (·.1 ≠ path)

/-- What was set on elements that are still there. -/
def within (t : Touches) (root : View) : Touches := t.filter fun e => (root.at? e.1).isSome

end Touches

def Touch.attributes (t : Touch) : List Attribute :=
  (t.value.toList.map fun s => ⟨"value", .text s⟩) ++
    t.checked.toList.map fun on => ⟨"checked", .flag on⟩

namespace Head

/-- The classes as one attribute, if there are any. -/
def classAttribute (h : Head) : List Attribute :=
  if h.classes.isEmpty then [] else [⟨"class", .text (String.intercalate " " h.classes)⟩]

/-- All that is seen of an element's own part. -/
def shown (h : Head) (touch : Touch) : List Attribute :=
  h.classAttribute ++ h.attributes ++
    touch.attributes.filter fun a => (h.attribute? a.name).isNone

end Head

namespace View

mutual
/-- What is seen of a view at a path, if anything. An empty text is not seen. -/
def picture (touches : Touches) (path : Path) : View → Option Picture
  | .text s => if s.isEmpty then none else some (.text s)
  | .markup s => some (.markup s)
  | .icon i => some (.icon i)
  | .element head children =>
    some (.element head.tag (head.shown (touches.get path)) (picturesFrom touches path 0 children))

/-- What is seen of the children from a position on. -/
def picturesFrom (touches : Touches) (path : Path) (position : Nat) : List View → List Picture
  | [] => []
  | v :: rest =>
    (v.picture touches (v.step position :: path)).toList ++
      picturesFrom touches path (position + 1) rest
end

end View

end PocketDesk.Page
