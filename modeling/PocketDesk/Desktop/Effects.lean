/-! Screen effects by name. Any name may be switched; an effect is off until it is. -/

namespace PocketDesk

structure Effects where
  /-- The effects that are on, each once. -/
  active : List String
  deriving DecidableEq, Repr

namespace Effects

def empty : Effects := ⟨[]⟩

def isActive (e : Effects) (name : String) : Bool := e.active.contains name

def set (e : Effects) (name : String) (on : Bool) : Effects :=
  if e.isActive name = on then e
  else if on then ⟨name :: e.active⟩
  else ⟨e.active.filter (· ≠ name)⟩

def toggle (e : Effects) (name : String) : Effects := e.set name !e.isActive name

theorem isActive_empty (name : String) : empty.isActive name = false := rfl

theorem isActive_set_self (e : Effects) (name : String) (on : Bool) :
    (e.set name on).isActive name = on := by
  unfold set
  split
  · assumption
  · cases on <;> simp [isActive]

theorem isActive_set_of_ne (e : Effects) {name other : String} (on : Bool) (h : other ≠ name) :
    (e.set name on).isActive other = e.isActive other := by
  unfold set
  split
  · rfl
  · cases on <;> simp [isActive, h]

theorem isActive_toggle_self (e : Effects) (name : String) :
    (e.toggle name).isActive name = !e.isActive name := isActive_set_self ..

end Effects

/-- The effect that the terminal and the settings can switch. -/
def matrixEffect : String := "matrix"

end PocketDesk
