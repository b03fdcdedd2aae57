/-! Random numbers, as a list that was drawn beforehand. After its end it starts again;
without any number every draw gives a half. -/

namespace PocketDesk.Page

structure Chance where
  /-- The numbers, from zero up to but without one. -/
  values : List Float
  /-- How many were drawn. -/
  drawn : Nat

namespace Chance

def ofList (values : List Float) : Chance := ⟨values, 0⟩

def value (c : Chance) : Float := c.values.getD (c.drawn % c.values.length) 0.5

def advance (c : Chance) : Chance := { c with drawn := c.drawn + 1 }

end Chance

end PocketDesk.Page
