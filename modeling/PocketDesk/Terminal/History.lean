/-! The lines that were entered, with a cursor to walk through them. The cursor stands at
an entry or, where every new entry leaves it, behind the newest. -/

namespace PocketDesk

structure History where
  /-- Oldest first. -/
  entries : List String
  cursor : Nat
  cursor_le : cursor ≤ entries.length := by simp

namespace History

def empty : History := ⟨[], 0, by simp⟩

def size (h : History) : Nat := h.entries.length

def isEmpty (h : History) : Bool := h.entries.isEmpty

/-- The cursor put behind the newest entry. -/
def park (h : History) : History := ⟨h.entries, h.entries.length, by simp⟩

def push (h : History) (line : String) : History :=
  ⟨h.entries ++ [line], (h.entries ++ [line]).length, by simp⟩

/-- One entry back, if there is an older one. -/
def previous (h : History) : Option String × History :=
  if h.cursor = 0 then (none, h)
  else
    (h.entries[h.cursor - 1]?,
      ⟨h.entries, h.cursor - 1, by have := h.cursor_le; omega⟩)

/-- One entry forward; from the newest it goes behind it and gives nothing. -/
def next (h : History) : Option String × History :=
  if hc : h.cursor + 1 < h.entries.length then
    (h.entries[h.cursor + 1]?, ⟨h.entries, h.cursor + 1, by omega⟩)
  else (none, h.park)

end History

end PocketDesk
