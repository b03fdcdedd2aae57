import PocketDesk.Terminal.Line

/-! The log of a terminal. It holds at most `capacity` lines; a further one pushes out the
oldest. Every line has a number, counted from the start of the session, that no other
line ever gets. -/

namespace PocketDesk

structure Log where
  capacity : Nat
  /-- The lines that are there, oldest first. -/
  lines : List Line
  /-- How many lines came before those and are gone. -/
  gone : Nat
  capacity_pos : 0 < capacity
  length_le : lines.length ≤ capacity

namespace Log

/-- A capacity of zero counts as one. -/
def empty (capacity : Nat) : Log where
  capacity := max capacity 1
  lines := []
  gone := 0
  capacity_pos := by omega
  length_le := by simp

def size (l : Log) : Nat := l.lines.length

def isEmpty (l : Log) : Bool := l.lines.isEmpty

def last? (l : Log) : Option Line := l.lines.getLast?

def next (l : Log) : Nat := l.gone + l.lines.length

def push (l : Log) (line : Line) : Log :=
  if h : l.lines.length = l.capacity then
    { l with
      lines := l.lines.tail ++ [line]
      gone := l.gone + 1
      length_le := by
        have := l.capacity_pos
        simp
        omega }
  else
    { l with
      lines := l.lines ++ [line]
      length_le := by
        have := l.length_le
        simp
        omega }

def extend (l : Log) (lines : List Line) : Log := lines.foldl push l

/-- The numbers go on after the lines that are cleared. -/
def clear (l : Log) : Log := { l with lines := [], gone := l.next, length_le := by simp }

def numbered (l : Log) : List (Nat × Line) := (List.range' l.gone l.lines.length).zip l.lines

def lastNumber? (l : Log) : Option Nat := l.numbered.getLast?.map Prod.fst

/-- The lines behind the one with the number `n`. When that one is gone, or none is given, all
lines are. -/
def behind (l : Log) : Option Nat → List Line
  | none => l.lines
  | some n =>
    match l.numbered.findIdx? fun entry => entry.1 = n with
    | some i => l.lines.drop (i + 1)
    | none => l.lines

/-- The lines whose numbers are at least `n`. -/
def since (l : Log) (n : Nat) : List Line := l.lines.drop (n - l.gone)

theorem capacity_push (l : Log) (line : Line) : (l.push line).capacity = l.capacity := by
  unfold push
  split <;> rfl

theorem next_push (l : Log) (line : Line) : (l.push line).next = l.next + 1 := by
  have := l.capacity_pos
  unfold push
  split
  · simp only [next, List.length_append, List.length_tail, List.length_singleton]
    omega
  · simp only [next, List.length_append, List.length_singleton]
    omega

theorem next_clear (l : Log) : l.clear.next = l.next := by simp [clear, next]

/-- A pushed line is the last one, whatever had to go. -/
theorem last?_push (l : Log) (line : Line) : (l.push line).last? = some line := by
  unfold push
  split <;> simp [last?]

end Log

end PocketDesk
