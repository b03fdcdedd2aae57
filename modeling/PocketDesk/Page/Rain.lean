import PocketDesk.Page.Chance

/-! The rain of glyphs behind the windows. Every column has one drop, which falls by one
row a frame. Past the bottom a drop may start again at the top. What was drawn before
fades under a thin veil of black. -/

namespace PocketDesk.Page

inductive Stroke where
  | fillStyle (style : String)
  | font (font : String)
  /-- Fills everything. -/
  | fillAll (width height : Float)
  | glyph (glyph : Char) (x y : Nat)

structure Rain where
  /-- The rows of the drops, column by column. -/
  drops : List Nat
  /-- When the next frame is drawn. -/
  due : Nat

namespace Rain

/-- The height of a row and the width of a column. -/
def cell : Nat := 14

def period : Nat := 33

/-- How likely a drop past the bottom starts again in a frame. -/
def restartChance : Float := 0.025

def glyphs : List Char := "ABCDEFGHIJKLMNOPQRSTUVWXYZ123456789@#$%^&*()*&^%".toList

/-- As many drops as columns fit, all in the same row. -/
def start (width : Float) (now : Nat) : Rain where
  drops := List.replicate (width / cell.toFloat).toUInt64.toNat 1
  due := now + period

def glyphAt (value : Float) : Char :=
  glyphs.getD (min (value * glyphs.length.toFloat).toUInt64.toNat (glyphs.length - 1)) 'A'

/-- The row of a drop in the next frame. A number is only drawn for one past the bottom. -/
def fall (height : Float) (row : Nat) (c : Chance) : Nat × Chance :=
  if height < (row * cell).toFloat then
    (if c.value < restartChance then 1 else row + 1, c.advance)
  else (row + 1, c)

/-- The drops from a column on: their glyphs, and their rows in the next frame. -/
def fallFrom (height : Float) (column : Nat) : List Nat → Chance → List Stroke × List Nat × Chance
  | [], c => ([], [], c)
  | row :: rest, c =>
    let stroke := Stroke.glyph (glyphAt c.value) (column * cell) (row * cell)
    let (row, c) := fall height row c.advance
    let (strokes, rows, c) := fallFrom height (column + 1) rest c
    (stroke :: strokes, row :: rows, c)

/-- The veil over what was drawn before, and the pen for the glyphs. -/
def veil (width height : Float) : List Stroke :=
  [ .fillStyle "rgba(0, 0, 0, 0.05)"
  , .fillAll width height
  , .fillStyle "#0F0"
  , .font (toString cell ++ "px monospace") ]

def frame (width height : Float) (r : Rain) (c : Chance) : List Stroke × Rain × Chance :=
  let (strokes, drops, c) := fallFrom height 0 r.drops c
  (veil width height ++ strokes, ⟨drops, r.due + period⟩, c)

end Rain

end PocketDesk.Page
