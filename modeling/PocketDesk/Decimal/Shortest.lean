/-! The shortest decimal that reads back as a given double. A double is a whole
number times a power of two, and the reals that round to it form an interval around
it. The grids of one, two, … seventeen digits are tried in turn, all in whole numbers:
if any point of a grid lies in the interval, one of the value's two neighbours on the
grid does. The nearer of the two wins, and of two equally near ones the even one. -/

namespace PocketDesk.Decimal

/-- A whole number of powers of two, `mantissa * 2 ^ exponent`. -/
structure Binary where
  mantissa : Nat
  exponent : Int

/-- A decimal, `digits * 10 ^ exponent`. -/
structure Digits where
  digits : Nat
  exponent : Int
  deriving DecidableEq, Repr

/-- The magnitude of a finite double, from its 64 bits. -/
def Binary.ofBits (bits : UInt64) : Binary :=
  let fraction := bits.toNat % Nat.pow 2 52
  let power : Nat := bits.toNat / Nat.pow 2 52 % Nat.pow 2 11
  if power = 0 then ⟨fraction, -1074⟩ else ⟨Nat.pow 2 52 + fraction, (power : Int) - 1075⟩

/-- The exponent of the leading decimal digit of `num / den`, both positive. -/
def leadingExponent (num den : Nat) : Int :=
  if den ≤ num then (Nat.toDigits 10 (num / den)).length - 1
  else -((Nat.toDigits 10 ((den - 1) / num)).length : Int)

/-- `x * base ^ e` as a fraction. -/
def scaled (x base : Nat) (e : Int) : Nat × Nat :=
  if 0 ≤ e then (x * base.pow e.toNat, 1) else (x, base.pow (-e).toNat)

/-- Four times a double and the ends of its rounding interval, over one denominator. The
lower end is nearer where the doubles below stand closer together. -/
structure Interval where
  low : Nat
  mid : Nat
  high : Nat
  den : Nat
  closed : Bool

def Binary.interval (b : Binary) : Interval :=
  let narrow := b.mantissa = Nat.pow 2 52 ∧ -1074 < b.exponent
  let (f, den) := scaled 1 2 (b.exponent - 2)
  { low := (4 * b.mantissa - (if narrow then 1 else 2)) * f
    mid := 4 * b.mantissa * f
    high := (4 * b.mantissa + 2) * f
    den := den
    closed := b.mantissa % 2 == 0 }

/-- Does `k` units of `unitNum / unitDen` lie in the interval? -/
def Interval.holds (i : Interval) (k unitNum unitDen : Nat) : Bool :=
  let x := k * unitNum * i.den
  if i.closed then i.low * unitDen ≤ x && x ≤ i.high * unitDen
  else i.low * unitDen < x && x < i.high * unitDen

/-- The grid whose unit is `10 ^ e`: the nearer of the two neighbours that are in the interval, if
any is. -/
def Interval.onGrid (i : Interval) (e : Int) : Option Digits :=
  let (unitNum, unitDen) := scaled 1 10 e
  let k := i.mid * unitDen / (i.den * unitNum)
  let below := i.holds k unitNum unitDen
  let above := i.holds (k + 1) unitNum unitDen
  let rest := i.mid * unitDen - k * unitNum * i.den
  let down := 2 * rest < unitNum * i.den || (2 * rest == unitNum * i.den && k % 2 == 0)
  if below && (!above || down) then some ⟨k, e⟩
  else if above then some ⟨k + 1, e⟩
  else none

/-- Without zeros at the end; at most `fuel` of them are taken off. -/
def Digits.trimmed : Nat → Digits → Digits
  | 0, d => d
  | fuel + 1, d =>
    if d.digits % 10 = 0 ∧ d.digits ≠ 0 then Digits.trimmed fuel ⟨d.digits / 10, d.exponent + 1⟩
    else d

def Binary.shortest (b : Binary) : Digits :=
  if b.mantissa = 0 then ⟨0, 0⟩
  else
    let i := b.interval
    let lead := leadingExponent i.mid i.den
    let found := (List.range 17).findSome? fun (n : Nat) => i.onGrid (lead - n)
    Digits.trimmed 20 (found.getD ⟨0, 0⟩)

def shortest (x : Float) : Digits := (Binary.ofBits x.toBits).shortest

def isNegative (x : Float) : Bool := Nat.pow 2 63 ≤ x.toBits.toNat

end PocketDesk.Decimal
