import PocketDesk.Decimal.Shortest

/-! How a finite double is written. The shortest digits stand positionally, with at
least one digit on each side of the point, when the leading digit's exponent is
between -5 and 15; otherwise one digit stands before the point, and the exponent
follows with its sign. -/

namespace PocketDesk.Decimal

def digitText (n : Nat) : String := String.ofList (Nat.toDigits 10 n)

/-- The positional form of `digits * 10 ^ exponent`. -/
def Digits.positional (d : Digits) : String :=
  if 0 ≤ d.exponent then digitText (d.digits * Nat.pow 10 d.exponent.toNat) ++ ".0"
  else
    let places := (-d.exponent).toNat
    let unit := Nat.pow 10 places
    let tail := Nat.toDigits 10 (d.digits % unit)
    digitText (d.digits / unit) ++ "." ++
      String.ofList (List.replicate (places - tail.length) '0' ++ tail)

def Digits.scientific (d : Digits) : String :=
  let ds := Nat.toDigits 10 d.digits
  let e := d.exponent + (ds.length - 1 : Nat)
  let mantissa :=
    match ds with
    | [] => ""
    | [c] => String.singleton c
    | c :: r => String.ofList (c :: '.' :: r)
  mantissa ++ (if e < 0 then "e-" else "e+") ++ digitText e.natAbs

def Digits.text (d : Digits) : String :=
  let e := d.exponent + ((Nat.toDigits 10 d.digits).length - 1 : Nat)
  if -5 ≤ e ∧ e ≤ 15 then d.positional else d.scientific

/-- A finite double, with its sign also on a zero. -/
def floatText (x : Float) : String :=
  (if isNegative x then "-" else "") ++ (shortest x).text

end PocketDesk.Decimal
