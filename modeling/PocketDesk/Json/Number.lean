import PocketDesk.Json.Leaf

/-! Numbers in a JSON text. A whole number of at most 64 bits stays whole; minus zero,
a larger number, a fraction or an exponent makes a double. The double is computed from
as many digits as fit into 64 bits, scaled once by a power of ten. -/

namespace PocketDesk.Json

inductive Number where
  | integer (value : Int)
  | floating (value : Float)

def Number.found : Number → Found
  | .integer n => .integer n
  | .floating x => .floating x

def isDigit (c : Char) : Bool := '0' ≤ c && c ≤ '9'

def digitValue (c : Char) : Nat := c.toNat - '0'.toNat

/-- Digits appended to `n` as long as the value fits into 64 bits: the value, how many were
taken, and the rest. -/
def takeDigits (n : Nat) : List Char → Nat × Nat × List Char
  | [] => (n, 0, [])
  | c :: r =>
    if isDigit c ∧ n * 10 + digitValue c < UInt64.size then
      let (m, k, s) := takeDigits (n * 10 + digitValue c) r
      (m, k + 1, s)
    else (n, 0, c :: r)

/-- `x * 10 ^ exponent` for a double `x`. Powers of ten beyond 308 are applied in steps, and
`fuel` bounds the steps; a result too large for a double is refused. -/
def scaleTen : Nat → Float → Int → Except Fault Float
  | 0, x, _ => .ok x
  | fuel + 1, x, exponent =>
    if exponent.natAbs ≤ 308 then
      let power := Float.ofScientific 1 false exponent.natAbs
      if 0 ≤ exponent then
        let y := x * power
        if y.isInf then .error .malformed else .ok y
      else .ok (x / power)
    else if x == 0 then .ok x
    else if 0 ≤ exponent then .error .malformed
    else scaleTen fuel (x / Float.ofScientific 1 false 308) (exponent + 308)

/-- Three steps bring every 64-bit significand to zero, so four are enough. -/
def ofParts (negative : Bool) (significand : Nat) (exponent : Int) : Except Fault Float :=
  match scaleTen 4 significand.toUInt64.toFloat exponent with
  | .error f => .error f
  | .ok x => .ok (if negative then -x else x)

/-- The digits of an exponent after its sign, at least one. An exponent beyond 31 bits gives zero
when it is negative or there is nothing to scale. -/
def readExponentDigits (negative : Bool) (significand : Nat) (start : Int) (down : Bool)
    (s : List Char) : Except Fault (Number × List Char) :=
  match s with
  | [] => .error .truncated
  | c :: r =>
    if !isDigit c then .error .malformed
    else
      let ds := (c :: r).takeWhile isDigit
      let rest := (c :: r).dropWhile isDigit
      let size := ds.foldl (fun n d => n * 10 + digitValue d) 0
      if size < Nat.pow 2 31 then
        match ofParts negative significand (if down then start - size else start + size) with
        | .error f => .error f
        | .ok x => .ok (.floating x, rest)
      else if significand ≠ 0 ∧ !down then .error .malformed
      else .ok (.floating (if negative then -0.0 else 0.0), rest)

def readExponent (negative : Bool) (significand : Nat) (start : Int) (s : List Char) :
    Except Fault (Number × List Char) :=
  match s with
  | '+' :: r => readExponentDigits negative significand start false r
  | '-' :: r => readExponentDigits negative significand start true r
  | r => readExponentDigits negative significand start false r

def readScale (negative : Bool) (significand : Nat) (exponent : Int) (s : List Char) :
    Except Fault (Number × List Char) :=
  match s with
  | 'e' :: r => readExponent negative significand exponent r
  | 'E' :: r => readExponent negative significand exponent r
  | r =>
    match ofParts negative significand exponent with
    | .error f => .error f
    | .ok x => .ok (.floating x, r)

/-- The digits after the point, at least one. Digits that no longer fit are dropped. -/
def readFraction (negative : Bool) (significand : Nat) (exponent : Int) (s : List Char) :
    Except Fault (Number × List Char) :=
  match s with
  | [] => .error .truncated
  | c :: r =>
    if !isDigit c then .error .malformed
    else
      let (m, k, rest) := takeDigits significand (c :: r)
      readScale negative m (exponent - k) (rest.dropWhile isDigit)

/-- A number without fraction and exponent. Minus zero and what does not fit into a signed word
of 64 bits are doubles. -/
def wholeNumber (negative : Bool) (n : Nat) : Number :=
  if !negative then .integer n
  else if n ≠ 0 ∧ n ≤ Nat.pow 2 63 then .integer (-n)
  else .floating (-n.toUInt64.toFloat)

def readAfterWhole (negative : Bool) (n : Nat) (s : List Char) :
    Except Fault (Number × List Char) :=
  match s with
  | '.' :: r => readFraction negative n 0 r
  | 'e' :: r => readExponent negative n 0 r
  | 'E' :: r => readExponent negative n 0 r
  | c :: r =>
    if isDigit c then
      let ds := (c :: r).takeWhile isDigit
      match (c :: r).dropWhile isDigit with
      | '.' :: rest => readFraction negative n ds.length rest
      | rest => readScale negative n ds.length rest
    else .ok (wholeNumber negative n, c :: r)
  | [] => .ok (wholeNumber negative n, [])

/-- A number after its sign. A zero at the front stands alone. -/
def readMagnitude (negative : Bool) (s : List Char) : Except Fault (Number × List Char) :=
  match s with
  | [] => .error .truncated
  | '0' :: c :: r => if isDigit c then .error .malformed else readAfterWhole negative 0 (c :: r)
  | c :: r =>
    if !isDigit c then .error .malformed
    else
      let (n, _, rest) := takeDigits (digitValue c) r
      readAfterWhole negative n rest

/-- A number, if the text starts like one. -/
def readNumber? (s : List Char) : Option (Except Fault (Number × List Char)) :=
  match s with
  | '-' :: r => some (readMagnitude true r)
  | c :: r => if isDigit c then some (readMagnitude false (c :: r)) else none
  | [] => none

end PocketDesk.Json
