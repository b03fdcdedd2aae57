import PocketDesk.Json.Number

/-! Passing over a value that nobody asked for. It has to be well-formed, but its numbers
may be out of range, its strings may hold lone surrogates, and it may nest without limit:
the open brackets are kept on a stack. -/

namespace PocketDesk.Json

/-- The rest after at least one digit. A number that is cut off is malformed here. -/
def skipDigits (s : List Char) : Except Fault (List Char) :=
  match s with
  | [] => .error .malformed
  | c :: r => if isDigit c then .ok (r.dropWhile isDigit) else .error .malformed

def skipExponent (s : List Char) : Except Fault (List Char) :=
  match s with
  | '+' :: r => skipDigits r
  | '-' :: r => skipDigits r
  | r => skipDigits r

def skipExponent? (s : List Char) : Except Fault (List Char) :=
  match s with
  | 'e' :: r => skipExponent r
  | 'E' :: r => skipExponent r
  | r => .ok r

def skipFraction? (s : List Char) : Except Fault (List Char) :=
  match s with
  | '.' :: r => skipDigits r >>= skipExponent?
  | r => skipExponent? r

def skipMagnitude (s : List Char) : Except Fault (List Char) :=
  match s with
  | '0' :: c :: r => if isDigit c then .error .malformed else skipFraction? (c :: r)
  | r => skipDigits r >>= skipFraction?

/-- One item of a string body: whether the string ended, and the rest. -/
def skipStringItem (s : List Char) : Except Fault (Bool × List Char) :=
  match s with
  | [] => .error .truncated
  | '"' :: r => .ok (true, r)
  | '\\' :: [] => .error .truncated
  | '\\' :: 'u' :: r => do
    let (_, r) ← readHex4 r
    .ok (false, r)
  | '\\' :: c :: r => if (shortEscape? c).isSome then .ok (false, r) else .error .malformed
  | c :: r => if c.toNat < 0x20 then .error .malformed else .ok (false, r)

def skipStringItems : Nat → List Char → Except Fault (List Char)
  | 0, _ => .error .truncated
  | fuel + 1, s =>
    match skipStringItem s with
    | .error f => .error f
    | .ok (true, r) => .ok r
    | .ok (false, r) => skipStringItems fuel r

/-- The rest after a string whose opening quote has been read. -/
def skipStringBody (s : List Char) : Except Fault (List Char) := skipStringItems (s.length + 1) s

inductive Bracket where
  | square
  | curly
  deriving DecidableEq

def Bracket.closing : Bracket → Char
  | .square => ']'
  | .curly => '}'

def skipKey (s : List Char) : Except Fault (List Char) :=
  match skipSpace s with
  | [] => .error .truncated
  | c :: r =>
    if c ≠ '"' then .error .malformed
    else do
      let r ← skipStringBody r
      match skipSpace r with
      | [] => .error .truncated
      | c :: r => if c = ':' then .ok r else .error .malformed

/-- Where the next value inside a bracket starts. -/
def Bracket.enter (b : Bracket) (s : List Char) : Except Fault (List Char) :=
  match b with
  | .square => .ok s
  | .curly => skipKey s

/-- A value that is neither an array nor an object, from its first character `c` on. -/
def skipScalar (c : Char) (r : List Char) : Except Fault (List Char) :=
  if c = 'n' then expectWord "ull".toList r
  else if c = 't' then expectWord "rue".toList r
  else if c = 'f' then expectWord "alse".toList r
  else if c = '"' then skipStringBody r
  else if c = '-' then skipMagnitude r
  else if isDigit c then skipMagnitude (c :: r)
  else .error .malformed

/-- Where in a value the reader stands. -/
inductive SkipState where
  /-- A value has to come. -/
  | value
  /-- A bracket has just been opened. -/
  | opened
  /-- A value has just ended. -/
  | ended

/-- Passes over the rest of a value inside the open brackets, in at most `fuel` moves. -/
def skipFrom : Nat → SkipState → List Bracket → List Char → Except Fault (List Char)
  | 0, _, _, _ => .error .truncated
  | fuel + 1, .value, open_, s =>
    match skipSpace s with
    | [] => .error .truncated
    | c :: r =>
      if c = '[' then skipFrom fuel .opened (.square :: open_) r
      else if c = '{' then skipFrom fuel .opened (.curly :: open_) r
      else
        match skipScalar c r with
        | .error f => .error f
        | .ok r => skipFrom fuel .ended open_ r
  | _ + 1, _, [], s => .ok s
  | fuel + 1, .opened, b :: open_, s =>
    match skipSpace s with
    | [] => .error .truncated
    | c :: r =>
      if c = b.closing then skipFrom fuel .ended open_ r
      else
        match b.enter (c :: r) with
        | .error f => .error f
        | .ok r => skipFrom fuel .value (b :: open_) r
  | fuel + 1, .ended, b :: open_, s =>
    match skipSpace s with
    | [] => .error .truncated
    | c :: r =>
      if c = b.closing then skipFrom fuel .ended open_ r
      else if c = ',' then
        match b.enter r with
        | .error f => .error f
        | .ok r => skipFrom fuel .value (b :: open_) r
      else .error .malformed

/-- The rest after one value of any shape. A move takes a character or follows one that did, so
the moves are at most twice the characters and one. -/
def skipValue (s : List Char) : Except Fault (List Char) :=
  skipFrom (2 * s.length + 2) .value [] s

end PocketDesk.Json
