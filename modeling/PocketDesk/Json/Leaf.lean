import PocketDesk.Json.Fault
import PocketDesk.Text.Split

/-! The leaves of a JSON text: blanks, fixed words and strings. Every reader takes the
characters that are left and gives back the value with what follows it; the first
problem met decides the fault. -/

namespace PocketDesk.Json

/-- A reader of values of type `α` from the front of a text. -/
abbrev Reader (α : Type) := List Char → Except Fault (α × List Char)

def isSpace (c : Char) : Bool := c == ' ' || c == '\n' || c == '\t' || c == '\r'

def skipSpace (s : List Char) : List Char := s.dropWhile isSpace

/-- The rest after a fixed word. -/
def expectWord : List Char → List Char → Except Fault (List Char)
  | [], s => .ok s
  | _ :: _, [] => .error .truncated
  | c :: word, d :: s => if c = d then expectWord word s else .error .malformed

/-- The rest after the fixed word, when the text begins with it. -/
theorem expectWord_append (word s : List Char) : expectWord word (word ++ s) = .ok s := by
  induction word with
  | nil => rfl
  | cons c word ih => simp [expectWord, ih]

def hexValue? (c : Char) : Option Nat :=
  let n := c.toNat
  if 0x30 ≤ n ∧ n ≤ 0x39 then some (n - 0x30)
  else if 0x41 ≤ n ∧ n ≤ 0x46 then some (n - 0x41 + 10)
  else if 0x61 ≤ n ∧ n ≤ 0x66 then some (n - 0x61 + 10)
  else none

/-- Four hexadecimal digits. Four bytes have to be left at all, else the text counts as cut off. -/
def readHex4 (s : List Char) : Except Fault (Nat × List Char) :=
  match s with
  | a :: b :: c :: d :: r =>
    match hexValue? a, hexValue? b, hexValue? c, hexValue? d with
    | some a, some b, some c, some d => .ok (((a * 16 + b) * 16 + c) * 16 + d, r)
    | _, _, _, _ => .error .malformed
  | s => if (String.ofList s).utf8ByteSize < 4 then .error .truncated else .error .malformed

def isLeadingSurrogate (n : Nat) : Bool := 0xd800 ≤ n && n ≤ 0xdbff

def isTrailingSurrogate (n : Nat) : Bool := 0xdc00 ≤ n && n ≤ 0xdfff

/-- What follows `\u`: one code unit, or a leading surrogate with its trailing one. -/
def readCodePoint (s : List Char) : Except Fault (Char × List Char) := do
  let (n, r) ← readHex4 s
  if isTrailingSurrogate n then .error .malformed
  else if !isLeadingSurrogate n then .ok (Char.ofNat n, r)
  else
    let r ← expectWord ['\\', 'u'] r
    let (m, r) ← readHex4 r
    if isTrailingSurrogate m then
      .ok (Char.ofNat ((n - 0xd800) * 0x400 + (m - 0xdc00) + 0x10000), r)
    else .error .malformed

def shortEscape? (c : Char) : Option Char :=
  match c with
  | '"' => some '"'
  | '\\' => some '\\'
  | '/' => some '/'
  | 'b' => some '\x08'
  | 'f' => some '\x0c'
  | 'n' => some '\n'
  | 'r' => some '\r'
  | 't' => some '\t'
  | _ => none

/-- One item of a string body: its end, a character as it is, or what an escape stands for. -/
def readStringItem (s : List Char) : Except Fault (Option Char × List Char) :=
  match s with
  | [] => .error .truncated
  | '"' :: r => .ok (none, r)
  | '\\' :: [] => .error .truncated
  | '\\' :: 'u' :: r => do
    let (c, r) ← readCodePoint r
    .ok (some c, r)
  | '\\' :: c :: r =>
    match shortEscape? c with
    | some c => .ok (some c, r)
    | none => .error .malformed
  | c :: r => if c.toNat < 0x20 then .error .malformed else .ok (some c, r)

/-- A string body up to its closing quote, in at most `fuel` items. -/
def readStringItems : Nat → List Char → Except Fault (List Char × List Char)
  | 0, _ => .error .truncated
  | fuel + 1, s =>
    match readStringItem s with
    | .error f => .error f
    | .ok (none, r) => .ok ([], r)
    | .ok (some c, r) =>
      match readStringItems fuel r with
      | .error f => .error f
      | .ok (cs, r) => .ok (c :: cs, r)

/-- The string whose opening quote has been read. Every item takes a character, so the items
are no more than the characters left and the end. -/
def readStringBody (s : List Char) : Except Fault (String × List Char) :=
  match readStringItems (s.length + 1) s with
  | .error f => .error f
  | .ok (cs, r) => .ok (String.ofList cs, r)

end PocketDesk.Json
