import PocketDesk.Json.Skip

/-! Reading values of a known shape in one pass: strings, flags, 32-bit numbers, arrays
and records. A record is an object whose members may come in any order, or an array of
its fields in their order. Members with unknown keys are passed over. How many brackets
may still be opened is part of every reader that opens one. -/

namespace PocketDesk.Json

/-- The fault of a value that starts at the front of the text and should have been something
else. Words, numbers and strings are read to their end first, and their own fault wins. -/
def misfit (expected : String) (s : List Char) : Fault :=
  match s with
  | [] => .truncated
  | 'n' :: r => word r "ull" .null
  | 't' :: r => word r "rue" (.boolean true)
  | 'f' :: r => word r "alse" (.boolean false)
  | '[' :: _ => .mismatch (.wrongType .sequence expected)
  | '{' :: _ => .mismatch (.wrongType .map expected)
  | '"' :: r =>
    match readStringBody r with
    | .error f => f
    | .ok (text, _) => .mismatch (.wrongType (.string text) expected)
  | s =>
    match readNumber? s with
    | some (.error f) => f
    | some (.ok (n, _)) => .mismatch (.wrongType n.found expected)
    | none => .malformed
where
  word (r : List Char) (rest : String) (found : Found) : Fault :=
    match expectWord rest.toList r with
    | .error f => f
    | .ok _ => .mismatch (.wrongType found expected)

def readString : Reader String := fun s =>
  match skipSpace s with
  | '"' :: r => readStringBody r
  | r => .error (misfit "a string" r)

def readString? : Reader (Option String) := fun s =>
  match skipSpace s with
  | 'n' :: r =>
    match expectWord "ull".toList r with
    | .error f => .error f
    | .ok r => .ok (none, r)
  | r =>
    match readString r with
    | .error f => .error f
    | .ok (text, r) => .ok (some text, r)

def readBool : Reader Bool := fun s =>
  match skipSpace s with
  | 't' :: r =>
    match expectWord "rue".toList r with
    | .error f => .error f
    | .ok r => .ok (true, r)
  | 'f' :: r =>
    match expectWord "alse".toList r with
    | .error f => .error f
    | .ok r => .ok (false, r)
  | r => .error (misfit "a boolean" r)

def readUInt32 : Reader UInt32 := fun s =>
  let r := skipSpace s
  match readNumber? r with
  | none => .error (misfit "u32" r)
  | some (.error f) => .error f
  | some (.ok (.floating x, _)) => .error (.mismatch (.wrongType (.floating x) "u32"))
  | some (.ok (.integer n, r)) =>
    if 0 ≤ n ∧ n < UInt32.size then .ok (UInt32.ofNat n.toNat, r)
    else .error (.mismatch (.wrongValue (.integer n) "u32"))

/-- Where the next item of an array starts, or nothing before the closing bracket. -/
def nextItem (first : Bool) (s : List Char) : Except Fault (Option (List Char)) :=
  match skipSpace s with
  | [] => .error .truncated
  | ']' :: _ => .ok none
  | c :: r =>
    if first then .ok (some (c :: r))
    else if c = ',' then
      match skipSpace r with
      | [] => .error .truncated
      | ']' :: _ => .error .malformed
      | r => .ok (some r)
    else .error .malformed

def expectMark (mark : Char) (s : List Char) : Except Fault (List Char) :=
  match skipSpace s with
  | [] => .error .truncated
  | c :: r => if c = mark then .ok r else .error .malformed

/-- The items up to the closing bracket, at most `fuel` of them. -/
def readItems {α : Type} (item : Reader α) : Nat → Bool → List Char →
    Except Fault (List α × List Char)
  | 0, _, _ => .error .truncated
  | fuel + 1, first, s =>
    match nextItem first s with
    | .error f => .error f
    | .ok none => .ok ([], s)
    | .ok (some r) =>
      match item r with
      | .error f => .error f
      | .ok (x, r) =>
        match readItems item fuel false r with
        | .error f => .error f
        | .ok (xs, r) => .ok (x :: xs, r)

/-- An array. Without a reader for the items no bracket may be opened any more. Every item takes
a character, so the items are no more than the characters left. -/
def readArray {α : Type} (item : Option (Reader α)) : Reader (List α) := fun s =>
  match skipSpace s, item with
  | '[' :: _, none => .error .malformed
  | '[' :: r, some item =>
    match readItems item (r.length + 1) true r with
    | .error f => .error f
    | .ok (xs, r) =>
      match expectMark ']' r with
      | .error f => .error f
      | .ok r => .ok (xs, r)
  | r, _ => .error (misfit "a sequence" r)

/-- A named part of a record of type `σ`. What is read becomes a change of the record. A part
that is not required keeps what the record had. -/
structure Field (σ : Type) where
  name : String
  required : Bool
  read : Reader (σ → σ)

def Field.of {σ α : Type} (name : String) (required : Bool) (read : Reader α)
    (set : α → σ → σ) : Field σ where
  name := name
  required := required
  read s :=
    match read s with
    | .error f => .error f
    | .ok (x, r) => .ok (set x, r)

/-- Where the next key's text starts, or nothing before the closing brace. -/
def nextKey (first : Bool) (s : List Char) : Except Fault (Option (List Char)) :=
  match skipSpace s with
  | [] => .error .truncated
  | '}' :: _ => .ok none
  | c :: r =>
    if first then if c = '"' then .ok (some r) else .error .malformed
    else if c = ',' then
      match skipSpace r with
      | [] => .error .truncated
      | '"' :: r => .ok (some r)
      | _ => .error .malformed
    else .error .malformed

/-- The members up to the closing brace, at most `fuel` of them. A key that was `seen` is refused
before its value, and fields that are missing are noticed at the brace. -/
def readMembers {σ : Type} (fields : List (Field σ)) : Nat → Bool → List String → σ → Reader σ
  | 0, _, _, _ => fun _ => .error .truncated
  | fuel + 1, first, seen, record => fun s =>
    match nextKey first s with
    | .error f => .error f
    | .ok none =>
      match fields.find? fun f => f.required && !seen.contains f.name with
      | some f => .error (.mismatch (.missingField f.name))
      | none => .ok (record, s)
    | .ok (some r) =>
      match readStringBody r with
      | .error f => .error f
      | .ok (key, r) =>
        match fields.find? fun f => f.name == key with
        | none =>
          match expectMark ':' r >>= skipValue with
          | .error f => .error f
          | .ok r => readMembers fields fuel false seen record r
        | some field =>
          if seen.contains key then .error (.mismatch (.duplicateField key))
          else
            match expectMark ':' r >>= field.read with
            | .error f => .error f
            | .ok (set, r) => readMembers fields fuel false (key :: seen) (set record) r

/-- The fields in their order, from the `n`-th on. -/
def readPositions {σ : Type} (expected : String) : List (Field σ) → Nat → Bool → σ → Reader σ
  | [], _, _, record => fun s => .ok (record, s)
  | field :: fields, n, first, record => fun s =>
    match nextItem first s with
    | .error f => .error f
    | .ok none =>
      if field.required then .error (.mismatch (.wrongLength n expected))
      else readPositions expected fields (n + 1) first record s
    | .ok (some r) =>
      match field.read r with
      | .error f => .error f
      | .ok (set, r) => readPositions expected fields (n + 1) false (set record) r

def elementCount (n : Nat) : String := toString n ++ (if n = 1 then " element" else " elements")

/-- A record called `title`, starting from the values that are kept where a field is absent.
Without fields no bracket may be opened any more. -/
def readRecord {σ : Type} (title : String) (fields : Option (List (Field σ))) (start : σ) :
    Reader σ := fun s =>
  match skipSpace s, fields with
  | '[' :: _, none => .error .malformed
  | '{' :: _, none => .error .malformed
  | '[' :: r, some fields =>
    let expected := "struct " ++ title ++ " with " ++ elementCount fields.length
    match readPositions expected fields 0 true start r with
    | .error f => .error f
    | .ok (record, r) =>
      match expectMark ']' r with
      | .error f => .error f
      | .ok r => .ok (record, r)
  | '{' :: r, some fields =>
    match readMembers fields (r.length + 1) true [] start r with
    | .error f => .error f
    | .ok (record, r) =>
      match expectMark '}' r with
      | .error f => .error f
      | .ok r => .ok (record, r)
  | r, _ => .error (misfit ("struct " ++ title) r)

/-- How many brackets may be open at once in what is read. -/
def maxNesting : Nat := 127

/-- A whole text: one value, and nothing but blanks after it. -/
def readDocument {α : Type} (read : Reader α) (text : String) : Except Fault α :=
  match read text.toList with
  | .error f => .error f
  | .ok (x, r) => if (skipSpace r).isEmpty then .ok x else .error .malformed

end PocketDesk.Json
