import PocketDesk.Text.Split

/-! Writing JSON without any blanks. In a string only the quote, the backslash and the
control characters below the space are escaped, those with a letter by it. -/

namespace PocketDesk.Json

def hexDigit (n : Nat) : Char := (Nat.digitChar n)

def writeChar (c : Char) : List Char :=
  match c with
  | '"' => ['\\', '"']
  | '\\' => ['\\', '\\']
  | '\x08' => ['\\', 'b']
  | '\x0c' => ['\\', 'f']
  | '\n' => ['\\', 'n']
  | '\r' => ['\\', 'r']
  | '\t' => ['\\', 't']
  | c =>
    if c.toNat < 0x20 then ['\\', 'u', '0', '0', hexDigit (c.toNat / 16), hexDigit (c.toNat % 16)]
    else [c]

def writeString (s : String) : List Char := '"' :: (s.toList.flatMap writeChar ++ ['"'])

def writeBool (b : Bool) : List Char := (if b then "true" else "false").toList

def writeNat (n : Nat) : List Char := Nat.toDigits 10 n

def writeArray (items : List (List Char)) : List Char := '[' :: (Text.join [','] items ++ [']'])

def writeMember (key : String) (value : List Char) : List Char :=
  writeString key ++ ':' :: value

/-- An object with its members in the order given. -/
def writeObject (members : List (String × List Char)) : List Char :=
  '{' :: (Text.join [','] (members.map fun m => writeMember m.1 m.2) ++ ['}'])

end PocketDesk.Json
