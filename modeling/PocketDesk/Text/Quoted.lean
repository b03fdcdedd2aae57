import PocketDesk.Text.Visible

/-! A text in quotation marks as messages show it: the two marks that need it are
escaped, the common control characters have short names, and any other character that
would not be visible is written as its code point in braces. -/

namespace PocketDesk.Text

def hexText (n : Nat) : List Char := Nat.toDigits 16 n

def quotedChar (c : Char) : List Char :=
  match c with
  | '\x00' => ['\\', '0']
  | '\t' => ['\\', 't']
  | '\r' => ['\\', 'r']
  | '\n' => ['\\', 'n']
  | '\\' => ['\\', '\\']
  | '"' => ['\\', '"']
  | c => if isVisible c then [c] else ['\\', 'u', '\x7b'] ++ hexText c.toNat ++ ['\x7d']

def quoted (s : String) : String :=
  String.ofList (['"'] ++ s.toList.flatMap quotedChar ++ ['"'])

end PocketDesk.Text
