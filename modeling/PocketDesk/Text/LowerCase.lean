import PocketDesk.Text.Cased
import PocketDesk.Text.LowerCaseTable

/-! Lower case of a whole text. Every character has its own lower-case form; two are
special. The dotted capital I becomes two characters, and a capital sigma becomes a
final sigma where it ends a word: a cased letter stands before it and none after it,
looking past the characters that case ignores. -/

namespace PocketDesk.Text

def lowerChar (c : Char) : List Char :=
  if c = 'İ' then ['i', '\u0307']
  else
    match lowerCaseRuns.find? (·.holds c.toNat) with
    | some r => [Char.ofNat (c.toNat + r.shift).toNat]
    | none => [c]

/-- Is the first character that case does not ignore a cased one? -/
def startsCased (s : List Char) : Bool :=
  match s.dropWhile isCaseIgnorable with
  | [] => false
  | c :: _ => isCased c

def lowerSigma (before after : List Char) : Char :=
  if startsCased before && !startsCased after then 'ς' else 'σ'

/-- Lower case of `s`, where `before` is what precedes it, nearest first. -/
def lowerAfter (before : List Char) : List Char → List Char
  | [] => []
  | c :: r =>
    (if c = 'Σ' then [lowerSigma before r] else lowerChar c) ++ lowerAfter (c :: before) r

def lower (s : List Char) : List Char := lowerAfter [] s

def lowerCase (s : String) : String := String.ofList (lower s.toList)

end PocketDesk.Text
