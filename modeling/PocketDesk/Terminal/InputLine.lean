import PocketDesk.Text.Blank
import PocketDesk.Text.LowerCase

/-! An entered line as the terminal understands it: the first word is the verb, the second
one the argument, and whatever follows is not looked at. -/

namespace PocketDesk

structure InputLine where
  /-- In lower case. -/
  verb : String
  /-- As typed. -/
  argument : Option String
  deriving DecidableEq, Repr

/-- Nothing for a line without words. -/
def InputLine.parse? (line : String) : Option InputLine :=
  match Text.words line.toList with
  | [] => none
  | [verb] => some ⟨Text.lowerCase (String.ofList verb), none⟩
  | verb :: argument :: _ =>
    some ⟨Text.lowerCase (String.ofList verb), some (String.ofList argument)⟩

end PocketDesk
