import PocketDesk.Content.DocPage
import PocketDesk.Text.LowerCase

/-! The commands of the terminal. Documentation pages are looked up before anything else. -/

namespace PocketDesk

inductive Command where
  | doc (page : DocPage)
  | list
  /-- Without a path, back to the root. -/
  | changeDirectory (path : Option String)
  | openPath (path : Option String)
  | clear
  /-- Closes the terminal's window. -/
  | exit
  | matrix
  | unknown (verb : String)
  deriving DecidableEq, Repr

namespace Command

def verbs : List String := ["cd", "clear", "exit", "ls", "matrix", "open"]

/-- The verbs that completion offers: documentation pages first. -/
def offered : List String :=
  let keys := DocPage.all.map DocPage.key
  keys ++ verbs.filter fun v => !keys.contains v

/-- The command of a verb that is not a documentation page. -/
def ofVerb (verb : String) (argument : Option String) : Command :=
  match verb with
  | "ls" => .list
  | "cd" => .changeDirectory argument
  | "open" => .openPath argument
  | "clear" => .clear
  | "exit" => .exit
  | "matrix" => .matrix
  | verb => .unknown verb

/-- The command of a verb in any case. -/
def parse (verb : String) (argument : Option String) : Command :=
  let verb := Text.lowerCase verb
  match DocPage.ofKey? verb with
  | some page => .doc page
  | none => ofVerb verb argument

end Command

end PocketDesk
