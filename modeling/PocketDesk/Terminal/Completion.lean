import PocketDesk.Terminal.Command
import PocketDesk.Text.Blank
import PocketDesk.Tree.Basic

/-! Completing what is being typed. Only the last word counts: the first word of a line
completes to a verb, any later one to a name in the directory that it points into. The
buffer changes only when there is exactly one candidate. -/

namespace PocketDesk

inductive Completion where
  | nothing
  /-- The buffer with its last word completed. -/
  | single (buffer : String)
  | multiple (candidates : List String)
  deriving DecidableEq, Repr

namespace Completion

def beginningWith (start : List Char) (names : List String) : List String :=
  names.filter fun name => start.isPrefixOf name.toList

/-- The names in the directory that a path word points into. -/
def namesAt (tree : Tree) (current : Location) (directory : List Char) : List String :=
  let node? :=
    if directory.isEmpty then tree.get? current
    else ((tree.resolve current (String.ofList directory)).toOption).map Prod.fst
  match node?.bind Node.asDirectory? with
  | some d => d.names
  | none => []

/-- What the last word could become, and the part of it that stays: nothing of a verb, and of a
path what goes up to its last slash. -/
def candidates (tree : Tree) (current : Location) (head word : List Char) :
    List Char × List String :=
  if (Text.trim head).isEmpty then ([], beginningWith word Command.offered)
  else
    let directory := Text.dropLastWhile (· ≠ '/') word
    let start := Text.takeLastWhile (· ≠ '/') word
    (directory, beginningWith start (namesAt tree current directory))

def complete (tree : Tree) (current : Location) (buffer : String) : Completion :=
  let head := Text.dropLastWhile (!Text.isBlank ·) buffer.toList
  let word := Text.takeLastWhile (!Text.isBlank ·) buffer.toList
  if word.isEmpty then .nothing
  else
    match candidates tree current head word with
    | (_, []) => .nothing
    | (kept, [name]) => .single (String.ofList (head ++ kept) ++ name)
    | (_, names) => .multiple names

end Completion

end PocketDesk
