import PocketDesk.Markup.PlainText
import PocketDesk.Tree.Listing

/-! The lines a terminal shows. -/

namespace PocketDesk

inductive Line where
  /-- An entered line behind the prompt it was entered at. -/
  | command (prompt input : String)
  | text (text : String)
  /-- What the terminal says about its own doing. -/
  | muted (text : String)
  | error (text : String)
  /-- A hint on the use of a command. -/
  | warning (text : String)
  | success (text : String)
  /-- A markup text, shown as markup. -/
  | rich (markup : String)
  | listing (entries : List ListEntry)
  deriving DecidableEq, Repr

namespace Line

def tag : Line → String
  | .command .. => "command"
  | .text _ => "text"
  | .muted _ => "muted"
  | .error _ => "error"
  | .warning _ => "warning"
  | .success _ => "success"
  | .rich _ => "rich"
  | .listing _ => "listing"

def isRich : Line → Bool
  | .rich _ => true
  | _ => false

/-- The line where only text can be shown. -/
def plainText : Line → String
  | .command prompt input => prompt ++ "$ " ++ input
  | .text s | .muted s | .error s | .warning s | .success s => s
  | .rich markup => Markup.strip markup
  | .listing entries => String.intercalate "  " (entries.map ListEntry.displayName)

end Line

end PocketDesk
