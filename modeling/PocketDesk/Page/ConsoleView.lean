import PocketDesk.Page.Console
import PocketDesk.Page.View

/-! How a terminal looks: its log, and below it the input field behind the prompt. Every
line of the log is known by its number, so a line stays the same element for as long as
it is in the log. -/

namespace PocketDesk.Page

open View (el)

def entryClasses : EntryStyle → List String
  | .directory => ["textBlue", "fontBold"]
  | .shortcut | .executable => ["textGreen"]
  | .pdf => ["textRed"]
  | .image => ["textPurple"]
  | .file => ["textFg"]

def lineView : Line → View
  | .command prompt input =>
    el "div" ["command"]
      [ el "span" ["textGreen"] [.text prompt]
      , el "span" ["textDim"] [.text "$ "]
      , el "span" ["textFg"] [.text input] ]
  | .text s => el "div" ["line", "textFg"] [.text s]
  | .muted s => el "div" ["line", "textDim"] [.text s]
  | .error s => el "div" ["line", "textRed"] [.text s]
  | .warning s => el "div" ["line", "textYellow"] [.text s]
  | .success s => el "div" ["line", "textGreen"] [.text s]
  | .rich markup => el "div" ["rich"] [.markup markup]
  | .listing entries =>
    el "div" ["listing"]
      (entries.map fun e => el "span" (entryClasses e.style) [.text e.displayName])

def logView (log : Log) : List View :=
  log.numbered.map fun (n, line) => (lineView line).withKey ("line " ++ toString n)

/-- How far anything is scrolled that is scrolled to its end. -/
def scrollEnd : Nat := 1000

def fieldId : String := "terminal-input"

def suggestionsView (suggestions : List String) : List View :=
  if suggestions.isEmpty then []
  else [el "div" ["suggestions"] (suggestions.map fun s => el "span" ["suggestion"] [.text s])]

def fieldView (prompt : String) (field : InputField) : View :=
  el "div" ["inputWrapper"]
    (el "div" ["line"]
      [ el "span" ["prompt"] [.text prompt]
      , el "span" ["separator"] [.text "$ "]
      , el "input" ["input"] []
          |>.withTexts
            [ ("id", fieldId), ("type", "text"), ("autocomplete", "off"), ("spellcheck", "false")
            , ("value", field.buffer) ]
          |>.on .input [.takeText]
          |>.on .keyDown [.pressKey] ] ::
    suggestionsView field.suggestions)

def Console.view (c : Console) : View :=
  el "div" ["container"]
    [ el "div" ["output"] (logView c.shell.log) |>.withAttribute "scrollTop" (.number scrollEnd)
    , el "div" ["inputArea"] [fieldView c.shell.prompt c.field] ]
  |>.on .click [.focusField]
  |>.on .keyDown [.play .keyPress]

end PocketDesk.Page
