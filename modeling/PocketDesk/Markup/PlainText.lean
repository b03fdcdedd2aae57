import PocketDesk.Markup.Entity
import PocketDesk.Text.Blank

/-! The plain form of a markup text. Tags are dropped, and a break tag starts a new line;
line ends of the source count as spaces, as they do when markup is shown. Then entities
are decoded, every line is trimmed, and blank lines at either end are left out. -/

namespace PocketDesk.Markup

/-- A break tag in any spelling, closing or not. The text is what stands between the angle
brackets. -/
def isBreak (tag : List Char) : Bool :=
  let name := ((Text.trim tag).dropWhile (· = '/')).map Char.toLower
  ['b', 'r'].isPrefixOf name

def tagText (tag : List Char) : List Char := if isBreak tag then ['\n'] else []

/-- The text without its tags. Inside a tag its characters so far are kept, the last one first;
a tag that is not closed takes everything. -/
def dropTagsFrom : Option (List Char) → List Char → List Char
  | none, [] => []
  | some tag, [] => tagText tag.reverse
  | none, c :: r =>
    if c = '<' then dropTagsFrom (some []) r
    else if c = '\n' ∨ c = '\r' then ' ' :: dropTagsFrom none r
    else c :: dropTagsFrom none r
  | some tag, c :: r =>
    if c = '>' then tagText tag.reverse ++ dropTagsFrom none r
    else dropTagsFrom (some (c :: tag)) r

def dropTags (s : List Char) : List Char := dropTagsFrom none s

/-- The lines without the blank ones at either end, every line trimmed. -/
def trimLines (s : List Char) : List (List Char) :=
  let lines := (Text.fields (· == '\n') s).map Text.trim
  ((lines.dropWhile List.isEmpty).reverse.dropWhile List.isEmpty).reverse

def plainText (s : List Char) : List Char :=
  Text.join ['\n'] (trimLines (decodeEntities (dropTags s)))

def strip (markup : String) : String := String.ofList (plainText markup.toList)

end PocketDesk.Markup
