import PocketDesk.Text.Split

/-! Character entities of a markup text. Each entity is replaced in the whole text before
the next one is looked for. The ampersand's own entity comes last, so what it gives is
not read again. -/

namespace PocketDesk.Markup

/-- Every occurrence of `target`, from the left, replaced; `skip` characters of the last
occurrence are still to be dropped. An empty target occurs nowhere. -/
def replaceFrom (target : List Char) (by_ : List Char) : Nat → List Char → List Char
  | _, [] => []
  | skip + 1, _ :: r => replaceFrom target by_ skip r
  | 0, c :: r =>
    if target ≠ [] ∧ target.isPrefixOf (c :: r) then
      by_ ++ replaceFrom target by_ (target.length - 1) r
    else c :: replaceFrom target by_ 0 r

def replaceAll (target by_ s : List Char) : List Char := replaceFrom target by_ 0 s

/-- The entities in the order in which they are replaced. -/
def entities : List (String × Char) :=
  [ ("&lt;", '<')
  , ("&gt;", '>')
  , ("&quot;", '"')
  , ("&#39;", '\'')
  , ("&nbsp;", ' ')
  , ("&amp;", '&') ]

def decodeEntities (s : List Char) : List Char :=
  entities.foldl (fun s e => replaceAll e.1.toList [e.2] s) s

end PocketDesk.Markup
