/-! A manifest describes a tree: the entries of the root, each with a kind and the parts
that its kind asks for. Nothing is checked here. -/

namespace PocketDesk

structure Entry where
  name : String
  kind : String
  /-- The members, for a directory. -/
  children : List Entry := []
  /-- The asset, for a document or a picture. -/
  path : Option String := none
  /-- The text, for a text file. -/
  content : Option String := none
  /-- The window, for a shortcut. -/
  window : Option String := none
  /-- What an executable does. -/
  action : Option String := none

structure Manifest where
  root : List Entry

end PocketDesk
