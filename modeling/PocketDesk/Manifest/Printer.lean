import PocketDesk.Json.Printer
import PocketDesk.Manifest.Basic

/-! Writing a manifest as JSON. Children stand only where there are some, and the optional
parts only where they are present. -/

namespace PocketDesk

def optionalMember (key : String) (value : Option String) : List (String × List Char) :=
  match value with
  | none => []
  | some text => [(key, Json.writeString text)]

mutual

def Entry.write : Entry → List Char
  | ⟨name, kind, children, path, content, window, action⟩ =>
    Json.writeObject <|
      [("name", Json.writeString name), ("type", Json.writeString kind)] ++
      (if children.isEmpty then [] else [("children", Json.writeArray (Entry.writeAll children))]) ++
      optionalMember "path" path ++ optionalMember "content" content ++
      optionalMember "window" window ++ optionalMember "action" action

def Entry.writeAll : List Entry → List (List Char)
  | [] => []
  | e :: es => e.write :: Entry.writeAll es

end

def Manifest.write (m : Manifest) : List Char :=
  Json.writeObject [("root", Json.writeArray (Entry.writeAll m.root))]

def Manifest.toJson (m : Manifest) : String := String.ofList m.write

end PocketDesk
