import PocketDesk.Json.Record
import PocketDesk.Manifest.Basic

/-! Reading a manifest from JSON. An entry needs its name and type; every other part may
be absent. Two brackets open for each level of entries, and they count against the
nesting that can be read. -/

namespace PocketDesk

/-- The fields of an entry, given how its children are read. -/
def Entry.fields (children : Json.Reader (List Entry)) : List (Json.Field Entry) :=
  [ .of "name" true Json.readString fun x e => { e with name := x }
  , .of "type" true Json.readString fun x e => { e with kind := x }
  , .of "children" false children fun x e => { e with children := x }
  , .of "path" false Json.readString? fun x e => { e with path := x }
  , .of "content" false Json.readString? fun x e => { e with content := x }
  , .of "window" false Json.readString? fun x e => { e with window := x }
  , .of "action" false Json.readString? fun x e => { e with action := x } ]

/-- An entry inside which `levels` more brackets may be opened, its own included. -/
def Entry.read : Nat → Json.Reader Entry
  | 0 => Json.readRecord "ManifestEntry" none ⟨"", "", [], none, none, none, none⟩
  | 1 =>
    Json.readRecord "ManifestEntry" (some (fields (Json.readArray none)))
      ⟨"", "", [], none, none, none, none⟩
  | levels + 2 =>
    Json.readRecord "ManifestEntry" (some (fields (Json.readArray (some (Entry.read levels)))))
      ⟨"", "", [], none, none, none, none⟩

def Manifest.fields : List (Json.Field Manifest) :=
  [ .of "root" true (Json.readArray (some (Entry.read (Json.maxNesting - 2))))
      fun x m => { m with root := x } ]

def Manifest.read : Json.Reader Manifest := Json.readRecord "Manifest" (some fields) ⟨[]⟩

def Manifest.ofJson (text : String) : Except Json.Fault Manifest :=
  Json.readDocument Manifest.read text

end PocketDesk
