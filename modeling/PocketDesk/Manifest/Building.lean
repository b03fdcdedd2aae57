import PocketDesk.Manifest.Reader
import PocketDesk.Tree.Basic

/-! Building a tree from a manifest. The entries are taken in their order; the first one
that cannot be built decides the violation. An entry's name is looked at first, then
what it holds, and last whether a sibling already has its name. -/

namespace PocketDesk

/-- What is wrong with a manifest. Places are names joined by slashes, the root's first. -/
inductive Violation where
  | invalidName (parent name : String)
  | duplicateName (parent name : String)
  | missingField (path kind field : String)
  | invalidAction (path action : String)
  deriving DecidableEq, Repr

def Violation.message : Violation → String
  | .invalidName parent name => "invalid entry name '" ++ name ++ "' in " ++ parent
  | .duplicateName parent name => "duplicate entry '" ++ name ++ "' in " ++ parent
  | .missingField path kind field =>
    path ++ ": '" ++ kind ++ "' entry is missing field '" ++ field ++ "'"
  | .invalidAction path action => path ++ ": invalid action '" ++ action ++ "'"

/-- A name that a path expression can address, and that is not the root's. -/
def isValidName (name : String) : Bool :=
  name ≠ "" && !name.toList.contains '/' && name ≠ "." && name ≠ ".." && name ≠ rootName

namespace Entry

/-- The part of an entry under `field`, which its kind asks for. -/
def require (path kind field : String) (value : Option String) : Except Violation String :=
  match value with
  | some text => .ok text
  | none => .error (.missingField path kind field)

/-- The node of an entry that is not a directory. -/
def leaf (e : Entry) (path : String) : Except Violation Node :=
  match e.kind with
  | "shortcut" => do
    let window ← require path e.kind "window" e.window
    .ok (.shortcut ⟨window⟩)
  | "exec" | "executable" => do
    let spec ← require path e.kind "action" e.action
    match Action.parse? spec with
    | some action => .ok (.executable action)
    | none => .error (.invalidAction path spec)
  | kind =>
    match FileKind.ofName kind with
    | .text => do
      let content ← require path e.kind "content" e.content
      .ok (.file .text content)
    | .other kind => .ok (.file (.other kind) ((e.path.or e.content).getD ""))
    | viewed => do
      let asset ← require path e.kind "path" e.path
      .ok (.file viewed asset)

mutual

/-- The node of the entry that stands at `path`. -/
def node (path : String) : Entry → Except Violation Node
  | ⟨name, kind, children, asset, content, window, action⟩ =>
    if kind = "directory" ∨ kind = "dir" then
      match members path .empty children with
      | .error v => .error v
      | .ok d => .ok (.directory d.members)
    else leaf ⟨name, kind, children, asset, content, window, action⟩ path

/-- The directory at `path` with the entries added to it. -/
def members (path : String) (d : Directory) : List Entry → Except Violation Directory
  | [] => .ok d
  | e :: es =>
    if !isValidName e.name then .error (.invalidName path e.name)
    else
      match node (path ++ "/" ++ e.name) e with
      | .error v => .error v
      | .ok n =>
        match d.insert e.name n with
        | .error _ => .error (.duplicateName path e.name)
        | .ok d => members path d es

end

end Entry

def Tree.ofManifest (m : Manifest) : Except Violation Tree :=
  match Entry.members rootName .empty m.root with
  | .error v => .error v
  | .ok d => .ok ⟨d⟩

inductive LoadError where
  | notJson (fault : Json.Fault)
  | invalid (violation : Violation)

def Tree.ofJson (text : String) : Except LoadError Tree :=
  match Manifest.ofJson text with
  | .error f => .error (.notJson f)
  | .ok m =>
    match Tree.ofManifest m with
    | .error v => .error (.invalid v)
    | .ok t => .ok t

end PocketDesk
