import PocketDesk.Proofs.Manifest.Role
import PocketDesk.Proofs.Tree.WellFormed

/-! # What is wrong with a manifest

Everything that is wrong with a manifest can be listed, in the order in which a
reader who goes through it from the front meets it: at every entry its name first,
then what it holds, then whether a sibling before it has its name. Building a tree
fails with the first of these, and succeeds when there is none. -/

namespace PocketDesk

/-- A place as it is written: the root's name and the names of the way, with slashes between. -/
def placeText (place : List String) : String := String.intercalate "/" ("root" :: place)

theorem placeText_append (place : List String) (name : String) :
    placeText (place ++ [name]) = placeText place ++ "/" ++ name := by
  have hfrom : ∀ first, String.intercalate "/" (first :: (place ++ [name])) =
      String.intercalate "/" (first :: place) ++ "/" ++ name := by
    induction place with
    | nil => simp [String.intercalate_cons_cons]
    | cons next place ih =>
      intro first
      rw [List.cons_append, String.intercalate_cons_cons, ih, String.intercalate_cons_cons]
      simp only [String.append_assoc]
  exact hfrom "root"

/-- No path expression can address the name, or it is the root's. -/
def Unusable (name : String) : Prop :=
  name = "" ∨ '/' ∈ name.toList ∨ name ∈ [".", "..", "root"]

instance (name : String) : Decidable (Unusable name) :=
  inferInstanceAs (Decidable (_ ∨ _))

theorem isValidName_eq_false_iff {name : String} : isValidName name = false ↔ Unusable name := by
  rw [← Bool.not_eq_true, isValidName_iff, Unusable, rootName]
  simp only [List.mem_cons, List.not_mem_nil, or_false]
  grind

/-! ## The list -/

/-- A field that has to be there and is not. -/
def missing (place : List String) (kind field : String) (value : Option String) : List Violation :=
  if value = none then [.missingField (placeText place) kind field] else []

/-- An action that is there and is not spelled as one. -/
def misspelled (place : List String) (action : Option String) : List Violation :=
  match action with
  | some spec => if Action.Spelled spec then [] else [.invalidAction (placeText place) spec]
  | none => []

mutual

/-- What is wrong with what the entry at a place holds. Only a directory's children count. -/
def Entry.faults (place : List String) : Entry → List Violation
  | ⟨_, kind, children, path, content, window, action⟩ =>
    match Role.ofKind kind with
    | .directory => Entry.violations place [] children
    | .shortcut => missing place kind "window" window
    | .executable => missing place kind "action" action ++ misspelled place action
    | .text => missing place kind "content" content
    | .pdf | .image => missing place kind "path" path
    | .other => []

/-- What is wrong with the entries at a place, behind siblings with the names in `earlier`. -/
def Entry.violations (place : List String) (earlier : List String) : List Entry → List Violation
  | [] => []
  | e :: es =>
    (if Unusable e.name then [.invalidName (placeText place) e.name] else []) ++
      (e.faults (place ++ [e.name]) ++
        ((if e.name ∈ earlier then [.duplicateName (placeText place) e.name] else []) ++
          Entry.violations place (earlier ++ [e.name]) es))

end

/-- Everything that is wrong with a manifest, from the front. -/
def Manifest.violations (m : Manifest) : List Violation := Entry.violations [] [] m.root

/-- The violation that a result reports. -/
def violation? {α : Type} : Except Violation α → Option Violation
  | .ok _ => none
  | .error v => some v

/-! ## What building reports -/

namespace Entry

theorem violation?_bind_ok {α β : Type} (r : Except Violation α) (f : α → β) :
    violation? (r >>= fun a => .ok (f a)) = violation? r := by
  cases r <;> rfl

theorem violation?_require (place : List String) (kind field : String) (value : Option String) :
    violation? (require (placeText place) kind field value) =
      (missing place kind field value).head? := by
  cases value <;> rfl

theorem violation?_executableNode (place : List String) (spec : String) :
    violation? (executableNode (placeText place) spec) = (misspelled place (some spec)).head? := by
  unfold executableNode misspelled
  cases hparse : Action.parse? spec with
  | some action =>
    have hspelled : Action.Spelled spec := Action.isSome_parse?_iff.mp (by simp [hparse])
    simp [hspelled, violation?]
  | none =>
    have hnot : ¬Action.Spelled spec := by
      rw [← Action.isSome_parse?_iff, hparse]
      simp
    simp [hnot, violation?]

mutual

/-- Building the node of an entry reports the first thing that is wrong with what the entry holds. -/
theorem violation?_node (place : List String) : ∀ e : Entry,
    violation? (node (placeText place) e) = (e.faults place).head?
  | ⟨name, kind, children, path, content, window, action⟩ => by
    rw [node_eq]
    simp only [role, faults]
    cases Role.ofKind kind with
    | directory => exact (violation?_bind_ok _ _).trans (violation?_members place children .empty)
    | shortcut => exact (violation?_bind_ok _ _).trans (violation?_require ..)
    | executable =>
      cases action with
      | none => rfl
      | some spec => exact violation?_executableNode place spec
    | text => exact (violation?_bind_ok _ _).trans (violation?_require ..)
    | pdf => exact (violation?_bind_ok _ _).trans (violation?_require ..)
    | image => exact (violation?_bind_ok _ _).trans (violation?_require ..)
    | other => rfl

/-- Building the members of a directory reports the first thing that is wrong with an entry, given
the names that are taken by then. -/
theorem violation?_members (place : List String) : ∀ (es : List Entry) (d : Directory),
    violation? (members (placeText place) d es) = (violations place d.names es).head?
  | [], d => rfl
  | e :: es, d => by
    simp only [members, violations]
    by_cases hname : Unusable e.name
    · rw [isValidName_eq_false_iff.mpr hname]
      simp [hname, violation?]
    · have hvalid : isValidName e.name = true := by
        simpa using mt isValidName_eq_false_iff.mp hname
      have hnode := violation?_node (place ++ [e.name]) e
      rw [placeText_append] at hnode
      rw [hvalid, if_neg hname, List.nil_append, List.head?_append, ← hnode]
      cases node (placeText place ++ "/" ++ e.name) e with
      | error v => rfl
      | ok n =>
        by_cases htaken : e.name ∈ d.names
        · simp [Directory.insert_of_mem htaken, htaken, violation?]
        · obtain ⟨d', hinsert, hnames⟩ := Directory.insert_of_not_mem htaken n
          have hrest := violation?_members place es d'
          rw [hnames] at hrest
          simpa [hinsert, htaken, violation?] using hrest

end

/-! ## Children that nobody looks at -/

mutual

/-- The entry without the children that a type other than a directory's has no use for. -/
def prune : Entry → Entry
  | ⟨name, kind, children, path, content, window, action⟩ =>
    ⟨name, kind, if Role.ofKind kind = .directory then pruneAll children else [], path, content,
      window, action⟩

def pruneAll : List Entry → List Entry
  | [] => []
  | e :: es => e.prune :: pruneAll es

end

theorem prune_name (e : Entry) : e.prune.name = e.name := by
  obtain ⟨name, kind, children, path, content, window, action⟩ := e
  rfl

mutual

theorem node_prune (path : String) : ∀ e : Entry, node path e.prune = node path e
  | ⟨name, kind, children, asset, content, window, action⟩ => by
    rw [node_eq, node_eq]
    simp only [prune, role]
    cases hrole : Role.ofKind kind with
    | directory =>
      rw [if_pos rfl]
      exact congrArg (· >>= _) (members_pruneAll path children .empty)
    | shortcut => rfl
    | executable => rfl
    | text => rfl
    | pdf => rfl
    | image => rfl
    | other => rfl

theorem members_pruneAll (path : String) : ∀ (es : List Entry) (d : Directory),
    members path d (pruneAll es) = members path d es
  | [], d => rfl
  | e :: es, d => by
    have hrest : ∀ d', members path d' (pruneAll es) = members path d' es := members_pruneAll path es
    simp only [pruneAll, members, prune_name, node_prune, hrest]

end

end Entry

def Manifest.prune (m : Manifest) : Manifest := ⟨Entry.pruneAll m.root⟩

theorem Tree.violation?_ofManifest (m : Manifest) :
    violation? (ofManifest m) = m.violations.head? := by
  have hroot : violation? (Entry.members rootName .empty m.root) = m.violations.head? :=
    Entry.violation?_members [] m.root .empty
  rw [← hroot, ofManifest]
  cases Entry.members rootName .empty m.root <;> rfl

/-- **A manifest is accepted exactly when nothing is wrong with it**, and otherwise refused for the
first thing that is. The children of entries that are no directories make no difference. -/
theorem Tree.ofManifest_violations (m : Manifest) :
    ((∃ t, ofManifest m = .ok t) ↔ m.violations = []) ∧
    (∀ v, ofManifest m = .error v ↔ m.violations.head? = some v) ∧
    ofManifest m.prune = ofManifest m := by
  have hfirst := violation?_ofManifest m
  refine ⟨?_, ?_, ?_⟩
  · rw [← List.head?_eq_none_iff, ← hfirst]
    cases ofManifest m <;> simp [violation?]
  · intro v
    rw [← hfirst]
    cases ofManifest m <;> simp [violation?]
  · simp only [ofManifest, Manifest.prune, Entry.members_pruneAll]

/-- A directory that comes twice is refused for what its second coming holds. -/
example :
    (Manifest.mk
      [ { name := "a", kind := "dir" }
      , { name := "a", kind := "dir", children := [{ name := "b", kind := "pdf" }] } ]).violations =
    [.missingField "root/a/b" "pdf" "path", .duplicateName "root" "a"] := by
  decide

end PocketDesk
