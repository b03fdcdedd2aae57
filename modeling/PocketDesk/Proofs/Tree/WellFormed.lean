import PocketDesk.Manifest.Building
import PocketDesk.Proofs.Tree.Insertion

/-! # Trees that were built from a manifest

Building refuses an entry whose name a path expression could not address, and a
second entry of one name. So every directory of a built tree, at any depth, has
distinct valid names: the tree is well-formed. What is found under a location of
such a tree was found under valid names only, and is well-formed again. -/

namespace PocketDesk

theorem isValidName_iff {name : String} :
    isValidName name = true ↔
      name ≠ "" ∧ '/' ∉ name.toList ∧ name ≠ "." ∧ name ≠ ".." ∧ name ≠ rootName := by
  simp [isValidName, and_assoc]

/-- Distinct valid names in every directory below. -/
inductive Node.WellFormed : Node → Prop
  | directory {members : List (String × Node)} (nodup : (members.map Prod.fst).Nodup)
      (valid : ∀ m ∈ members, isValidName m.1 = true) (below : ∀ m ∈ members, m.2.WellFormed) :
      WellFormed (.directory members)
  | file (kind : FileKind) (content : String) : WellFormed (.file kind content)
  | shortcut (window : WindowId) : WellFormed (.shortcut window)
  | executable (action : Action) : WellFormed (.executable action)

def Directory.WellFormed (d : Directory) : Prop := (Node.directory d.members).WellFormed

def Tree.WellFormed (t : Tree) : Prop := t.root.WellFormed

/-! ## Building -/

theorem Directory.wellFormed_empty : Directory.empty.WellFormed :=
  .directory (by simp [Directory.empty]) (by simp [Directory.empty]) (by simp [Directory.empty])

/-- A valid new name keeps a directory well-formed. -/
theorem Directory.WellFormed.insert {d e : Directory} {name : String} {n : Node}
    (hd : d.WellFormed) (hname : isValidName name = true) (hn : n.WellFormed)
    (h : d.insert name n = .ok e) : e.WellFormed := by
  cases hd with
  | directory nodup valid below =>
    have hnames : e.names.Nodup := Directory.nodup_names_of_insert nodup h
    obtain ⟨-, rfl⟩ := Directory.insert_eq_ok_iff.mp h
    refine .directory hnames ?_ ?_
    · intro m hm
      rcases List.mem_append.mp hm with hm | hm
      · exact valid m hm
      · obtain rfl : m = (name, n) := by simpa using hm
        exact hname
    · intro m hm
      rcases List.mem_append.mp hm with hm | hm
      · exact below m hm
      · obtain rfl : m = (name, n) := by simpa using hm
        exact hn

namespace Entry

/-- What follows a part that is asked for succeeds only where the part is present. -/
theorem require_bind_eq_ok_iff {α : Type} {path kind field : String} {value : Option String}
    {f : String → Except Violation α} {a : α} :
    (require path kind field value >>= f) = .ok a ↔ ∃ text, value = some text ∧ f text = .ok a := by
  cases value <;> simp [require, bind, Except.bind]

/-- What one entry takes: a valid name, a node, and no sibling of that name. -/
theorem members_cons_eq_ok_iff {path : String} {e : Entry} {es : List Entry} {d d' : Directory} :
    members path d (e :: es) = .ok d' ↔
      isValidName e.name = true ∧ ∃ n next, node (path ++ "/" ++ e.name) e = .ok n ∧
        d.insert e.name n = .ok next ∧ members path next es = .ok d' := by
  simp only [members]
  cases isValidName e.name with
  | false => simp
  | true =>
    cases node (path ++ "/" ++ e.name) e with
    | error v => simp
    | ok n =>
      cases hinsert : d.insert e.name n with
      | error back => simp [hinsert]
      | ok next => simp [hinsert]

/-- An entry of any other kind than a directory gives a node without members. -/
theorem wellFormed_of_leaf {e : Entry} {path : String} {n : Node} (h : e.leaf path = .ok n) :
    n.WellFormed := by
  cases n with
  | file kind content => exact .file kind content
  | shortcut window => exact .shortcut window
  | executable action => exact .executable action
  | directory members =>
    unfold leaf at h
    split at h
    · obtain ⟨window, -, h⟩ := require_bind_eq_ok_iff.mp h
      cases h
    · obtain ⟨spec, -, h⟩ := require_bind_eq_ok_iff.mp h
      split at h <;> cases h
    · obtain ⟨spec, -, h⟩ := require_bind_eq_ok_iff.mp h
      split at h <;> cases h
    · split at h
      · obtain ⟨content, -, h⟩ := require_bind_eq_ok_iff.mp h
        cases h
      · cases h
      · obtain ⟨asset, -, h⟩ := require_bind_eq_ok_iff.mp h
        cases h

mutual

theorem wellFormed_of_node (path : String) : ∀ (e : Entry) {n : Node},
    node path e = .ok n → n.WellFormed
  | ⟨name, kind, children, asset, content, window, action⟩, n, h => by
    simp only [node] at h
    split at h
    · split at h
      · cases h
      · next d hd =>
        obtain rfl := Except.ok.inj h
        exact wellFormed_of_members path children Directory.wellFormed_empty hd
    · exact wellFormed_of_leaf h

theorem wellFormed_of_members (path : String) : ∀ (es : List Entry) {d d' : Directory},
    d.WellFormed → members path d es = .ok d' → d'.WellFormed
  | [], d, d', hd, h => by
    obtain rfl := Except.ok.inj h
    exact hd
  | e :: es, d, d', hd, h => by
    obtain ⟨hname, n, next, hn, hinsert, hrest⟩ := members_cons_eq_ok_iff.mp h
    have hnext := hd.insert hname (wellFormed_of_node _ e hn) hinsert
    exact wellFormed_of_members path es hnext hrest

end

end Entry

namespace Tree

theorem wellFormed_empty : Tree.empty.WellFormed := Directory.wellFormed_empty

theorem members_root_of_ofManifest {m : Manifest} {t : Tree} (h : ofManifest m = .ok t) :
    Entry.members rootName .empty m.root = .ok t.root := by
  unfold ofManifest at h
  split at h
  · cases h
  · next d hd =>
    obtain rfl := Except.ok.inj h
    exact hd

theorem wellFormed_of_ofManifest {m : Manifest} {t : Tree} (h : ofManifest m = .ok t) :
    t.WellFormed :=
  Entry.wellFormed_of_members rootName m.root Directory.wellFormed_empty
    (members_root_of_ofManifest h)

theorem wellFormed_of_ofJson {text : String} {t : Tree} (h : ofJson text = .ok t) :
    t.WellFormed := by
  unfold ofJson at h
  split at h
  · cases h
  · split at h
    · cases h
    · next t' ht =>
      obtain rfl := Except.ok.inj h
      exact wellFormed_of_ofManifest ht

end Tree

end PocketDesk
