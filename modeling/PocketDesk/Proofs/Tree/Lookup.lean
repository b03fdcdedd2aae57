import Mathlib.Data.List.Nodup
import PocketDesk.Proofs.Tree.Path
import PocketDesk.Proofs.Tree.WellFormed

/-! # Locations that the tree has

Looking up goes through directories, so whatever stands above a location that is
found is a directory. In a well-formed tree every name of a location that is
found is valid: the root's own name, the empty name and the names that a path
expression treats apart do not occur in it. -/

namespace PocketDesk

theorem Directory.mem_members_of_get? {d : Directory} {name : String} {n : Node}
    (h : d.get? name = some n) : (name, n) ∈ d.members := by
  obtain ⟨before, after, hmembers, -⟩ := List.lookup_eq_some_iff.mp h
  simp [hmembers]

theorem Directory.isSome_get?_iff {d : Directory} {name : String} :
    (d.get? name).isSome = true ↔ name ∈ d.names := by
  cases h : d.get? name with
  | none => simp [Directory.get?_eq_none_iff.mp h]
  | some n =>
    have hname : (name, n) ∈ d.members := mem_members_of_get? h
    exact iff_of_true rfl (List.mem_map_of_mem (f := Prod.fst) hname)

/-- Under distinct names the first match is the only one. -/
theorem Directory.get?_eq_some_iff {d : Directory} (hd : d.names.Nodup) {name : String} {n : Node} :
    d.get? name = some n ↔ (name, n) ∈ d.members := by
  constructor
  · exact mem_members_of_get?
  · intro h
    obtain ⟨before, after, hmembers⟩ := List.append_of_mem h
    refine List.lookup_eq_some_iff.mpr ⟨before, after, hmembers, ?_⟩
    intro p hp
    rw [names, hmembers, List.map_append, List.map_cons, List.nodup_middle, List.nodup_cons] at hd
    have hne : name ≠ p.1 := by
      rintro rfl
      exact hd.1 (List.mem_append_left _ (List.mem_map.mpr ⟨p, hp, rfl⟩))
    simpa using hne

theorem Directory.WellFormed.nodup_names {d : Directory} (hd : d.WellFormed) : d.names.Nodup := by
  cases hd with
  | directory nodup valid below => exact nodup

/-- A path expression takes a valid name as it stands. -/
theorem isPlain_of_isValidName {name : String} (h : isValidName name = true) :
    Path.IsPlain name := by
  obtain ⟨hempty, hslash, hdot, hup, -⟩ := isValidName_iff.mp h
  exact ⟨hempty, hslash, hdot, hup⟩

theorem Directory.WellFormed.isPlain {d : Directory} (hd : d.WellFormed) {name : String}
    (h : name ∈ d.names) : Path.IsPlain name := by
  cases hd with
  | directory nodup valid below =>
    obtain ⟨m, hm, rfl⟩ := List.mem_map.mp h
    exact isPlain_of_isValidName (valid m hm)

namespace Node

theorem descend?_cons (n : Node) (name : String) (names : List String) :
    n.descend? (name :: names) =
      (n.asDirectory?.bind fun d => d.get? name).bind fun m => m.descend? names := by
  cases n with
  | directory members =>
    simp only [descend?, asDirectory?, Option.bind_some]
    cases Directory.get? ⟨members⟩ name <;> rfl
  | file kind content => rfl
  | shortcut window => rfl
  | executable action => rfl

theorem descend?_append (n : Node) (first second : List String) :
    n.descend? (first ++ second) = (n.descend? first).bind fun m => m.descend? second := by
  induction first generalizing n with
  | nil => simp [descend?]
  | cons name names ih =>
    rw [List.cons_append, descend?_cons, descend?_cons, funext ih]
    exact (Option.bind_assoc ..).symm

/-- Only a directory has something below it. -/
theorem isDirectory_of_descend?_cons {n m : Node} {name : String} {names : List String}
    (h : n.descend? (name :: names) = some m) : n.isDirectory = true := by
  rw [descend?_cons] at h
  obtain ⟨k, hk, -⟩ := Option.bind_eq_some_iff.mp h
  obtain ⟨d, hd, -⟩ := Option.bind_eq_some_iff.mp hk
  simp [isDirectory, hd]

/-- A member of a well-formed directory has a valid name and is well-formed. -/
theorem WellFormed.member {n m : Node} {d : Directory} {name : String} (hn : n.WellFormed)
    (hd : n.asDirectory? = some d) (hm : d.get? name = some m) :
    isValidName name = true ∧ m.WellFormed := by
  cases hn with
  | @directory members nodup valid below =>
    obtain rfl := Option.some.inj hd
    have hmem : (name, m) ∈ members := Directory.mem_members_of_get? hm
    exact ⟨valid _ hmem, below _ hmem⟩
  | file kind content => cases hd
  | shortcut window => cases hd
  | executable action => cases hd

/-- What is found in a well-formed node was found under valid names, and is well-formed. -/
theorem WellFormed.descend? {n m : Node} {names : List String} (hn : n.WellFormed)
    (h : n.descend? names = some m) :
    (∀ name ∈ names, isValidName name = true) ∧ m.WellFormed := by
  induction names generalizing n with
  | nil =>
    obtain rfl : n = m := by simpa [Node.descend?] using h
    exact ⟨by simp, hn⟩
  | cons name names ih =>
    rw [descend?_cons] at h
    obtain ⟨k, hk, h⟩ := Option.bind_eq_some_iff.mp h
    obtain ⟨d, hd, hk⟩ := Option.bind_eq_some_iff.mp hk
    obtain ⟨hname, hwf⟩ := hn.member hd hk
    obtain ⟨hnames, hm⟩ := ih hwf h
    exact ⟨List.forall_mem_cons.mpr ⟨hname, hnames⟩, hm⟩

end Node

namespace Tree

variable {t : Tree} {l : Location}

theorem isDirectory_iff :
    t.isDirectory l = true ↔ ∃ n, t.get? l = some n ∧ n.isDirectory = true := by
  simp [isDirectory, directory?, Node.isDirectory, Option.isSome_bind, Option.any_eq_true]

theorem isDirectory_root (t : Tree) : t.isDirectory .root = true :=
  isDirectory_iff.mpr ⟨t.rootNode, get?_root t, rfl⟩

/-- One name further is one lookup in the directory there. -/
theorem get?_push (t : Tree) (l : Location) (name : String) :
    t.get? (l.push name) = (t.directory? l).bind fun d => d.get? name := by
  have hlast : ∀ n : Node, n.descend? [name] = n.asDirectory?.bind fun d => d.get? name := by
    intro n
    rw [Node.descend?_cons]
    exact Option.bind_fun_some _
  simp only [get?, directory?, Location.push, Node.descend?_append, hlast, Option.bind_assoc]

theorem directory?_root (t : Tree) : t.directory? .root = some t.root := by
  simp [directory?, get?_root, rootNode, Node.asDirectory?]

/-- Every location on the way to a directory is a directory. -/
theorem isDirectory_of_isPrefix (h : t.isDirectory l = true) {names : List String}
    (hp : names <+: l.below) : t.isDirectory ⟨names⟩ = true := by
  obtain ⟨n, hn, hdir⟩ := isDirectory_iff.mp h
  obtain ⟨rest, hrest⟩ := hp
  rw [get?, ← hrest, Node.descend?_append] at hn
  obtain ⟨m, hm, hn⟩ := Option.bind_eq_some_iff.mp hn
  refine isDirectory_iff.mpr ⟨m, hm, ?_⟩
  cases rest with
  | nil =>
    obtain rfl : m = n := by simpa [Node.descend?] using hn
    exact hdir
  | cons name names => exact Node.isDirectory_of_descend?_cons hn

/-- In a well-formed tree only valid names lead anywhere. -/
theorem WellFormed.isValidName_of_get? (ht : t.WellFormed) {n : Node} (h : t.get? l = some n) :
    ∀ name ∈ l.below, isValidName name = true :=
  (Node.WellFormed.descend? ht h).1

/-- A directory of a well-formed tree is well-formed. -/
theorem WellFormed.directory? (ht : t.WellFormed) {d : Directory}
    (hd : t.directory? l = some d) : d.WellFormed := by
  obtain ⟨n, hn, hdir⟩ := Option.bind_eq_some_iff.mp hd
  have hwf := (Node.WellFormed.descend? ht hn).2
  cases n with
  | directory members =>
    obtain rfl := Option.some.inj hdir
    exact hwf
  | file kind content => cases hdir
  | shortcut window => cases hdir
  | executable action => cases hdir

/-- Resolving an expression is looking up the location it names. -/
theorem resolve_of_get?_eq_some {current : Location} {expression : String} {n : Node}
    (h : t.get? (Path.normalize current expression) = some n) :
    t.resolve current expression = .ok (n, Path.normalize current expression) := by
  simp [resolve, h]

theorem resolve_of_get?_eq_none {current : Location} {expression : String}
    (h : t.get? (Path.normalize current expression) = none) :
    t.resolve current expression = .error ⟨expression⟩ := by
  simp [resolve, h]

theorem resolve_of_isAbsolute {expression : String} (h : Path.isAbsolute expression = true)
    (current other : Location) : t.resolve current expression = t.resolve other expression := by
  rw [resolve, resolve, Path.normalize_of_isAbsolute h current other]

theorem exists_resolve_iff {current : Location} {expression : String} :
    (∃ found, t.resolve current expression = .ok found) ↔
      (t.get? (Path.normalize current expression)).isSome = true := by
  cases h : t.get? (Path.normalize current expression) with
  | none => simp [resolve_of_get?_eq_none h]
  | some n => simp [resolve_of_get?_eq_some h]

/-- A name resolves behind the path of a directory exactly when the directory has it. -/
theorem exists_resolve_append_name {directory : List Char} {name : String} {current : Location}
    (hd : ∀ c, directory.getLast? = some c → (c == '/') = true) (hn : Path.IsPlain name) :
    (∃ found, t.resolve current (String.ofList directory ++ name) = .ok found) ↔
      ∃ d, t.directory? (Path.normalize current (String.ofList directory)) = some d ∧
        name ∈ d.names := by
  rw [exists_resolve_iff, Path.normalize_append_name hd hn, get?_push, Option.isSome_bind,
    Option.any_eq_true]
  simp only [Directory.isSome_get?_iff]

theorem isDirectory_of_get? {n : Node} (h : t.get? l = some n) :
    t.isDirectory l = n.isDirectory := by
  simp [isDirectory, directory?, h, Node.isDirectory]

theorem list?_of_isDirectory (h : t.isDirectory l = true) : ∃ entries, t.list? l = some entries := by
  obtain ⟨d, hd⟩ := Option.isSome_iff_exists.mp h
  exact ⟨d.listing, by simp [list?, hd]⟩

end Tree

end PocketDesk
