import Mathlib.Data.List.Forall2
import Mathlib.Data.List.Induction
import PocketDesk.Proofs.Manifest.Role
import PocketDesk.Proofs.Tree.Lookup

/-! # The tree is a copy of its manifest

A manifest read without building it puts its entries under locations: the root's at
the root, and the children of an entry that is a directory under its name. Building
keeps just that. A location of the tree holds what the entry there prescribes, no
other location holds anything, and a directory lists its entries in their order. -/

namespace PocketDesk

/-- The entries `es` stand under the location: every name on the way is that of a directory. -/
inductive Manifest.Under (m : Manifest) : Location → List Entry → Prop
  | root : Under m .root m.root
  | inside {l : Location} {es : List Entry} {e : Entry} (h : Under m l es) (he : e ∈ es)
      (hdir : e.role = .directory) : Under m (l.push e.name) e.children

/-- The style in which nodes of a role are listed. -/
def Role.style : Role → EntryStyle
  | .directory => .directory
  | .shortcut => .shortcut
  | .executable => .executable
  | .pdf => .pdf
  | .image => .image
  | .text | .other => .file

namespace Entry

/-- The node is what the type of the entry asks for. What a directory holds is told by its entries. -/
def Prescribes (e : Entry) (n : Node) : Prop :=
  match e.role with
  | .directory => n.isDirectory = true
  | .shortcut => ∃ window, e.window = some window ∧ n = .shortcut ⟨window⟩
  | .executable => ∃ action : Action, e.action = some action.text ∧ n = .executable action
  | .text => ∃ content, e.content = some content ∧ n = .file .text content
  | .pdf => ∃ asset, e.path = some asset ∧ n = .file .pdf asset
  | .image => ∃ asset, e.path = some asset ∧ n = .file .image asset
  | .other => n = .file (.other e.kind) ((e.path.or e.content).getD "")

def listed (e : Entry) : ListEntry := ⟨e.name, e.role.style⟩

/-- The member that an entry was made into, under whatever place it was built. -/
def Becomes (e : Entry) (member : String × Node) : Prop :=
  e.name = member.1 ∧ ∃ path, node path e = .ok member.2

/-! ## One entry -/

theorem require_node_eq_ok_iff {path kind field : String} {value : Option String}
    {f : String → Node} {n : Node} :
    (require path kind field value >>= fun text => .ok (f text)) = .ok n ↔
      ∃ text, value = some text ∧ n = f text := by
  rw [require_bind_eq_ok_iff]
  simp only [Except.ok.injEq, eq_comm]

theorem nodeAs_directory_eq_ok_iff {path : String} {e : Entry} {n : Node} :
    e.nodeAs path .directory = .ok n ↔
      ∃ d, members path .empty e.children = .ok d ∧ n = .directory d.members := by
  rw [nodeAs]
  cases members path .empty e.children with
  | error v => simp [bind, Except.bind]
  | ok d => simp [bind, Except.bind, eq_comm]

theorem prescribes_of_node {path : String} {e : Entry} {n : Node} (h : node path e = .ok n) :
    e.Prescribes n := by
  rw [node_eq] at h
  unfold Prescribes
  cases hrole : e.role with
  | directory =>
    rw [hrole] at h
    obtain ⟨d, -, rfl⟩ := nodeAs_directory_eq_ok_iff.mp h
    rfl
  | executable =>
    rw [hrole] at h
    obtain ⟨spec, hspec, h⟩ := require_bind_eq_ok_iff.mp h
    unfold executableNode at h
    cases hparse : Action.parse? spec with
    | none => rw [hparse] at h; cases h
    | some action =>
      rw [hparse] at h
      obtain ⟨rfl, -⟩ := Action.parse?_eq_some_iff.mp hparse
      exact ⟨action, hspec, (Except.ok.inj h).symm⟩
  | shortcut => rw [hrole] at h; exact require_node_eq_ok_iff.mp h
  | text => rw [hrole] at h; exact require_node_eq_ok_iff.mp h
  | pdf => rw [hrole] at h; exact require_node_eq_ok_iff.mp h
  | image => rw [hrole] at h; exact require_node_eq_ok_iff.mp h
  | other => rw [hrole] at h; exact (Except.ok.inj h).symm

/-- The style of the node is told by the role, so a directory stands for a directory only. -/
theorem Prescribes.style {e : Entry} {n : Node} (h : e.Prescribes n) : n.style = e.role.style := by
  unfold Prescribes at h
  cases hrole : e.role with
  | directory =>
    rw [hrole] at h
    cases n with
    | directory members => rfl
    | file kind content => cases h
    | shortcut window => cases h
    | executable action => cases h
  | shortcut => rw [hrole] at h; obtain ⟨window, -, rfl⟩ := h; rfl
  | executable => rw [hrole] at h; obtain ⟨action, -, rfl⟩ := h; rfl
  | text => rw [hrole] at h; obtain ⟨content, -, rfl⟩ := h; rfl
  | pdf => rw [hrole] at h; obtain ⟨asset, -, rfl⟩ := h; rfl
  | image => rw [hrole] at h; obtain ⟨asset, -, rfl⟩ := h; rfl
  | other => rw [hrole] at h; subst h; rfl

/-- A directory is found where the entry is one, and holds what the children were made into. -/
theorem asDirectory?_of_node {path : String} {e : Entry} {n : Node} (h : node path e = .ok n)
    {d : Directory} : n.asDirectory? = some d ↔
      e.role = .directory ∧ members path .empty e.children = .ok d := by
  constructor
  · intro hd
    cases n with
    | directory ms =>
      obtain rfl := Option.some.inj hd
      have hrole : e.role = .directory := by
        have hstyle := (prescribes_of_node h).style
        revert hstyle
        cases e.role <;> simp [Node.style, Role.style]
      rw [node_eq, hrole] at h
      obtain ⟨d, hmembers, hd⟩ := nodeAs_directory_eq_ok_iff.mp h
      obtain rfl := Node.directory.inj hd
      exact ⟨hrole, hmembers⟩
    | file kind content => cases hd
    | shortcut window => cases hd
    | executable action => cases hd
  · rintro ⟨hrole, hmembers⟩
    rw [node_eq, hrole] at h
    obtain ⟨d', hmembers', rfl⟩ := nodeAs_directory_eq_ok_iff.mp h
    obtain rfl := Except.ok.inj (hmembers'.symm.trans hmembers)
    rfl

/-! ## The entries of one directory -/

/-- Each entry adds one member, at the end. -/
theorem members_eq_ok {path : String} {es : List Entry} {d d' : Directory}
    (h : members path d es = .ok d') :
    ∃ added, d'.members = d.members ++ added ∧ List.Forall₂ Becomes es added := by
  induction es generalizing d with
  | nil =>
    obtain rfl := Except.ok.inj h
    exact ⟨[], by simp, .nil⟩
  | cons e es ih =>
    obtain ⟨-, n, next, hn, hinsert, hrest⟩ := members_cons_eq_ok_iff.mp h
    obtain ⟨-, rfl⟩ := Directory.insert_eq_ok_iff.mp hinsert
    obtain ⟨added, hd', hadded⟩ := ih hrest
    exact ⟨(e.name, n) :: added, by simp [hd'], .cons ⟨rfl, _, hn⟩ hadded⟩

/-- The members of a directory that was built from nothing. -/
theorem becomes_of_members {path : String} {es : List Entry} {d : Directory}
    (h : members path .empty es = .ok d) : List.Forall₂ Becomes es d.members := by
  obtain ⟨added, hd, hadded⟩ := members_eq_ok h
  rw [hd]
  exact hadded

section Built

variable {es : List Entry} {ms : List (String × Node)} (h : List.Forall₂ Becomes es ms)
include h

theorem exists_member_of_mem {e : Entry} (he : e ∈ es) : ∃ member ∈ ms, e.Becomes member := by
  induction h with
  | nil => cases he
  | cons hfirst hrest ih =>
    rcases List.mem_cons.mp he with rfl | he
    · exact ⟨_, List.mem_cons_self, hfirst⟩
    · obtain ⟨member, hmember, hbecomes⟩ := ih he
      exact ⟨member, List.mem_cons_of_mem _ hmember, hbecomes⟩

theorem exists_entry_of_mem {member : String × Node} (hmember : member ∈ ms) :
    ∃ e ∈ es, e.Becomes member := by
  induction h with
  | nil => cases hmember
  | cons hfirst hrest ih =>
    rcases List.mem_cons.mp hmember with rfl | hmember
    · exact ⟨_, List.mem_cons_self, hfirst⟩
    · obtain ⟨e, he, hbecomes⟩ := ih hmember
      exact ⟨e, List.mem_cons_of_mem _ he, hbecomes⟩

theorem names_eq_map_name : ms.map Prod.fst = es.map name := by
  induction h with
  | nil => rfl
  | cons hfirst hrest ih => rw [List.map_cons, List.map_cons, ih, hfirst.1]

theorem listing_eq_map_listed : Directory.listing ⟨ms⟩ = es.map listed := by
  induction h with
  | nil => rfl
  | @cons e member es ms hfirst hrest ih =>
    obtain ⟨hname, path, hnode⟩ := hfirst
    have hlisted : (⟨member.1, member.2.style⟩ : ListEntry) = e.listed := by
      rw [listed, hname, (prescribes_of_node hnode).style]
    exact congrArg₂ List.cons hlisted ih

end Built

section Members

variable {path : String} {es : List Entry} {d : Directory} (h : members path .empty es = .ok d)
include h

theorem nodup_names_of_members : d.names.Nodup := by
  cases wellFormed_of_members path es Directory.wellFormed_empty h with
  | directory nodup valid below => exact nodup

/-- Each entry is found under its name. -/
theorem exists_get?_of_mem {e : Entry} (he : e ∈ es) :
    ∃ n, d.get? e.name = some n ∧ e.Becomes (e.name, n) := by
  obtain ⟨⟨name, n⟩, hmember, rfl, hnode⟩ := exists_member_of_mem (becomes_of_members h) he
  exact ⟨n, (Directory.get?_eq_some_iff (nodup_names_of_members h)).mpr hmember, rfl, hnode⟩

/-- Whatever is found comes from an entry. -/
theorem exists_entry_of_get? {name : String} {n : Node} (hn : d.get? name = some n) :
    ∃ e ∈ es, e.Becomes (name, n) :=
  exists_entry_of_mem (becomes_of_members h)
    ((Directory.get?_eq_some_iff (nodup_names_of_members h)).mp hn)

end Members

end Entry

/-! ## The whole tree -/

namespace Tree

variable {m : Manifest} {t : Tree}

/-- The entries under a location were built into the directory there. -/
theorem directory?_of_under (h : ofManifest m = .ok t) {l : Location} {es : List Entry}
    (hes : m.Under l es) :
    ∃ d path, t.directory? l = some d ∧ Entry.members path .empty es = .ok d := by
  induction hes with
  | root => exact ⟨t.root, rootName, directory?_root t, members_root_of_ofManifest h⟩
  | @inside l es e hes he hdir ih =>
    obtain ⟨d, path, hd, hbuilt⟩ := ih
    obtain ⟨n, hget, -, way, hnode⟩ := Entry.exists_get?_of_mem hbuilt he
    have hisdir := Entry.prescribes_of_node hnode
    unfold Entry.Prescribes at hisdir
    rw [hdir] at hisdir
    obtain ⟨dn, hdn⟩ := Option.isSome_iff_exists.mp hisdir
    refine ⟨dn, way, ?_, ((Entry.asDirectory?_of_node hnode).mp hdn).2⟩
    rw [directory?, get?_push, hd, Option.bind_some, hget, Option.bind_some, hdn]

/-- A directory of the tree was built from the entries under its location. -/
theorem exists_under_of_directory? (h : ofManifest m = .ok t) {l : Location} {d : Directory}
    (hd : t.directory? l = some d) :
    ∃ es path, m.Under l es ∧ Entry.members path .empty es = .ok d := by
  obtain ⟨names⟩ := l
  induction names using List.reverseRecOn generalizing d with
  | nil =>
    obtain rfl := Option.some.inj ((directory?_root t).symm.trans hd)
    exact ⟨m.root, rootName, .root, members_root_of_ofManifest h⟩
  | append_singleton names name ih =>
    have hpush : t.directory? (Location.push ⟨names⟩ name) = some d := hd
    rw [directory?, get?_push, Option.bind_assoc] at hpush
    obtain ⟨above, habove, hpush⟩ := Option.bind_eq_some_iff.mp hpush
    obtain ⟨n, hn, hnd⟩ := Option.bind_eq_some_iff.mp hpush
    obtain ⟨es, path, hes, hbuilt⟩ := ih habove
    obtain ⟨e, he, rfl, way, hnode⟩ := Entry.exists_entry_of_get? hbuilt hn
    obtain ⟨hrole, hchildren⟩ := (Entry.asDirectory?_of_node hnode).mp hnd
    exact ⟨e.children, way, .inside hes he hrole, hchildren⟩

/-- **The tree of an accepted manifest is a copy of it.** Every entry is found under its location
as what its type prescribes, no other location has a node but the root, the directories are those
under which entries stand, and they list these entries in their order, each name once. -/
theorem copy_of_ofManifest (h : ofManifest m = .ok t) :
    (∀ l es e, m.Under l es → e ∈ es → ∃ n, t.get? (l.push e.name) = some n ∧ e.Prescribes n) ∧
    (∀ l n, t.get? l = some n →
      l = .root ∨ ∃ above es e, m.Under above es ∧ e ∈ es ∧ l = above.push e.name) ∧
    (∀ l entries, t.list? l = some entries ↔ ∃ es, m.Under l es ∧ entries = es.map Entry.listed) ∧
    (∀ l es, m.Under l es → (es.map Entry.name).Nodup) := by
  refine ⟨?_, ?_, ?_, ?_⟩
  · intro l es e hes he
    obtain ⟨d, path, hd, hbuilt⟩ := directory?_of_under h hes
    obtain ⟨n, hget, -, way, hnode⟩ := Entry.exists_get?_of_mem hbuilt he
    refine ⟨n, ?_, Entry.prescribes_of_node hnode⟩
    rw [get?_push, hd, Option.bind_some, hget]
  · rintro ⟨names⟩ n hn
    rcases List.eq_nil_or_concat names with rfl | ⟨above, name, rfl⟩
    · exact .inl rfl
    · have hpush : t.get? (Location.push ⟨above⟩ name) = some n := by simpa [Location.push] using hn
      rw [get?_push] at hpush
      obtain ⟨d, hd, hn⟩ := Option.bind_eq_some_iff.mp hpush
      obtain ⟨es, path, hes, hbuilt⟩ := exists_under_of_directory? h hd
      obtain ⟨e, he, rfl, -⟩ := Entry.exists_entry_of_get? hbuilt hn
      exact .inr ⟨⟨above⟩, es, e, hes, he, by simp [Location.push]⟩
  · intro l entries
    constructor
    · intro hlist
      obtain ⟨d, hd, rfl⟩ := Option.map_eq_some_iff.mp hlist
      obtain ⟨es, path, hes, hbuilt⟩ := exists_under_of_directory? h hd
      exact ⟨es, hes, Entry.listing_eq_map_listed (Entry.becomes_of_members hbuilt)⟩
    · rintro ⟨es, hes, rfl⟩
      obtain ⟨d, path, hd, hbuilt⟩ := directory?_of_under h hes
      rw [list?, hd, Option.map_some]
      exact congrArg some (Entry.listing_eq_map_listed (Entry.becomes_of_members hbuilt))
  · intro l es hes
    obtain ⟨d, path, hd, hbuilt⟩ := directory?_of_under h hes
    rw [← Entry.names_eq_map_name (Entry.becomes_of_members hbuilt)]
    exact Entry.nodup_names_of_members hbuilt

def programs : Entry where
  name := "bin"
  kind := "dir"
  children :=
    [ { name := "clock", kind := "exec", action := some "toggle:clock" }
    , { name := "notes", kind := "draft", content := some "later" } ]

/-- A directory in a directory, and in it an executable and a file of a type without a name. -/
def nested : Manifest :=
  ⟨[ { name := "usr", kind := "directory", children := [programs] }
   , { name := "readme", kind := "text", content := some "hello" } ]⟩

def nestedCopy : Tree :=
  ⟨⟨[ ("usr", .directory
        [ ("bin", .directory
            [ ("clock", .executable (.toggleWindow ⟨"clock"⟩))
            , ("notes", .file (.other "draft") "later") ]) ])
    , ("readme", .file .text "hello") ]⟩⟩

theorem copy_of_nested :
    ofManifest nested = .ok nestedCopy ∧
    nestedCopy.list? ⟨["usr", "bin"]⟩ = some [⟨"clock", .executable⟩, ⟨"notes", .file⟩] := by
  have hbuilt : ofManifest nested = .ok nestedCopy := rfl
  have husr : nested.Under ⟨["usr"]⟩ [programs] := .inside .root List.mem_cons_self rfl
  have hbin : nested.Under ⟨["usr", "bin"]⟩ programs.children := .inside husr List.mem_cons_self rfl
  obtain ⟨-, -, hlist, -⟩ := copy_of_ofManifest hbuilt
  exact ⟨hbuilt, (hlist _ _).mpr ⟨_, hbin, rfl⟩⟩

end Tree

end PocketDesk
