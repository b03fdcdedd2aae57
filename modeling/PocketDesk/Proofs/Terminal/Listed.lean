import PocketDesk.Desktop.Recorder
import PocketDesk.Proofs.Manifest.Copy
import PocketDesk.Proofs.Terminal.Completed

/-! # What a listing says of `cd` and `open`

The listing of a directory, the way of a path and the handling of what it leads to
look at the same nodes on three different occasions. Under distinct names they see
the same: what is listed is found, what is found is listed, and the style in which a
name is listed says what `cd` and `open` will do with it. -/

namespace PocketDesk

/-! ## Entries of a listing -/

/-- Under distinct names an entry shows the one node of its name, in its style. -/
theorem Directory.mem_listing_iff {d : Directory} (hd : d.names.Nodup) {name : String}
    {style : EntryStyle} :
    ⟨name, style⟩ ∈ d.listing ↔ ∃ node, d.get? name = some node ∧ node.style = style := by
  simp only [Directory.get?_eq_some_iff hd, listing, List.mem_map, Prod.exists, ListEntry.mk.injEq]
  constructor
  · rintro ⟨_, node, hmem, rfl, hstyle⟩
    exact ⟨node, hmem, hstyle⟩
  · rintro ⟨node, hmem, hstyle⟩
    exact ⟨name, node, hmem, rfl, hstyle⟩

theorem Node.isDirectory_iff_style {node : Node} :
    node.isDirectory = true ↔ node.style = .directory := by
  cases node with
  | directory members => exact iff_of_true rfl rfl
  | shortcut window => exact iff_of_false nofun nofun
  | executable action => exact iff_of_false nofun nofun
  | file kind content => cases kind <;> exact iff_of_false nofun nofun

namespace Tree

variable {t : Tree} {l : Location} {d : Directory} {name : String} (hd : t.directory? l = some d)
  (hn : Path.IsPlain name)
include hd hn

/-- A name resolves in a directory to what the directory has under it. -/
theorem resolve_of_get? {node : Node} (h : d.get? name = some node) :
    t.resolve l name = .ok (node, l.push name) := by
  have hget : t.get? (Path.normalize l name) = some node := by
    rw [hn.normalize, get?_push, hd, Option.bind_some, h]
  rw [resolve_of_get?_eq_some hget, hn.normalize]

theorem resolve_of_not_mem (h : name ∉ d.names) : t.resolve l name = .error ⟨name⟩ := by
  refine resolve_of_get?_eq_none ?_
  rw [hn.normalize, get?_push, hd, Option.bind_some, Directory.get?_eq_none_iff.mpr h]

end Tree

/-! ## Opening by style -/

/-- The request that an action makes of a host. -/
def Action.request {H : Type} [WindowHost H] (host : H) : Action → Request
  | .openWindow w => .openWindow w none
  | .toggleWindow w => .toggleWindow w
  | .toggleEffect e => .toggleEffect e (WindowHost.toggleEffect e host).1

/-- What opening a node comes to that is listed under a name in a style: the line that is printed
and the requests that are made. -/
inductive EntryStyle.Opens {H : Type} [WindowHost H] (host : H) (name : String) :
    EntryStyle → Node → Line → List Request → Prop
  | directory (members : List (String × Node)) :
      Opens host name .directory (.directory members)
        (.error ("open: " ++ name ++ ": Is a directory")) []
  | shortcut (window : WindowId) :
      Opens host name .shortcut (.shortcut window) (.muted ("Launching " ++ name ++ "..."))
        [.openWindow window none]
  | executable (action : Action) :
      Opens host name .executable (.executable action) (.muted ("Executing " ++ name ++ "..."))
        [action.request host]
  | pdf (asset : String) :
      Opens host name .pdf (.file .pdf asset) (.muted ("Opening PDF: " ++ name ++ "..."))
        [.openWindow ⟨"pdf"⟩ (some ⟨name, asset⟩)]
  | image (asset : String) :
      Opens host name .image (.file .image asset) (.muted ("Opening Image: " ++ name ++ "..."))
        [.openWindow ⟨"image"⟩ (some ⟨name, asset⟩)]
  | text (content : String) :
      Opens host name .file (.file .text content) (.text content) []
  | unsupported (kind content : String) :
      Opens host name .file (.file (.other kind) content)
        (.error ("Cannot open file type: " ++ kind)) []

namespace Command

variable {H : Type} [WindowHost H]

/-- **The style decides** what opening a node comes to. -/
theorem openNode_opens (node : Node) (name : String) (host : H) :
    ∃ line, node.style.Opens host name node line (openNode node name (Watched.of host)).2.requests ∧
      (openNode node name (Watched.of host)).1 = .line line := by
  cases node with
  | directory members => exact ⟨_, .directory members, rfl⟩
  | shortcut window => exact ⟨_, .shortcut window, rfl⟩
  | executable action => cases action <;> exact ⟨_, .executable _, rfl⟩
  | file kind content =>
    cases kind with
    | pdf => exact ⟨_, .pdf content, rfl⟩
    | image => exact ⟨_, .image content, rfl⟩
    | text => exact ⟨_, .text content, rfl⟩
    | other kind => exact ⟨_, .unsupported kind content, rfl⟩

/-! ## The three commands in one directory -/

section InDirectory

variable {tree : Tree} {l : Location} {d : Directory} {name : String}
  (hd : tree.directory? l = some d) (hn : Path.IsPlain name)
include hd

theorem execute_list (host : H) : list.execute tree l host = (.line (.listing d.listing), host) := by
  have hlist : tree.list? l = some d.listing := by rw [Tree.list?, hd, Option.map_some]
  simp only [execute, runList, hlist]

include hn

/-- `cd` enters what is listed as a directory, and complains of everything else that is there. -/
theorem execute_changeDirectory_of_get? {node : Node} (h : d.get? name = some node) (host : H) :
    (changeDirectory (some name)).execute tree l host =
      (if node.style = .directory then .goTo (l.push name)
        else .line (.error ("cd: " ++ name ++ ": Not a directory")), host) := by
  simp only [execute, runChangeDirectory, Tree.resolve_of_get? hd hn h, Node.isDirectory_iff_style]
  rfl

theorem execute_openPath_of_get? {node : Node} (h : d.get? name = some node) (host : H) :
    (openPath (some name)).execute tree l host = openNode node name host := by
  simp only [execute, runOpen, Tree.resolve_of_get? hd hn h]

theorem execute_changeDirectory_of_not_mem (h : name ∉ d.names) (host : H) :
    (changeDirectory (some name)).execute tree l host =
      (.line (.error ("cd: " ++ name ++ ": No such file or directory")), host) := by
  simp only [execute, runChangeDirectory, Tree.resolve_of_not_mem hd hn h]
  rfl

theorem execute_openPath_of_not_mem (h : name ∉ d.names) (host : H) :
    (openPath (some name)).execute tree l host =
      (.line (.error ("open: " ++ name ++ ": No such file or directory")), host) := by
  simp only [execute, runOpen, Tree.resolve_of_not_mem hd hn h]
  rfl

/-- `cd` goes where the name is listed as a directory, and nowhere else. -/
theorem navigate_changeDirectory_iff (hnodup : d.names.Nodup) (host : H) (target : Location) :
    ((changeDirectory (some name)).execute tree l host).1.navigate = some target ↔
      target = l.push name ∧ ⟨name, .directory⟩ ∈ d.listing := by
  by_cases hname : name ∈ d.names
  · obtain ⟨node, hnode⟩ := Option.isSome_iff_exists.mp (Directory.isSome_get?_iff.mpr hname)
    have hlisted : ⟨name, .directory⟩ ∈ d.listing ↔ node.style = .directory := by
      simp [Directory.mem_listing_iff hnodup, hnode]
    rw [execute_changeDirectory_of_get? hd hn hnode, hlisted]
    by_cases hstyle : node.style = .directory
    · simp [Outcome.goTo, hstyle, eq_comm]
    · simp [Outcome.line, hstyle]
  · have hunlisted : ⟨name, .directory⟩ ∉ d.listing := by
      intro hlisted
      rw [← d.map_name_listing] at hname
      exact hname (List.mem_map_of_mem hlisted)
    rw [execute_changeDirectory_of_not_mem hd hn hname]
    refine iff_of_false (fun hnowhere => ?_) fun h => hunlisted h.2
    cases hnowhere

end InDirectory

variable {tree : Tree} {l : Location} {d : Directory} {name : String}

/-- Neither command misses a name exactly when the directory has it; otherwise both do. -/
theorem misses_iff (hd : tree.directory? l = some d) (hn : Path.IsPlain name) (host : H) :
    (.error ("open: " ++ name ++ ": No such file or directory") ∈
        ((openPath (some name)).execute tree l host).1.output ↔ name ∉ d.names) ∧
      (.error ("cd: " ++ name ++ ": No such file or directory") ∈
        ((changeDirectory (some name)).execute tree l host).1.output ↔ name ∉ d.names) := by
  by_cases hname : name ∈ d.names
  · obtain ⟨node, hnode⟩ := Option.isSome_iff_exists.mp (Directory.isSome_get?_iff.mpr hname)
    have hfound := Tree.resolve_of_get? hd hn hnode
    have hverbs : "open" ∈ ["cd", "open"] ∧ "cd" ∈ ["cd", "open"] := by simp
    have hopen := notFound_not_mem_output hverbs.1 hfound host name
    have hcd := notFound_not_mem_output hverbs.2 hfound host name
    exact ⟨iff_of_false hopen (not_not_intro hname), iff_of_false hcd (not_not_intro hname)⟩
  · rw [execute_openPath_of_not_mem hd hn hname, execute_changeDirectory_of_not_mem hd hn hname]
    exact ⟨iff_of_true (List.mem_singleton_self _) hname,
      iff_of_true (List.mem_singleton_self _) hname⟩

/-- **`ls`, `cd` and `open` agree about a directory.** In a tree that a manifest gave, in every
directory and for every name that a path takes as it stands: `ls` lists the name exactly when
neither of the others misses it, and what one of these misses the other does too. `cd` goes to
where the name is listed as a directory, and nowhere else; of any other style it complains that
this is not a directory. And the style says what `open` comes to with the node that is there. None
of this but `open` asks the host for anything. A name without blanks can be typed behind either
verb. -/
theorem agree_about_a_directory {m : Manifest} (ht : Tree.ofManifest m = .ok tree)
    (hl : tree.isDirectory l = true) (hn : Path.IsPlain name) (host : H) :
    let opened := (openPath (some name)).execute tree l (Watched.of host)
    let changed := (changeDirectory (some name)).execute tree l (Watched.of host)
    let openMisses := .error ("open: " ++ name ++ ": No such file or directory") ∈ opened.1.output
    let cdMisses := .error ("cd: " ++ name ++ ": No such file or directory") ∈ changed.1.output
    ∃ entries, list.execute tree l host = (.line (.listing entries), host) ∧
      (name ∈ entries.map ListEntry.name ↔ ¬ openMisses ∧ ¬ cdMisses) ∧
      (openMisses ↔ cdMisses) ∧
      (∀ target, changed.1.navigate = some target ↔
        target = l.push name ∧ ⟨name, .directory⟩ ∈ entries) ∧
      (∀ style, ⟨name, style⟩ ∈ entries → style ≠ .directory →
        changed.1 = .line (.error ("cd: " ++ name ++ ": Not a directory"))) ∧
      changed.2.requests = [] ∧
      (∀ style, ⟨name, style⟩ ∈ entries → ∃ node line, tree.get? (l.push name) = some node ∧
        style.Opens host name node line opened.2.requests ∧ opened.1 = .line line) ∧
      ((∀ c ∈ name.toList, Text.isBlank c = false) →
        Shell.asked? ("open " ++ name) = some (openPath (some name)) ∧
        Shell.asked? ("cd " ++ name) = some (changeDirectory (some name))) := by
  intro opened changed openMisses cdMisses
  obtain ⟨d, hd⟩ := Option.isSome_iff_exists.mp hl
  have hnodup := ((Tree.wellFormed_of_ofManifest ht).directory? hd).nodup_names
  obtain ⟨hopen, hcd⟩ := misses_iff hd hn (Watched.of host)
  have hentry : ∀ style, ⟨name, style⟩ ∈ d.listing →
      ∃ node, d.get? name = some node ∧ node.style = style :=
    fun style => (Directory.mem_listing_iff hnodup).mp
  refine ⟨d.listing, execute_list hd host, ?_, hopen.trans hcd.symm, ?_, ?_, ?_, ?_, ?_⟩
  · rw [d.map_name_listing, hopen.not, hcd.not, not_not, and_self]
  · exact fun target => navigate_changeDirectory_iff hd hn hnodup (Watched.of host) target
  · intro style hstyle hne
    obtain ⟨node, hnode, rfl⟩ := hentry style hstyle
    simp only [changed, execute_changeDirectory_of_get? hd hn hnode, if_neg hne]
  · rfl
  · intro style hstyle
    obtain ⟨node, hnode, rfl⟩ := hentry style hstyle
    obtain ⟨line, hopens, hprints⟩ := openNode_opens node name host
    refine ⟨node, line, ?_, ?_, ?_⟩
    · rw [Tree.get?_push, hd, Option.bind_some, hnode]
    · simpa only [opened, execute_openPath_of_get? hd hn hnode] using hopens
    · simpa only [opened, execute_openPath_of_get? hd hn hnode] using hprints
  · intro hblank
    exact ⟨Shell.asked?_openPath hblank hn.1, Shell.asked?_changeDirectory hblank hn.1⟩

theorem agree_about_a_clock :
    let bin : Location := ⟨["usr", "bin"]⟩
    let host := Watched.of Recorder.empty
    Tree.ofManifest Tree.nested = .ok Tree.nestedCopy ∧
      Tree.nestedCopy.isDirectory bin = true ∧ Path.IsPlain "clock" ∧
      ((changeDirectory (some "clock")).execute Tree.nestedCopy bin host).1 =
        .line (.error "cd: clock: Not a directory") ∧
      ((openPath (some "clock")).execute Tree.nestedCopy bin host).2.requests =
        [.toggleWindow ⟨"clock"⟩] := by
  intro bin host
  have hbuilt : Tree.ofManifest Tree.nested = .ok Tree.nestedCopy := rfl
  have hbin : Tree.nestedCopy.isDirectory bin = true := rfl
  have hplain : Path.IsPlain "clock" := by unfold Path.IsPlain; decide
  obtain ⟨entries, hlist, -, -, -, hcd, -, hopen, -⟩ :=
    agree_about_a_directory hbuilt hbin hplain Recorder.empty
  have hlisted : list.execute Tree.nestedCopy bin Recorder.empty =
      (.line (.listing [⟨"clock", .executable⟩, ⟨"notes", .file⟩]), Recorder.empty) := rfl
  have hline := congrArg (fun outcome => outcome.1.output) (hlist.symm.trans hlisted)
  obtain rfl := Line.listing.inj (List.singleton_inj.mp hline)
  have hclock : (⟨"clock", .executable⟩ : ListEntry) ∈
      [⟨"clock", .executable⟩, (⟨"notes", .file⟩ : ListEntry)] := by decide
  obtain ⟨node, line, hnode, hopens, -⟩ := hopen .executable hclock
  have hfound : Tree.nestedCopy.get? (bin.push "clock") =
      some (.executable (.toggleWindow ⟨"clock"⟩)) := rfl
  obtain rfl := Option.some.inj (hnode.symm.trans hfound)
  refine ⟨hbuilt, hbin, hplain, hcd .executable hclock (by decide), ?_⟩
  generalize ((openPath (some "clock")).execute Tree.nestedCopy bin host).2.requests = requests
    at hopens ⊢
  cases hopens with
  | executable action => rfl

end Command

end PocketDesk
