import PocketDesk.Proofs.Terminal.Going
import PocketDesk.Proofs.Terminal.Listed

/-! # Typing what a listing shows

Behind a verb the terminal takes one word and leaves the rest. A listed name that is one
word is therefore taken whole, and both verbs act on the node that was listed. A manifest
may have names with blanks as well. They are found under a path like any other, but the
terminal only gets their first word. -/

namespace PocketDesk.Shell

variable {H : Type} [WindowHost H] {s : Shell}

/-- The first word of a name is the name itself exactly when no blank stands in it. -/
theorem firstWord?_eq_self_iff {name : String} (hname : name ≠ "") :
    Text.firstWord? name = some name ↔ ∀ c ∈ name.toList, Text.isBlank c = false :=
  ⟨fun h => Text.not_isBlank_of_firstWord? h, fun h => Text.firstWord?_eq_self h hname⟩

/-- What comes of a line that opens an entry of the listing where the session stands: the line that
the entry's node calls for, and the requests that it calls for and no others. -/
structure ActsOn (s : Shell) (line : String) (host : H) (e : ListEntry) : Prop where
  opens : ∃ node printed, s.tree.get? (s.current.push e.name) = some node ∧
    e.style.Opens host e.name node printed (s.submit line (Watched.of host)).2.requests ∧
    (s.submit line host).1.log = s.log.extend [.command s.prompt line, printed]
  stays : (s.submit line host).1.current = s.current
  replays : (s.submit line host).2 =
    Request.replayAll (s.submit line (Watched.of host)).2.requests host
  finds : ∀ path, .error ("open: " ++ path ++ ": No such file or directory") ∉ s.added line host

section Listed

variable {d : Directory} (hd : s.tree.directory? s.current = some d) {name : String}
  (hn : Path.IsPlain name) (hblank : ∀ c ∈ name.toList, Text.isBlank c = false) {node : Node}
  (hnode : d.get? name = some node) (host : H)
include hd hn hblank hnode

/-- A member's name behind `open` acts on the member. -/
theorem actsOn_of_get? : s.ActsOn ("open " ++ name) host ⟨name, node.style⟩ := by
  have hline := asked?_openPath hblank hn.1
  have hrun : ∀ {K : Type} [WindowHost K] (k : K),
      (Command.openPath (some name)).execute s.tree s.current k = Command.openNode node name k :=
    fun k => Command.execute_openPath_of_get? hd hn hnode k
  obtain ⟨printed, hopens, hprints⟩ := Command.openNode_opens node name host
  have hsame : (Command.openNode node name host).1 = .line printed := by
    have hwatched := (Command.execute_watched (.openPath (some name)) s.tree s.current host).1
    rw [hrun, hrun, hprints] at hwatched
    exact hwatched.symm
  have hsubmit := submit_of_asked hline s host
  rw [hrun, hsame] at hsubmit
  refine ⟨⟨node, printed, ?_, ?_, ?_⟩, ?_, ?_, ?_⟩
  · rw [Tree.get?_push, hd, Option.bind_some, hnode]
  · rw [submit_of_asked hline, hrun]
    exact hopens
  · rw [hsubmit, log_follow_echo s _ rfl]
    rfl
  · rw [hsubmit]
    rfl
  · exact (submitAll_watched s ["open " ++ name] host).2.2.symm
  · intro path
    have hparse : InputLine.parse? ("open " ++ name) = some ⟨"open", some name⟩ := by
      have hverb : ∀ c ∈ "open".toList, Text.isBlank c = false := by simp [Text.isBlank]
      exact InputLine.parse?_verb_argument hverb (by decide) hblank hn.1
    exact notFound_not_mem_added hparse (by simp) (Tree.resolve_of_get? hd hn hnode) host path

/-- A directory's name behind `cd` enters the directory. -/
theorem goes_of_get? (hstyle : node.style = .directory) :
    s.Goes ("cd " ++ name) host (s.current.push name) := by
  have hget : s.tree.get? (s.current.push name) = some node := by
    rw [Tree.get?_push, hd, Option.bind_some, hnode]
  rw [goes_changeDirectory_iff name hblank hn.1, hn.normalize, Tree.isDirectory_of_get? hget,
    Node.isDirectory_iff_style]
  exact ⟨rfl, hstyle⟩

end Listed

/-- **What a listing shows can be typed**, if it is one word. On a tree that was loaded, wherever a
session stands and whatever its host, `ls` prints a listing; of every entry's name, a line that
opens it or changes to it takes the first word. That is the name itself exactly when no blank
stands in it, and then `open` acts on the entry, and `cd` enters it if it is a directory. -/
theorem listed_word_can_be_typed {text : String} {tree : Tree} (ht : Tree.ofJson text = .ok tree)
    (hs : Reachable tree s) (host : H) :
    ∃ entries, (s.submit "ls" host).1.log =
        (s.log.push (.command s.prompt "ls")).push (.listing entries) ∧
      ∀ e ∈ entries,
        asked? ("open " ++ e.name) = some (.openPath (Text.firstWord? e.name)) ∧
        asked? ("cd " ++ e.name) = some (.changeDirectory (Text.firstWord? e.name)) ∧
        (Text.firstWord? e.name = some e.name ↔ ∀ c ∈ e.name.toList, Text.isBlank c = false) ∧
        ((∀ c ∈ e.name.toList, Text.isBlank c = false) →
          s.ActsOn ("open " ++ e.name) host e ∧
          (e.style = .directory → s.Goes ("cd " ++ e.name) host (s.current.push e.name))) := by
  obtain rfl := hs.tree_eq
  have hls : asked? "ls" = some .list := by decide
  obtain ⟨entries, hlist, hlog⟩ := hs.log_submit_list hls host
  obtain ⟨d, hd, rfl⟩ := Option.map_eq_some_iff.mp hlist
  have hwf := (Tree.wellFormed_of_ofJson ht).directory? hd
  refine ⟨d.listing, hlog, ?_⟩
  rintro ⟨name, style⟩ he
  obtain ⟨node, hnode, rfl⟩ := (Directory.mem_listing_iff hwf.nodup_names).mp he
  have hname : name ∈ d.names := Directory.isSome_get?_iff.mp (by rw [hnode]; rfl)
  have hplain := hwf.isPlain hname
  refine ⟨asked?_open name, asked?_cd name, firstWord?_eq_self_iff hplain.1, ?_⟩
  intro hblank
  exact ⟨actsOn_of_get? hd hplain hblank hnode host, goes_of_get? hd hplain hblank hnode host⟩

def deskText : String :=
  "\x7b\"root\":[\x7b\"name\":\"old notes\",\"type\":\"dir\"\x7d," ++
    "\x7b\"name\":\"scan.pdf\",\"type\":\"pdf\",\"path\":\"s.pdf\"\x7d]\x7d"

def deskManifest : Manifest :=
  ⟨[{ name := "old notes", kind := "dir" },
    { name := "scan.pdf", kind := "pdf", path := some "s.pdf" }]⟩

def desk : Tree := ⟨⟨[("old notes", .directory []), ("scan.pdf", .file .pdf "s.pdf")]⟩⟩

theorem ofJson_deskText : Tree.ofJson deskText = .ok desk := by
  have hread : Manifest.ofJson deskText = .ok deskManifest := by cbv
  have hbuild : Tree.ofManifest deskManifest = .ok desk := rfl
  simp only [Tree.ofJson, hread, hbuild]

theorem listed_word_can_be_typed_on_the_desk :
    let s := Shell.start desk
    Tree.ofJson deskText = .ok desk ∧ Reachable desk s ∧
      s.ActsOn "open scan.pdf" Recorder.empty ⟨"scan.pdf", .pdf⟩ ∧
      asked? "open old notes" = some (.openPath (some "old")) := by
  intro s
  have hs : Reachable desk s := .start
  obtain ⟨entries, hlog, htyped⟩ := listed_word_can_be_typed ofJson_deskText hs Recorder.empty
  have hlisted : (s.submit "ls" Recorder.empty).1.log.last? =
      some (.listing [⟨"old notes", .directory⟩, ⟨"scan.pdf", .pdf⟩]) := by decide
  rw [hlog, Log.last?_push] at hlisted
  obtain rfl := Line.listing.inj (Option.some.inj hlisted)
  obtain ⟨hnotes, hscan⟩ := List.forall_mem_cons.mp htyped
  obtain ⟨-, -, -, hacts⟩ := hscan ⟨"scan.pdf", .pdf⟩ (List.mem_singleton_self _)
  have hword : ∀ c ∈ "scan.pdf".toList, Text.isBlank c = false := by simp [Text.isBlank]
  have hfirst : Text.firstWord? "old notes" = some "old" := by decide
  have hasked := hnotes.1
  rw [hfirst] at hasked
  exact ⟨ofJson_deskText, hs, (hacts hword).1, hasked⟩

/-- **A name of two words cannot be typed.** The listing shows a directory, and neither verb finds
it. -/
theorem listed_words_are_not_typed :
    let s := Shell.start desk
    Tree.ofJson deskText = .ok desk ∧ Reachable desk s ∧
      (s.submit "ls" Recorder.empty).1.log.last? =
        some (.listing [⟨"old notes", .directory⟩, ⟨"scan.pdf", .pdf⟩]) ∧
      (s.added "open old notes" Recorder.empty).getLast? =
        some (.error "open: old: No such file or directory") ∧
      (s.added "cd old notes" Recorder.empty).getLast? =
        some (.error "cd: old: No such file or directory") ∧
      (s.submit "cd old notes" Recorder.empty).1.current ≠ ⟨["old notes"]⟩ :=
  ⟨ofJson_deskText, .start, by decide, by decide, by decide, by decide⟩

end PocketDesk.Shell
