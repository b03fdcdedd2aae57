import PocketDesk.Desktop.Recorder
import PocketDesk.Proofs.Terminal.Outcome
import PocketDesk.Proofs.Tree.Path

/-! # Where a session can stand

A session starts at the root and moves only where a command found a directory, so
it always stands in a directory of its tree. What the session was put through
does not matter: the lines, the hosts they were submitted to, and the walks
through the history are arbitrary. In a tree that was built from a manifest the
names on the way are then valid, listing never comes back with nothing, and
going up always works. -/

namespace PocketDesk

namespace Shell

/-- What a session can be asked. Completing a buffer only answers. -/
inductive Call where
  | submit (line : String)
  | previous
  | next
  | complete (buffer : String)
  deriving DecidableEq, Repr

def Call.apply {H : Type} [WindowHost H] : Call → Shell → H → Shell × H
  | .submit line, s, host => s.submit line host
  | .previous, s, host => (s.previous.2, host)
  | .next, s, host => (s.next.2, host)
  | .complete _, s, host => (s, host)

/-- The sessions that calls can lead to, each made with a host of its own. -/
inductive Reachable (tree : Tree) : Shell → Prop
  | start : Reachable tree (.start tree)
  | call {s : Shell} {H : Type} [WindowHost H] (c : Call) (host : H) (hs : Reachable tree s) :
      Reachable tree (c.apply s host).1

theorem Call.tree_apply {H : Type} [WindowHost H] (c : Call) (s : Shell) (host : H) :
    (c.apply s host).1.tree = s.tree := by
  cases c with
  | submit line => exact tree_submit s line host
  | previous => rfl
  | next => rfl
  | complete buffer => rfl

/-- One call keeps a session on directories. -/
theorem Call.isDirectory_apply {H : Type} [WindowHost H] (c : Call) {s : Shell} (host : H)
    (h : s.tree.isDirectory s.current = true) :
    s.tree.isDirectory (c.apply s host).1.current = true := by
  cases c with
  | submit line =>
    rcases current_submit s line host with hsame | ⟨command, hgo⟩
    · exact (congrArg s.tree.isDirectory hsame).trans h
    · exact Command.isDirectory_of_navigate hgo
  | previous => exact h
  | next => exact h
  | complete buffer => exact h

theorem Reachable.tree_eq {tree : Tree} {s : Shell} (hs : Reachable tree s) : s.tree = tree := by
  induction hs with
  | start => rfl
  | call c host _ ih => rw [Call.tree_apply, ih]

theorem Reachable.isDirectory {tree : Tree} {s : Shell} (hs : Reachable tree s) :
    tree.isDirectory s.current = true := by
  induction hs with
  | start => exact Tree.isDirectory_root tree
  | call c host hs ih =>
    have htree := hs.tree_eq
    rw [← htree] at ih ⊢
    exact c.isDirectory_apply host ih

/-- Listing where a session stands prints one line, the listing of that directory. -/
theorem Reachable.log_submit_list {tree : Tree} {s : Shell} (hs : Reachable tree s) {H : Type}
    [WindowHost H] {line : String} (hline : asked? line = some .list) (host : H) :
    ∃ entries, tree.list? s.current = some entries ∧
      (s.submit line host).1.log =
        (s.log.push (.command s.prompt line)).push (.listing entries) := by
  obtain ⟨entries, hentries⟩ := Tree.list?_of_isDirectory hs.isDirectory
  refine ⟨entries, hentries, ?_⟩
  rw [submit_of_asked hline, hs.tree_eq]
  simp only [Command.execute, Command.runList, hentries]
  rfl

/-- Changing to a directory goes there, and prints nothing. -/
theorem submit_changeDirectory {s : Shell} {H : Type} [WindowHost H] {line path : String}
    (hline : asked? line = some (.changeDirectory (some path)))
    (hdir : s.tree.isDirectory (Path.normalize s.current path) = true) (host : H) :
    (s.submit line host).1.current = Path.normalize s.current path ∧
      (s.submit line host).1.log = s.log.push (.command s.prompt line) := by
  rcases Command.runChangeDirectory_cases s.tree s.current path with ⟨e, -, hnot⟩ | ⟨hrun, -⟩
  · cases hnot.symm.trans hdir
  · rw [submit_of_asked hline]
    simp only [Command.execute, hrun]
    exact ⟨rfl, rfl⟩

/-- Going up, or nowhere, works wherever a session stands. -/
theorem Reachable.isDirectory_normalize {tree : Tree} {s : Shell} (hs : Reachable tree s)
    {path : String} (hdots : Path.OnlyDots path) :
    s.tree.isDirectory (Path.normalize s.current path) = true := by
  rw [hs.tree_eq]
  exact Tree.isDirectory_of_isPrefix hs.isDirectory (hdots.normalize_isPrefix s.current)

/-- **Where a session stands.** On a tree that a manifest gave, or on the empty one, whatever the
session was asked and whatever hosts it was given: the root's name stands first in its location and
no name that a path expression treats apart stands behind it; every location on the way, and the
location itself, is a directory. So listing prints exactly one listing, and a path of slashes, `.`
and `..` is always followed, without a complaint. -/
theorem standing_of_reachable {tree : Tree} {s : Shell}
    (ht : (∃ text, Tree.ofJson text = .ok tree) ∨ tree = .empty) (hs : Reachable tree s) :
    s.current.segments.head? = some "root" ∧
    (∀ name ∈ s.current.segments.tail, name ≠ "root" ∧ name ≠ "" ∧ name ≠ "." ∧ name ≠ ".." ∧
      '/' ∉ name.toList) ∧
    (∀ names, names <+: s.current.below → tree.isDirectory ⟨names⟩ = true) ∧
    (∀ (H : Type) [WindowHost H] (line : String) (host : H), asked? line = some .list →
      ∃ entries, tree.list? s.current = some entries ∧
        (s.submit line host).1.log =
          (s.log.push (.command s.prompt line)).push (.listing entries)) ∧
    (∀ (H : Type) [WindowHost H] (line path : String) (host : H),
      asked? line = some (.changeDirectory (some path)) → Path.OnlyDots path →
      (s.submit line host).1.current = Path.normalize s.current path ∧
        (s.submit line host).1.log = s.log.push (.command s.prompt line)) ∧
    asked? "ls" = some .list ∧
    (∀ path, path ≠ "" → Path.OnlyDots path →
      asked? ("cd " ++ path) = some (.changeDirectory (some path))) := by
  have hwf : tree.WellFormed := by
    rcases ht with ⟨text, ht⟩ | rfl
    · exact Tree.wellFormed_of_ofJson ht
    · exact Tree.wellFormed_empty
  refine ⟨rfl, ?_, ?_, ?_, ?_, ?_, ?_⟩
  · intro name hname
    obtain ⟨n, hn, -⟩ := Tree.isDirectory_iff.mp hs.isDirectory
    obtain ⟨hempty, hslash, hdot, hup, hroot⟩ :=
      isValidName_iff.mp (hwf.isValidName_of_get? hn name hname)
    exact ⟨hroot, hempty, hdot, hup, hslash⟩
  · intro names hnames
    exact Tree.isDirectory_of_isPrefix hs.isDirectory hnames
  · intro H _ line host hline
    exact hs.log_submit_list hline host
  · intro H _ line path host hline hdots
    exact submit_changeDirectory hline (hs.isDirectory_normalize hdots) host
  · decide
  · intro path hpath hdots
    exact asked?_changeDirectory hdots.not_isBlank hpath

/-- A directory inside a directory. -/
def twoLevels : Tree := ⟨⟨[("a", .directory [("b", .directory [])])]⟩⟩

def twoLevelsManifest : Manifest :=
  ⟨[{ name := "a", kind := "dir", children := [{ name := "b", kind := "directory" }] }]⟩

def twoLevelsText : String :=
  "\x7b\"root\":[\x7b\"name\":\"a\",\"type\":\"dir\",\"children\":" ++
    "[\x7b\"name\":\"b\",\"type\":\"directory\"\x7d]\x7d]\x7d"

theorem standing_two_levels_down :
    let s := (Call.apply (.submit "cd a/b") (.start twoLevels) Recorder.empty).1
    (∃ text, Tree.ofJson text = .ok twoLevels) ∧ Reachable twoLevels s ∧
      s.current = ⟨["a", "b"]⟩ ∧ twoLevels.isDirectory ⟨["a"]⟩ = true ∧
      (s.submit "cd ./.." Recorder.empty).1.current = ⟨["a"]⟩ := by
  intro s
  have hread : Manifest.ofJson twoLevelsText = .ok twoLevelsManifest := by cbv
  have hbuild : Tree.ofManifest twoLevelsManifest = .ok twoLevels := rfl
  have ht : ∃ text, Tree.ofJson text = .ok twoLevels :=
    ⟨twoLevelsText, by simp only [Tree.ofJson, hread, hbuild]⟩
  have hs : Reachable twoLevels s := .call _ _ .start
  have hdown : asked? "cd a/b" = some (.changeDirectory (some "a/b")) := by decide
  have hcurrent : s.current = ⟨["a", "b"]⟩ := by
    change ((Shell.start twoLevels).submit "cd a/b" Recorder.empty).1.current = _
    rw [submit_of_asked hdown]
    decide
  obtain ⟨-, -, hprefix, -, hcd, -, -⟩ := standing_of_reachable (.inl ht) hs
  have hdots : Path.OnlyDots "./.." := by decide
  have hline : asked? "cd ./.." = some (.changeDirectory (some "./..")) := by decide
  have hup := (hcd Recorder "cd ./.." "./.." Recorder.empty hline hdots).1
  have hnormal : Path.normalize ⟨["a", "b"]⟩ "./.." = ⟨["a"]⟩ := by decide
  rw [hcurrent] at hprefix hup
  exact ⟨ht, hs, hcurrent, hprefix ["a"] ⟨["b"], rfl⟩, hup.trans hnormal⟩

end Shell

end PocketDesk
