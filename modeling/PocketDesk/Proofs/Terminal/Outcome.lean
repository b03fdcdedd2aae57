import PocketDesk.Proofs.Terminal.Hosts
import PocketDesk.Proofs.Tree.Lookup

/-! # What one command may do

A command prints one line, goes somewhere, clears the log, or does nothing of these,
and it never does two of them. Only `cd` goes, only `clear` clears, and only a handful of
commands make a request of the desktop, which is then the only one. All that a command
may print is told once, kind by kind. A complaint is a whole outcome: whoever complains
has asked the desktop for nothing. -/

namespace PocketDesk

/-- The line tells of a failure, or of how a command is used. -/
def Line.isComplaint : Line → Bool
  | .error _ | .warning _ => true
  | _ => false

/-- The line that tells whether the matrix is on. -/
def matrixStatus (active : Bool) : Line :=
  .success (if active then matrixEnabled else matrixDisabled)

namespace Command

variable {H : Type} [WindowHost H] {tree : Tree} {current : Location} {host : H}

/-! ## Doing one thing -/

/-- Opening prints one line, whatever comes of it. -/
theorem openNode_prints (node : Node) (path : String) (host : H) :
    ∃ line, (openNode node path host).1 = .line line := by
  cases node with
  | file kind content => cases kind <;> exact ⟨_, rfl⟩
  | directory members => exact ⟨_, rfl⟩
  | shortcut window => exact ⟨_, rfl⟩
  | executable action => exact ⟨_, rfl⟩

theorem runOpen_prints (tree : Tree) (current : Location) (path : String) (host : H) :
    ∃ line, (runOpen tree current path host).1 = .line line := by
  unfold runOpen
  split
  · exact ⟨_, rfl⟩
  · exact openNode_prints _ path host

/-- `cd` fails, or it goes to the directory that its path names. -/
theorem runChangeDirectory_cases (tree : Tree) (current : Location) (path : String) :
    (∃ e, runChangeDirectory tree current path = .failure e ∧
        tree.isDirectory (Path.normalize current path) = false) ∨
      runChangeDirectory tree current path = .goTo (Path.normalize current path) ∧
        tree.isDirectory (Path.normalize current path) = true := by
  unfold runChangeDirectory
  cases hn : tree.get? (Path.normalize current path) with
  | none =>
    rw [Tree.resolve_of_get?_eq_none hn]
    exact .inl ⟨_, rfl, by simp [Tree.isDirectory, Tree.directory?, hn]⟩
  | some n =>
    rw [Tree.resolve_of_get?_eq_some hn, Tree.isDirectory_of_get? hn]
    cases hd : n.isDirectory with
    | true => exact .inr ⟨by simp only [hd, if_true], rfl⟩
    | false => exact .inl ⟨_, by simp only [hd, Bool.false_eq_true, if_false]; rfl, rfl⟩

/-- The command changes to `l`, which is a directory: the root, or where its path leads. -/
def Enters (command : Command) (tree : Tree) (current l : Location) : Prop :=
  (command = .changeDirectory none ∧ l = .root) ∨
    ∃ path, command = .changeDirectory (some path) ∧ l = Path.normalize current path ∧
      tree.isDirectory l = true

/-- The outcomes that a command can come to. Each does one thing at most. -/
inductive ComesTo (command : Command) (tree : Tree) (current : Location) : Outcome → Prop
  | nothing : ComesTo command tree current .nothing
  | line (l : Line) : ComesTo command tree current (.line l)
  | goTo {l : Location} (h : command.Enters tree current l) : ComesTo command tree current (.goTo l)
  | cleared (h : command = .clear) : ComesTo command tree current .cleared

theorem execute_comesTo (command : Command) (tree : Tree) (current : Location) (host : H) :
    command.ComesTo tree current (command.execute tree current host).1 := by
  cases command with
  | changeDirectory path? =>
    cases path? with
    | none => exact .goTo (.inl ⟨rfl, rfl⟩)
    | some path =>
      rcases runChangeDirectory_cases tree current path with ⟨e, h, -⟩ | ⟨h, hdir⟩
      · simp only [execute, h]
        exact .line _
      · simp only [execute, h]
        exact .goTo (.inr ⟨path, rfl, rfl, hdir⟩)
  | openPath path? =>
    cases path? with
    | none => exact .line _
    | some path =>
      obtain ⟨line, h⟩ := runOpen_prints tree current path host
      simp only [execute, h]
      exact .line line
  | list =>
    simp only [execute, runList]
    split
    · exact .line _
    · exact .nothing
  | clear => exact .cleared rfl
  | doc page => exact .line _
  | exit => exact .nothing
  | matrix => exact .line _
  | unknown verb => exact .line _

namespace ComesTo

variable {command : Command} {outcome : Outcome} (h : command.ComesTo tree current outcome)
include h

theorem length_output_le : outcome.output.length ≤ 1 := by
  cases h with
  | line l => exact Nat.le_refl 1
  | nothing => exact Nat.zero_le 1
  | goTo henters => exact Nat.zero_le 1
  | cleared hclear => exact Nat.zero_le 1

/-- When a line is printed nothing else is done. -/
theorem eq_line {l : Line} (hl : l ∈ outcome.output) : outcome = .line l := by
  cases h with
  | line l' =>
    obtain rfl : l = l' := List.mem_singleton.mp hl
    rfl
  | nothing => cases hl
  | goTo henters => cases hl
  | cleared hclear => cases hl

theorem navigate_of_clear (hclear : outcome.clear = true) : outcome.navigate = none := by
  cases h with
  | goTo henters => cases hclear
  | nothing => rfl
  | line l => rfl
  | cleared hc => rfl

theorem enters_of_navigate {l : Location} (hl : outcome.navigate = some l) :
    command.Enters tree current l := by
  cases h with
  | goTo henters =>
    obtain rfl := Option.some.inj hl
    exact henters
  | nothing => cases hl
  | line l' => cases hl
  | cleared hclear => cases hl

theorem eq_clear (hclear : outcome.clear = true) : command = .clear := by
  cases h with
  | cleared hcommand => exact hcommand
  | nothing => cases hclear
  | line l => cases hclear
  | goTo henters => cases hclear

end ComesTo

/-- **Only `cd` goes somewhere**, and it goes whenever a directory is there. -/
theorem navigate_execute_iff {command : Command} {l : Location} :
    (command.execute tree current host).1.navigate = some l ↔ command.Enters tree current l := by
  constructor
  · exact (execute_comesTo command tree current host).enters_of_navigate
  · rintro (⟨rfl, rfl⟩ | ⟨path, rfl, rfl, hdir⟩)
    · rfl
    · rcases runChangeDirectory_cases tree current path with ⟨e, -, hnot⟩ | ⟨hrun, -⟩
      · rw [hdir] at hnot
        cases hnot
      · simp only [execute, hrun]
        rfl

theorem isDirectory_of_navigate {command : Command} {l : Location}
    (h : (command.execute tree current host).1.navigate = some l) :
    tree.isDirectory l = true := by
  rcases navigate_execute_iff.mp h with ⟨-, rfl⟩ | ⟨path, -, -, hdir⟩
  · exact Tree.isDirectory_root tree
  · exact hdir

theorem clear_execute_iff {command : Command} :
    (command.execute tree current host).1.clear = true ↔ command = .clear := by
  constructor
  · exact (execute_comesTo command tree current host).eq_clear
  · rintro rfl
    rfl

theorem clear_execute_of_ne {command : Command} (h : command ≠ .clear) (tree : Tree)
    (current : Location) (host : H) : (command.execute tree current host).1.clear = false :=
  Bool.eq_false_iff.mpr fun hclear => h (clear_execute_iff.mp hclear)

/-! ## Asking the desktop -/

/-- The command makes a request of the desktop: it closes the terminal, switches the matrix, or
opens a shortcut, an executable or something for a viewer. -/
def Asks (command : Command) (tree : Tree) (current : Location) : Prop :=
  command = .exit ∨ command = .matrix ∨
    ∃ path node l, command = .openPath (some path) ∧ tree.resolve current path = .ok (node, l) ∧
      node.style ∈ [EntryStyle.shortcut, .executable, .pdf, .image]

theorem length_requests_openNode (node : Node) (path : String) (host : H) :
    (openNode node path (Watched.of host)).2.requests.length =
      if node.style ∈ [EntryStyle.shortcut, .executable, .pdf, .image] then 1 else 0 := by
  cases node with
  | file kind content => cases kind <;> rfl
  | executable action => cases action <;> rfl
  | directory members => rfl
  | shortcut window => rfl

/-- **One request at most**, and one exactly for the commands that ask. -/
theorem length_requests_execute (command : Command) (tree : Tree) (current : Location) (host : H) :
    (command.execute tree current (Watched.of host)).2.requests.length = 1 ∧
        command.Asks tree current ∨
      (command.execute tree current (Watched.of host)).2.requests.length = 0 ∧
        ¬ command.Asks tree current := by
  cases command with
  | exit => exact .inl ⟨rfl, .inl rfl⟩
  | matrix => exact .inl ⟨rfl, .inr (.inl rfl)⟩
  | openPath path? =>
    cases path? with
    | none => exact .inr ⟨rfl, by simp [Asks]⟩
    | some path =>
      simp only [execute, runOpen, Asks]
      cases hfound : tree.resolve current path with
      | error e => exact .inr ⟨rfl, by simp [hfound]⟩
      | ok found =>
        obtain ⟨node, l⟩ := found
        simp only [length_requests_openNode]
        split
        · next hstyle => exact .inl ⟨rfl, .inr (.inr ⟨path, node, l, rfl, hfound, hstyle⟩)⟩
        · next hstyle =>
          refine .inr ⟨rfl, ?_⟩
          rintro (h | h | ⟨path', node', l', hpath, hfound', hstyle'⟩)
          · cases h
          · cases h
          · cases hpath
            cases hfound.symm.trans hfound'
            exact hstyle hstyle'
  | changeDirectory path? => cases path? <;> exact .inr ⟨rfl, by simp [Asks]⟩
  | doc page => exact .inr ⟨rfl, by simp [Asks]⟩
  | list => exact .inr ⟨rfl, by simp [Asks]⟩
  | clear => exact .inr ⟨rfl, by simp [Asks]⟩
  | unknown verb => exact .inr ⟨rfl, by simp [Asks]⟩

theorem openNode_of_complaint {node : Node} {path : String} {line : Line}
    (h : (openNode node path host).1 = .line line) (hl : line.isComplaint = true) :
    (openNode node path host).2 = host := by
  have hline : ∀ line', Outcome.line line' = .line line → line'.isComplaint = true := by
    intro line' h
    have houtput : [line'] = [line] := congrArg Outcome.output h
    rwa [List.singleton_inj.mp houtput]
  cases node with
  | directory members => rfl
  | shortcut w => cases hline _ h
  | executable action => cases hline _ h
  | file kind content =>
    cases kind with
    | pdf => cases hline _ h
    | image => cases hline _ h
    | text => rfl
    | other name => rfl

/-- **A complaint is all that happens.** The outcome prints it and nothing else, and the host is as
it was. -/
theorem execute_of_complaint {command : Command} {line : Line}
    (h : line ∈ (command.execute tree current host).1.output) (hl : line.isComplaint = true) :
    command.execute tree current host = (.line line, host) := by
  have houtcome := (execute_comesTo command tree current host).eq_line h
  refine Prod.ext houtcome ?_
  cases command with
  | matrix =>
    simp only [execute, Outcome.line, List.mem_singleton] at h
    subst h
    cases hl
  | exit => cases h
  | openPath path? =>
    cases path? with
    | none => rfl
    | some path =>
      simp only [execute, runOpen] at houtcome ⊢
      cases hfound : tree.resolve current path with
      | error e => rfl
      | ok found =>
        simp only [hfound] at houtcome
        exact openNode_of_complaint houtcome hl
  | changeDirectory path? => cases path? <;> rfl
  | doc page => rfl
  | list => rfl
  | clear => rfl
  | unknown verb => rfl

/-! ## Failing -/

/-- The complaint about what kept a command from what it was told to do. -/
inductive Fails (tree : Tree) (current : Location) : Command → CommandError → Prop
  | unknown (verb : String) : Fails tree current (.unknown verb) (.unknownCommand verb)
  | nowhere {path : String} {e : NotFound} (h : tree.resolve current path = .error e) :
      Fails tree current (.changeDirectory (some path)) (.ofNotFound "cd" e)
  | notADirectory {path : String} {node : Node} {l : Location}
      (h : tree.resolve current path = .ok (node, l)) (hnode : node.isDirectory = false) :
      Fails tree current (.changeDirectory (some path)) (.notADirectory "cd" path)
  | missing {path : String} {e : NotFound} (h : tree.resolve current path = .error e) :
      Fails tree current (.openPath (some path)) (.ofNotFound "open" e)
  | isADirectory {path : String} {members : List (String × Node)} {l : Location}
      (h : tree.resolve current path = .ok (.directory members, l)) :
      Fails tree current (.openPath (some path)) (.isADirectory "open" path)
  | unsupportedKind {path kind content : String} {l : Location}
      (h : tree.resolve current path = .ok (.file (.other kind) content, l)) :
      Fails tree current (.openPath (some path)) (.unsupportedKind kind)

/-! ## Printing -/

/-- The lines that a command can print, each with what the command found to be so. -/
inductive Prints (tree : Tree) (current : Location) : Command → Line → Prop
  | page (page : DocPage) : Prints tree current (.doc page) (.rich page.body)
  | status (active : Bool) : Prints tree current .matrix (matrixStatus active)
  | listing {entries : List ListEntry} (h : tree.list? current = some entries) :
      Prints tree current .list (.listing entries)
  | text {path content : String} {l : Location}
      (h : tree.resolve current path = .ok (.file .text content, l)) :
      Prints tree current (.openPath (some path)) (.text content)
  | doing {path : String} {node : Node} {l : Location}
      (h : tree.resolve current path = .ok (node, l))
      (hstyle : node.style ∈ [EntryStyle.shortcut, .executable, .pdf, .image]) (text : String) :
      Prints tree current (.openPath (some path)) (.muted text)
  | usage : Prints tree current (.openPath none) (.warning openUsage.message)
  | failure {command : Command} {e : CommandError} (h : Fails tree current command e) :
      Prints tree current command (.error e.message)

theorem prints_of_mem_openNode {path : String} {node : Node} {l : Location} {line : Line}
    (hfound : tree.resolve current path = .ok (node, l))
    (h : line ∈ (openNode node path host).1.output) :
    Prints tree current (.openPath (some path)) line := by
  cases node with
  | directory members =>
    obtain rfl := List.mem_singleton.mp h
    exact .failure (.isADirectory hfound)
  | shortcut w =>
    obtain rfl := List.mem_singleton.mp h
    exact .doing hfound (by simp [Node.style]) _
  | executable action =>
    obtain rfl := List.mem_singleton.mp h
    exact .doing hfound (by simp [Node.style]) _
  | file kind content =>
    cases kind with
    | pdf =>
      obtain rfl := List.mem_singleton.mp h
      exact .doing hfound (by simp [Node.style]) _
    | image =>
      obtain rfl := List.mem_singleton.mp h
      exact .doing hfound (by simp [Node.style]) _
    | text =>
      obtain rfl := List.mem_singleton.mp h
      exact .text hfound
    | other name =>
      obtain rfl := List.mem_singleton.mp h
      exact .failure (.unsupportedKind hfound)

/-- **Whatever a command prints is one of its lines.** -/
theorem prints_of_mem_output {command : Command} {line : Line}
    (h : line ∈ (command.execute tree current host).1.output) :
    Prints tree current command line := by
  cases command with
  | doc page =>
    obtain rfl := List.mem_singleton.mp h
    exact .page page
  | matrix =>
    obtain rfl := List.mem_singleton.mp h
    exact .status _
  | unknown verb =>
    obtain rfl := List.mem_singleton.mp h
    exact .failure (.unknown verb)
  | list =>
    simp only [execute, runList] at h
    split at h
    · next entries hentries =>
      obtain rfl := List.mem_singleton.mp h
      exact .listing hentries
    · cases h
  | changeDirectory path? =>
    cases path? with
    | none => cases h
    | some path =>
      simp only [execute, runChangeDirectory] at h
      cases hfound : tree.resolve current path with
      | error e =>
        rw [hfound] at h
        obtain rfl := List.mem_singleton.mp h
        exact .failure (.nowhere hfound)
      | ok found =>
        obtain ⟨node, l⟩ := found
        cases hnode : node.isDirectory with
        | true =>
          simp only [hfound, hnode, if_true] at h
          cases h
        | false =>
          simp only [hfound, hnode, Bool.false_eq_true, if_false] at h
          obtain rfl := List.mem_singleton.mp h
          exact .failure (.notADirectory hfound hnode)
  | openPath path? =>
    cases path? with
    | none =>
      obtain rfl := List.mem_singleton.mp h
      exact .usage
    | some path =>
      simp only [execute, runOpen] at h
      cases hfound : tree.resolve current path with
      | error e =>
        rw [hfound] at h
        obtain rfl := List.mem_singleton.mp h
        exact .failure (.missing hfound)
      | ok found =>
        obtain ⟨node, l⟩ := found
        simp only [hfound] at h
        exact prints_of_mem_openNode hfound h
  | clear => cases h
  | exit => cases h

/-- An error is the message of a failure. -/
theorem fails_of_error {command : Command} {text : String}
    (h : Line.error text ∈ (command.execute tree current host).1.output) :
    ∃ e, Fails tree current command e ∧ text = e.message := by
  cases prints_of_mem_output h with
  | failure hfails => exact ⟨_, hfails, rfl⟩

end Command

end PocketDesk
