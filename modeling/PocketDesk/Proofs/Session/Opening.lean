import PocketDesk.Proofs.Terminal.Complaint
import PocketDesk.Session

/-! # Opening from the desktop and from the terminal

The desktop opens absolute paths, and it hands them to the command that the terminal
would run. The terminal gets there through a line, which it has to take apart first,
and from the location where it stands. A path without blanks comes out of the line as
it was put in, and one from the root leads to the same place from everywhere. -/

namespace PocketDesk

/-- An absolute path is opened alike wherever the terminal stands. -/
theorem Command.execute_openPath_of_isAbsolute {H : Type} [WindowHost H] {path : String}
    (h : Path.isAbsolute path = true) (tree : Tree) (current other : Location) (host : H) :
    (openPath (some path)).execute tree current host =
      (openPath (some path)).execute tree other host := by
  simp only [execute, runOpen, Tree.resolve_of_isAbsolute h current other]

namespace Shell

variable {H : Type} [WindowHost H]

/-- The line of a command that prints one is the last one that submitting adds to the log. -/
theorem getLast?_added {line : String} {command : Command} (hline : asked? line = some command)
    {s : Shell} {host : H} {l : Line}
    (hprints : (command.execute s.tree s.current host).1 = .line l) :
    (s.added line host).getLast? = some l := by
  have hkeeps : (command.execute s.tree s.current host).1.clear = false := by
    rw [hprints]
    rfl
  have hroom : ¬ (s.transcript line (.line l)).length ≤
      (s.transcript line (.line l)).length - s.log.capacity := by
    have hpos := s.log.capacity_pos
    have hlength : (s.transcript line (.line l)).length = 2 := rfl
    omega
  rw [added_of_asked hline s host hkeeps, hprints, List.rtake, List.getLast?_drop, if_neg hroom]
  rfl

end Shell

namespace Session

/-- **Opening from the desktop is opening from the terminal.** Wherever the terminal stands and
whatever the windows are, for an absolute path without blanks: opening it from the desktop leaves
the terminal as it was, and the windows, with what they were given to show, as they are after the
line that opens it. What is reported is what the line would report, and then the line that the
command would print, which is the last one that the terminal's log would get. -/
theorem opens_as_the_terminal_does (s : Session) {path : String}
    (hslash : path.toList.head? = some '/') (hblank : ∀ c ∈ path.toList, Text.isBlank c = false) :
    let opened := s.openPath path
    let submitted := s.submit ("open " ++ path)
    let host := ReportingManager.mk s.windows []
    opened.1.shell = s.shell ∧ opened.1.windows = submitted.1.windows ∧
    ∃ line, ((Command.openPath (some path)).execute s.shell.tree .root host).1 = .line line ∧
      opened.2 = submitted.2 ++ [.opened path line.plainText] ∧
      (s.shell.added ("open " ++ path) host).getLast? = some line := by
  intro opened submitted host
  have habsolute := Path.isAbsolute_iff.mpr hslash
  have hpath : path ≠ "" := by
    rintro rfl
    cases hslash
  have hline := Shell.asked?_openPath hblank hpath
  have hsame := Command.execute_openPath_of_isAbsolute habsolute s.shell.tree s.shell.current .root
    host
  obtain ⟨line, hprints⟩ := Command.runOpen_prints s.shell.tree .root path host
  have hroot : ((Command.openPath (some path)).execute s.shell.tree .root host).1 = .line line :=
    hprints
  have hsubmit : (s.shell.submit ("open " ++ path) host).2 =
      ((Command.openPath (some path)).execute s.shell.tree .root host).2 := by
    rw [Shell.submit_of_asked hline, hsame]
  refine ⟨rfl, ?_, line, hroot, ?_, ?_⟩
  · exact congrArg ReportingManager.manager hsubmit.symm
  · have hnotices := congrArg ReportingManager.notices hsubmit
    have hopened : opened.2 =
        ((Command.openPath (some path)).execute s.shell.tree .root host).2.notices ++
          ((Command.openPath (some path)).execute s.shell.tree .root host).1.output.map
            fun line => .opened path line.plainText := rfl
    rw [hopened, hroot, ← hnotices]
    rfl
  · exact Shell.getLast?_added hline (hsame ▸ hroot)

def papers : Tree := ⟨⟨[("docs", .directory [("a.pdf", .file .pdf "assets/a.pdf")])]⟩⟩

theorem opens_as_the_terminal_does_in_docs :
    let s : Session := ⟨((Shell.start papers).submit "cd docs" Manager.fresh).1, .fresh⟩
    let path := "/./docs//../docs/a.pdf"
    s.shell.current = ⟨["docs"]⟩ ∧
      (s.openPath path).1.windows = (s.submit ("open " ++ path)).1.windows ∧
      ((s.submit ("open " ++ path)).1.windows.get? pdfWindow).bind Window.payload =
        some ⟨path, "assets/a.pdf"⟩ ∧
      (s.shell.added ("open " ++ path) (ReportingManager.mk s.windows [])).getLast? =
        some (.muted ("Opening PDF: " ++ path ++ "...")) := by
  intro s path
  have hcurrent : s.shell.current = ⟨["docs"]⟩ := by decide
  have hslash : path.toList.head? = some '/' := by decide
  have hblank : ∀ c ∈ path.toList, Text.isBlank c = false := by simp [path, Text.isBlank]
  obtain ⟨-, hwindows, line, hprints, -, hlast⟩ := opens_as_the_terminal_does s hslash hblank
  have hopened : ((s.openPath path).1.windows.get? pdfWindow).bind Window.payload =
      some ⟨path, "assets/a.pdf"⟩ := by decide
  have hrun : ((Command.openPath (some path)).execute s.shell.tree .root
      (ReportingManager.mk s.windows [])).1 = .line (.muted ("Opening PDF: " ++ path ++ "...")) := by
    decide
  obtain rfl := List.singleton_inj.mp (congrArg Outcome.output (hprints.symm.trans hrun))
  rw [hwindows] at hopened
  exact ⟨hcurrent, hwindows, hopened, hlast⟩

end Session

end PocketDesk
