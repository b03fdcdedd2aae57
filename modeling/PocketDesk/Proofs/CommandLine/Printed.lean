import PocketDesk.CommandLine.Run
import PocketDesk.Proofs.Terminal.Complaint
import PocketDesk.Proofs.Terminal.Shown

/-! # What a run on the command line prints

After every line the log is printed from behind the line that stood last in it before.
That one is still there unless the log was cleared, and then nothing is left to be
printed. So what is printed of a line is the requests it makes and the lines it adds to
the log, each of them once, however long the run and whatever the log has dropped by
then. -/

namespace PocketDesk

namespace Shell

/-! ## When a run is over -/

/-- The lines up to the first one behind which the terminal's window is closed. -/
def untilClosed (s : Shell) (lines : List String) (m : Manager) : List String :=
  match lines with
  | [] => []
  | line :: lines =>
    if (s.submit line m).2.isOpen terminalWindow then
      line :: (s.submit line m).1.untilClosed lines (s.submit line m).2
    else [line]

theorem untilClosed_prefix (s : Shell) (lines : List String) (m : Manager) :
    s.untilClosed lines m <+: lines := by
  induction lines generalizing s m with
  | nil => exact List.prefix_rfl
  | cons line lines ih =>
    unfold untilClosed
    split
    · exact (List.prefix_cons_inj line).mpr (ih _ _)
    · exact ⟨lines, rfl⟩

theorem isOpen_of_untilClosed {s : Shell} {lines first more : List String} {m : Manager}
    (h : s.untilClosed lines m = first ++ more) (hfirst : first ≠ []) (hmore : more ≠ []) :
    (s.submitAll first m).2.isOpen terminalWindow = true := by
  induction lines generalizing s m first with
  | nil =>
    have hboth := List.append_eq_nil_iff.mp h.symm
    exact absurd hboth.1 hfirst
  | cons line lines ih =>
    cases first with
    | nil => exact absurd rfl hfirst
    | cons head first =>
      unfold untilClosed at h
      split at h
      · next hopen =>
        obtain ⟨rfl, hrest⟩ := List.cons_eq_cons.mp h
        -- the run went on behind this line, which is the last of the first lines or not
        cases first with
        | nil => exact hopen
        | cons next first =>
          rw [submitAll]
          exact ih hrest (List.cons_ne_nil next first)
      · obtain ⟨-, hrest⟩ := List.cons_eq_cons.mp h
        exact absurd (List.append_eq_nil_iff.mp hrest.symm).2 hmore

theorem untilClosed_eq_or_closed (s : Shell) (lines : List String) (m : Manager) :
    s.untilClosed lines m = lines ∨
      (s.submitAll (s.untilClosed lines m) m).2.isOpen terminalWindow = false := by
  induction lines generalizing s m with
  | nil => exact .inl rfl
  | cons line lines ih =>
    unfold untilClosed
    split
    · rcases ih (s.submit line m).1 (s.submit line m).2 with hall | hclosed
      · exact .inl (congrArg (line :: ·) hall)
      · exact .inr hclosed
    · next hclosed => exact .inr (Bool.eq_false_iff.mpr hclosed)

end Shell

namespace CommandLine

/-! ## The requests that are said -/

def requestText : Request → String
  | .openWindow w p => EchoHost.openText w p
  | .closeWindow w => "close " ++ w.name
  | .toggleWindow w => "toggle " ++ w.name
  | .toggleEffect e active => "effect " ++ e ++ (if active then " on" else " off")

namespace Printed

def ofRequest (request : Request) : Printed := .request ("[desktop] " ++ requestText request)

def ofLine (line : PocketDesk.Line) : Printed := .line line.plainText

/-- The piece is a prompt, or the end of its line when the input has ended behind it. -/
def isPrompt : Printed → Bool
  | .prompt _ | .endOfInput => true
  | .request _ | .line _ | .completion _ => false

def isRequest : Printed → Bool
  | .request _ => true
  | .prompt _ | .endOfInput | .line _ | .completion _ => false

end Printed

theorem EchoHost.said_say {h : EchoHost} {w : Watched Manager}
    (hsaid : h.said = w.requests.map Printed.ofRequest) (request : Request) :
    (h.say (requestText request)).said = (w.pass request).requests.map Printed.ofRequest := by
  rw [say, Watched.pass, List.map_append, ← hsaid]
  rfl

/-- A host that says its requests has a manager that was asked for just these. -/
theorem EchoHost.inStep : WindowHost.InStep fun (h : EchoHost) (w : Watched Manager) =>
    h.manager = w.host ∧ h.said = w.requests.map Printed.ofRequest where
  openWindow := by
    rintro h w ⟨hmanager, hsaid⟩ id payload
    exact ⟨congrArg (Manager.openWindow · id payload) hmanager,
      said_say hsaid (.openWindow id payload)⟩
  closeWindow := by
    rintro h w ⟨hmanager, hsaid⟩ id
    exact ⟨congrArg (Manager.closeWindow · id) hmanager, said_say hsaid (.closeWindow id)⟩
  toggleWindow := by
    rintro h w ⟨hmanager, hsaid⟩ id
    exact ⟨congrArg (Manager.toggleWindow · id) hmanager, said_say hsaid (.toggleWindow id)⟩
  toggleEffect := by
    rintro ⟨manager, said⟩ w ⟨rfl, hsaid⟩ e
    exact ⟨rfl, rfl, said_say hsaid (.toggleEffect e _)⟩

/-! ## A run -/

/-- What is printed of a line: the requests it makes, and then the lines it adds to the log. -/
def printedOf (s : Shell) (line : String) (m : Manager) : List Printed :=
  (s.submit line (Watched.of m)).2.requests.map .ofRequest ++ (s.added line m).map .ofLine

theorem filter_map_ofLine (lines : List Line) :
    ((lines.map Printed.ofLine).filter fun p => !p.isRequest) = lines.map .ofLine := by
  rw [List.filter_map]
  exact congrArg (List.map Printed.ofLine) (List.filter_eq_self.mpr fun l _ => rfl)

theorem not_isPrompt_of_mem_printedOf {s : Shell} {line : String} {m : Manager} {p : Printed}
    (hp : p ∈ printedOf s line m) : p.isPrompt = false := by
  rcases List.mem_append.mp hp with hp | hp
  · obtain ⟨request, -, rfl⟩ := List.mem_map.mp hp
    rfl
  · obtain ⟨l, -, rfl⟩ := List.mem_map.mp hp
    rfl

theorem filter_printedOf (s : Shell) (line : String) (m : Manager) :
    (printedOf s line m).filter (fun p => !p.isRequest) = (s.added line m).map .ofLine := by
  have hrequests : ∀ requests : List Request,
      (requests.map Printed.ofRequest).filter (fun p => !p.isRequest) = [] := by
    intro requests
    refine List.filter_eq_nil_iff.mpr fun p hp => ?_
    obtain ⟨request, -, rfl⟩ := List.mem_map.mp hp
    exact Bool.false_ne_true
  rw [printedOf, List.filter_append, hrequests, filter_map_ofLine, List.nil_append]

namespace State

/-- Everything in the log was printed, and the log has the room of a session's log. -/
structure Settled (c : State) : Prop where
  printed : c.printed = c.shell.log.lastNumber?
  capacity : c.shell.log.capacity = maxLogLines

theorem settled_start (tree : Tree) : (start tree).upToDate.Settled := ⟨rfl, rfl⟩

/-- **One line.** It is submitted to the session and the manager, printed as it should be, and
leaves nothing to be printed later. -/
theorem Settled.runLine {c : State} (h : c.Settled) (line : String) :
    (c.runLine line).1 = printedOf c.shell line c.host.manager ∧ (c.runLine line).2.Settled ∧
      (c.runLine line).2.shell = (c.shell.submit line c.host.manager).1 ∧
      (c.runLine line).2.host.manager = (c.shell.submit line c.host.manager).2 := by
  have hecho : (EchoHost.mk c.host.manager []).manager = (Watched.of c.host.manager).host ∧
      (EchoHost.mk c.host.manager []).said =
        (Watched.of c.host.manager).requests.map Printed.ofRequest := ⟨rfl, rfl⟩
  -- the host that says its requests is in step with a watched manager, and that one with the manager
  obtain ⟨hshell, hmanager, hsaid⟩ := Shell.submit_inStep EchoHost.inStep hecho c.shell line
  obtain ⟨hsame, hhost, -⟩ := c.shell.submitAll_watched [line] c.host.manager
  have hroom : 2 < c.shell.log.capacity := by
    rw [h.capacity]
    decide
  have hlines := Shell.behind_submit hroom line c.host.manager
  have hafter : (c.shell.submit line (EchoHost.mk c.host.manager [])).1 =
      (c.shell.submit line c.host.manager).1 := hshell.trans hsame
  refine ⟨?_, ⟨rfl, ?_⟩, hafter, hmanager.trans hhost⟩
  · simp only [State.runLine, report, unprinted, h.printed, hafter, hlines, hsaid, printedOf]
    rfl
  · simp only [State.runLine, report, upToDate, hafter, Shell.capacity_submit, h.capacity]

/-- **Many lines.** Those up to the first that closes the terminal's window are run and printed. -/
theorem Settled.runBatch {c : State} (h : c.Settled) (lines : List String) :
    c.runBatch lines =
      c.shell.collect printedOf (c.shell.untilClosed lines c.host.manager) c.host.manager := by
  induction lines generalizing c with
  | nil => rfl
  | cons line lines ih =>
    obtain ⟨hout, hsettled, hshell, hmanager⟩ := h.runLine line
    have hover : (c.runLine line).2.isOver =
        !(c.shell.submit line c.host.manager).2.isOpen terminalWindow := by
      rw [isOver, EchoHost.terminalOpen, hmanager]
    have hrest := ih hsettled
    rw [hshell, hmanager] at hrest
    simp only [State.runBatch, hover, hout, hrest, Shell.untilClosed]
    cases (c.shell.submit line c.host.manager).2.isOpen terminalWindow with
    | true => rfl
    | false => exact (List.append_nil _).symm

theorem Settled.filter_runLine {c : State} (h : c.Settled) (line : String) :
    (c.runLine line).1.filter (fun p => !p.isPrompt) = (c.runLine line).1 := by
  rw [(h.runLine line).1]
  refine List.filter_eq_self.mpr fun p hp => ?_
  rw [not_isPrompt_of_mem_printedOf hp]
  rfl

/-- The lines that an input has to offer: those before the first that cannot be decoded, without
their ends. -/
def decoded (lines : List (Option String)) : List String :=
  (lines.takeWhile Option.isSome).filterMap fun line? => line?.map chomp

/-- One turn with a line: it is run behind a prompt, and the next line has its turn unless that
was the end. -/
theorem runInput_some (c : State) (line : String) (lines : List (Option String)) :
    c.runInput (some line :: lines) =
      let (out, next) := c.runLine (chomp line)
      if next.isOver then (.prompt c.shell.prompt :: out, none)
      else (.prompt c.shell.prompt :: out ++ (next.runInput lines).1, (next.runInput lines).2) := by
  simp only [runInput, List.map_cons, List.cons_append, converse, Reading.ofLine, take]
  cases (c.runLine (chomp line)).2.isOver with
  | true => rfl
  | false => rfl

/-- Lines from the input are run as given ones are, with prompts between them. -/
theorem Settled.filter_runInput {c : State} (h : c.Settled) (lines : List (Option String)) :
    (c.runInput lines).1.filter (fun p => !p.isPrompt) = c.runBatch (decoded lines) := by
  induction lines generalizing c with
  | nil => rfl
  | cons line? lines ih =>
    cases line? with
    | none => rfl
    | some line =>
      have hprompt : (Printed.prompt c.shell.prompt :: (c.runLine (chomp line)).1).filter
          (fun p => !p.isPrompt) = (c.runLine (chomp line)).1 :=
        (List.filter_cons_of_neg Bool.false_ne_true).trans (h.filter_runLine (chomp line))
      have hrest := ih (h.runLine (chomp line)).2.1
      have hdecoded : decoded (some line :: lines) = chomp line :: decoded lines := rfl
      rw [hdecoded]
      cases hover : (c.runLine (chomp line)).2.isOver with
      | true =>
        simp only [runInput_some, State.runBatch, hover, if_true]
        exact hprompt
      | false =>
        simp only [runInput_some, State.runBatch, hover, Bool.false_eq_true, if_false,
          List.filter_append, hprompt, hrest]

theorem Settled.prompt_of_mem_runInput {c : State} (h : c.Settled) {lines : List (Option String)}
    {p : Printed} (hp : p ∈ (c.runInput lines).1) (hprompt : p.isPrompt = true) :
    p = .endOfInput ∨ ∃ l, p = .prompt (promptAt l) := by
  induction lines generalizing c with
  | nil =>
    rcases List.mem_pair.mp hp with rfl | rfl
    · exact .inr ⟨c.shell.current, rfl⟩
    · exact .inl rfl
  | cons line? lines ih =>
    cases line? with
    | none =>
      obtain rfl := List.mem_singleton.mp hp
      exact .inr ⟨c.shell.current, rfl⟩
    | some line =>
      obtain ⟨hout, hsettled, -, -⟩ := h.runLine (chomp line)
      have hhere : p ∈ .prompt c.shell.prompt :: (c.runLine (chomp line)).1 →
          p = .prompt c.shell.prompt := by
        intro hmem
        refine (List.mem_cons.mp hmem).resolve_right fun hline => ?_
        rw [hout] at hline
        rw [not_isPrompt_of_mem_printedOf hline] at hprompt
        cases hprompt
      simp only [runInput_some] at hp
      split at hp
      · exact .inr ⟨c.shell.current, hhere hp⟩
      · rcases List.mem_append.mp hp with hp | hp
        · exact .inr ⟨c.shell.current, hhere hp⟩
        · exact ih hsettled hp

theorem Settled.not_isPrompt_of_mem_runBatch {c : State} (h : c.Settled) {lines : List String}
    {p : Printed} (hp : p ∈ c.runBatch lines) : p.isPrompt = false := by
  rw [h.runBatch] at hp
  obtain ⟨s, line, m, hline⟩ := Shell.exists_of_mem_collect hp
  exact not_isPrompt_of_mem_printedOf hline

end State

/-! ## A whole run -/

def greeting (options : Options) : List Line :=
  if options.commands = [] then [.success welcomeMessage] else []

/-- The lines that a run has to execute: the given ones, or else those of the input. -/
def offered (options : Options) (input : ByteArray) : List String :=
  if options.commands = [] then State.decoded (inputLines input) else options.commands

/-- The pieces that a run on a tree prints, and what keeps it from its end. -/
def pieces (options : Options) (tree : Tree) (input : ByteArray) :
    List Printed × Option Failure :=
  if options.commands = [] then runInteractive tree (inputLines input)
  else (runCommands tree options.commands, none)

theorem plan_result_eq_pieces {options : Options}
    {readFile : String → Except String ByteArray} {tree : Tree}
    (hcomplete : options.complete = none) (htree : loadTree options readFile = .ok tree)
    (input : ByteArray) :
    (options.plan readFile).result input =
      .ofPrinted (pieces options tree input).1 (pieces options tree input).2 := by
  rw [Options.plan, htree, pieces]
  cases hcommands : options.commands with
  | nil => simp only [hcomplete, Plan.result, if_true]
  | cons line lines => simp only [hcomplete, Plan.result, reduceCtorEq, if_false]

/-- Without its prompts, a run prints its greeting, and then its lines one after another. -/
theorem filter_pieces (options : Options) (tree : Tree) (input : ByteArray) :
    (pieces options tree input).1.filter (fun p => !p.isPrompt) =
      (greeting options).map .ofLine ++
        (State.start tree).upToDate.runBatch (offered options input) := by
  have hsettled := State.settled_start tree
  by_cases hcommands : options.commands = []
  · simp only [pieces, greeting, offered, hcommands, if_true, runInteractive, State.report,
      List.filter_append, hsettled.filter_runInput]
    rfl
  · simp only [pieces, greeting, offered, hcommands, if_false, runCommands, List.map_nil,
      List.nil_append]
    refine List.filter_eq_self.mpr fun p hp => ?_
    rw [hsettled.not_isPrompt_of_mem_runBatch hp]
    rfl

/-- Prompts are printed for lines of the input only, and tell a location. -/
theorem prompt_of_mem_pieces {options : Options} {tree : Tree} {input : ByteArray} {p : Printed}
    (hp : p ∈ (pieces options tree input).1) (hprompt : p.isPrompt = true) :
    options.commands = [] ∧ (p = .endOfInput ∨ ∃ l, p = .prompt (promptAt l)) := by
  have hsettled := State.settled_start tree
  unfold pieces at hp
  split at hp
  · next hcommands =>
    refine ⟨hcommands, ?_⟩
    rcases List.mem_append.mp hp with hp | hp
    · obtain ⟨l, -, rfl⟩ := List.mem_map.mp hp
      cases hprompt
    · exact hsettled.prompt_of_mem_runInput hp hprompt
  · rw [hsettled.not_isPrompt_of_mem_runBatch hp] at hprompt
    cases hprompt

/-- **Every line is printed once.** A run that was given a tree, and lines by its options or else by
its input, executes the lines up to the first one that closes the terminal's window. Apart from the
prompts, which stand between lines of the input only, it prints of each, in order, the requests that
the line makes and then the lines that it adds to the log and that are there when it is done;
without given lines the greeting comes first. What a line adds is itself and its command's output,
and nothing if it is blank or clears. -/
theorem prints_what_lines_add {arguments : List String} {options : Options}
    {readFile : String → Except String ByteArray} {tree : Tree}
    (hoptions : Options.parse arguments = .ok options) (hcomplete : options.complete = none)
    (htree : loadTree options readFile = .ok tree) (input : ByteArray) :
    let session := Shell.start tree
    let desktop := EchoHost.start.manager
    let lines := offered options input
    let executed := session.untilClosed lines desktop
    let out := (pieces options tree input).1
    (run arguments readFile input = .ofPrinted out (pieces options tree input).2 ∧
      out.filter (fun p => !p.isPrompt) =
        (greeting options).map .ofLine ++ session.collect printedOf executed desktop ∧
      out.filter (fun p => !p.isRequest && !p.isPrompt) =
        (greeting options ++ session.collect Shell.added executed desktop).map .ofLine ∧
      ∀ p ∈ out, p.isPrompt = true →
        options.commands = [] ∧ (p = .endOfInput ∨ ∃ l, p = .prompt (promptAt l))) ∧
    (∀ s, Shell.Reachable tree s → ∀ (line : String) (m : Manager),
      s.added line m = s.shown line m) ∧
    executed <+: lines ∧
    (∀ first more, executed = first ++ more → first ≠ [] → more ≠ [] →
      (session.submitAll first desktop).2.isOpen terminalWindow = true) ∧
    (executed = lines ∨ (session.submitAll executed desktop).2.isOpen terminalWindow = false) := by
  intro session desktop lines executed out
  have hbatch : (State.start tree).upToDate.runBatch lines =
      session.collect printedOf executed desktop := (State.settled_start tree).runBatch lines
  have hout : out.filter (fun p => !p.isPrompt) =
      (greeting options).map .ofLine ++ session.collect printedOf executed desktop := by
    rw [filter_pieces, hbatch]
  refine ⟨⟨?_, hout, ?_, fun p => prompt_of_mem_pieces⟩, ?_, Shell.untilClosed_prefix ..,
    fun _ _ => Shell.isOpen_of_untilClosed, Shell.untilClosed_eq_or_closed ..⟩
  · simp only [run, plan, hoptions]
    exact plan_result_eq_pieces hcomplete htree input
  · rw [← List.filter_filter, hout, List.filter_append, Shell.filter_collect, List.map_append,
      Shell.map_collect]
    simp only [filter_printedOf, filter_map_ofLine]
  · intro s hs line m
    refine Shell.added_eq_shown ?_ line m
    rw [hs.capacity_eq]
    decide

/-- Options with five lines to run, the last of them behind one that closes the terminal. -/
def untilExit : Options := { commands := ["matrix", "clear", "frobnicate", "exit", "help"] }

/-- An input of four lines, the last of them behind one that closes the terminal. -/
def asked : ByteArray := "cd desktop\nmatrix\nexit\nhelp\n".toUTF8

theorem inputLines_asked :
    inputLines asked =
      [some "cd desktop\n", some "matrix\n", some "exit\n", some "help\n"] := by decide

/-- Of a line that clears nothing is printed, and nothing of a line behind the last one, be the
lines given or read behind prompts. -/
theorem prints_what_lines_add_until_exit :
    let arguments := ["-c", "matrix", "-c", "clear", "-c", "frobnicate", "-c", "exit", "-c", "help"]
    let noFile : String → Except String ByteArray := fun _ => .error "not found"
    let out := (pieces untilExit .builtIn .empty).1
    let spoken := (pieces {} .builtIn asked).1
    (Options.parse arguments = .ok untilExit ∧ untilExit.complete = none ∧
      loadTree untilExit noFile = .ok .builtIn ∧
      run arguments noFile .empty = .ofPrinted out none ∧
      out.filter (fun p => !p.isRequest && !p.isPrompt) =
        [.line "root@gelo:~$ matrix", .line "Matrix Protocol Enabled... Wake up, Neo!",
          .line "root@gelo:~$ frobnicate", .line "Command not found: frobnicate",
          .line "root@gelo:~$ exit"]) ∧
    Options.parse [] = .ok {} ∧ loadTree {} noFile = .ok .builtIn ∧
      run [] noFile asked = .ofPrinted spoken none ∧
      spoken.filter (fun p => !p.isPrompt) =
        [.line welcomeMessage, .line "root@gelo:~$ cd desktop",
          .request "[desktop] effect matrix on", .line "root@gelo:~/desktop$ matrix",
          .line "Matrix Protocol Enabled... Wake up, Neo!",
          .request "[desktop] close terminal", .line "root@gelo:~/desktop$ exit"] ∧
      spoken.filter Printed.isPrompt =
        [.prompt "root@gelo:~", .prompt "root@gelo:~/desktop",
          .prompt "root@gelo:~/desktop"] := by
  intro arguments noFile out spoken
  have hoptions : Options.parse arguments = .ok untilExit := by decide
  have htree : loadTree untilExit noFile = .ok .builtIn := rfl
  obtain ⟨⟨hrun, -, hlines, -⟩, -⟩ := prints_what_lines_add hoptions rfl htree .empty
  have hnone : Options.parse [] = .ok {} := rfl
  have hbuiltIn : loadTree {} noFile = .ok .builtIn := rfl
  obtain ⟨⟨hconversation, hspoken, -, -⟩, -⟩ := prints_what_lines_add hnone rfl hbuiltIn asked
  have hpieces : pieces {} .builtIn asked = runInteractive .builtIn
      [some "cd desktop\n", some "matrix\n", some "exit\n", some "help\n"] :=
    congrArg (runInteractive .builtIn) inputLines_asked
  have hended : (pieces {} .builtIn asked).2 = none := by
    rw [hpieces]
    decide
  rw [hended] at hconversation
  refine ⟨⟨hoptions, rfl, htree, hrun, hlines.trans ?_⟩, hnone, hbuiltIn, hconversation,
    hspoken.trans ?_, ?_⟩
  · decide
  · have hoffered : offered {} asked = ["cd desktop", "matrix", "exit", "help"] := by
      rw [offered, inputLines_asked]
      rfl
    rw [hoffered]
    decide
  · change (pieces {} .builtIn asked).1.filter Printed.isPrompt = _
    rw [hpieces]
    decide

end CommandLine

end PocketDesk
