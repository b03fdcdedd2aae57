import PocketDesk.Proofs.Terminal.Outcome

/-! # The log as the end of a transcript

A transcript has no bound. What is entered goes into it behind its prompt, the output
of its command follows, and clearing empties it. The log of a session is the end of
that transcript, as long as the log has room for, at every moment of every run. The
same holds of a log by itself: whatever is done to it, it holds the last of the lines
that were added since it was cleared. -/

namespace PocketDesk

/-! ## A log by itself -/

namespace Log

variable {l : Log} {told : List Line}

/-- The log holds the last of the lines that were told, as many as it has room for. -/
def Shows (l : Log) (told : List Line) : Prop := l.lines = told.rtake l.capacity

theorem shows_empty (capacity : Nat) : (empty capacity).Shows [] := (List.rtake_nil ..).symm

theorem shows_clear (l : Log) : l.clear.Shows [] := (List.rtake_nil ..).symm

theorem Shows.extend (h : l.Shows told) (added : List Line) :
    (l.extend added).Shows (told ++ added) := by
  rw [Shows, lines_extend, capacity_extend, h, rtake_rtake_append]

theorem Shows.push (h : l.Shows told) (line : Line) : (l.push line).Shows (told ++ [line]) :=
  h.extend [line]

theorem Shows.length_lines (h : l.Shows told) : l.lines.length = min l.capacity told.length := by
  rw [h, List.rtake, List.length_drop]
  omega

/-- What can be done to a log. -/
inductive Op where
  | push (line : Line)
  | extend (lines : List Line)
  | clear
  deriving DecidableEq, Repr

def Op.apply : Op → Log → Log
  | .push line, l => l.push line
  | .extend lines, l => l.extend lines
  | .clear, l => l.clear

/-- The lines that an operation adds. -/
def Op.added : Op → List Line
  | .push line => [line]
  | .extend lines => lines
  | .clear => []

def run (l : Log) (ops : List Op) : Log := ops.foldl (fun l op => op.apply l) l

/-- The lines that were added since the last clearing. -/
def addedSinceClear (ops : List Op) : List Line :=
  (ops.rtakeWhile (· ≠ .clear)).flatMap Op.added

theorem addedSinceClear_concat {ops : List Op} {op : Op} (h : op ≠ .clear) :
    addedSinceClear (ops ++ [op]) = addedSinceClear ops ++ op.added := by
  rw [addedSinceClear, List.rtakeWhile_concat, if_pos (decide_eq_true h), List.flatMap_append,
    List.flatMap_singleton]
  rfl

theorem addedSinceClear_concat_clear (ops : List Op) :
    addedSinceClear (ops ++ [.clear]) = [] := by
  rw [addedSinceClear, List.rtakeWhile_concat, if_neg (by simp)]
  rfl

theorem Op.capacity_apply (op : Op) (l : Log) : (op.apply l).capacity = l.capacity := by
  cases op with
  | push line => exact l.capacity_push line
  | extend lines => exact l.capacity_extend lines
  | clear => rfl

theorem capacity_run (l : Log) (ops : List Op) : (l.run ops).capacity = l.capacity := by
  induction ops generalizing l with
  | nil => rfl
  | cons op ops ih => exact (ih (op.apply l)).trans (op.capacity_apply l)

/-- **A log holds the last lines since it was cleared**, after any operations. -/
theorem shows_run (capacity : Nat) (ops : List Op) :
    ((empty capacity).run ops).Shows (addedSinceClear ops) := by
  induction ops using List.reverseRecOn with
  | nil => exact shows_empty capacity
  | append_singleton ops op ih =>
    have hstep : (empty capacity).run (ops ++ [op]) = op.apply ((empty capacity).run ops) :=
      List.foldl_concat ..
    rw [hstep]
    cases op with
    | push line =>
      have hkeeps : Op.push line ≠ .clear := nofun
      rw [addedSinceClear_concat hkeeps]
      exact ih.push line
    | extend lines =>
      have hkeeps : Op.extend lines ≠ .clear := nofun
      rw [addedSinceClear_concat hkeeps]
      exact ih.extend lines
    | clear =>
      rw [addedSinceClear_concat_clear]
      exact shows_clear _

end Log

/-! ## A session told in full -/

/-- A session of which nothing is dropped. -/
structure Transcript where
  /-- Where the next line is entered. -/
  current : Location
  /-- What was entered and printed since the session was last cleared, oldest first. -/
  lines : List Line

namespace Transcript

variable {H : Type} [WindowHost H]

def start : Transcript := ⟨.root, [.success welcomeMessage]⟩

/-- Enters a line. The command's output follows the line, and a command that clears leaves nothing. -/
def enter (t : Transcript) (tree : Tree) (line : String) (host : H) : Transcript × H :=
  match Shell.asked? line with
  | none => (t, host)
  | some command =>
    let (outcome, host) := command.execute tree t.current host
    let told := t.lines ++ .command (promptAt t.current) line :: outcome.output
    (⟨outcome.navigate.getD t.current, if command = .clear then [] else told⟩, host)

def enterAll (t : Transcript) (tree : Tree) (lines : List String) (host : H) : Transcript × H :=
  match lines with
  | [] => (t, host)
  | line :: lines => (t.enter tree line host).1.enterAll tree lines (t.enter tree line host).2

/-- The transcript tells of the session: where it stands, and what its log shows the end of. -/
structure TellsOf (t : Transcript) (s : Shell) : Prop where
  current : s.current = t.current
  shows : s.log.Shows t.lines

theorem tellsOf_start (tree : Tree) : start.TellsOf (.start tree) where
  current := rfl
  shows := (Log.shows_empty maxLogLines).push (.success welcomeMessage)

variable {t : Transcript} {s : Shell}

/-- One line is told as it was submitted. -/
theorem TellsOf.enter (h : t.TellsOf s) (line : String) (host : H) :
    (t.enter s.tree line host).1.TellsOf (s.submit line host).1 ∧
      (t.enter s.tree line host).2 = (s.submit line host).2 := by
  obtain ⟨hcurrent, hshows⟩ := h
  cases hline : Shell.asked? line with
  | none =>
    rw [Shell.submit_of_not_asked hline, Transcript.enter, hline]
    exact ⟨⟨hcurrent, hshows⟩, rfl⟩
  | some command =>
    rw [Shell.submit_of_asked hline, Transcript.enter, hline, ← hcurrent]
    refine ⟨⟨rfl, ?_⟩, rfl⟩
    by_cases hclear : command = .clear
    · subst hclear
      exact Log.shows_clear _
    · have hkeeps := Command.clear_execute_of_ne hclear s.tree s.current host
      rw [Shell.log_follow_echo s line hkeeps]
      simp only [if_neg hclear]
      exact hshows.extend _

/-- And so is a whole run. -/
theorem TellsOf.enterAll (h : t.TellsOf s) (lines : List String) (host : H) :
    (t.enterAll s.tree lines host).1.TellsOf (s.submitAll lines host).1 ∧
      (t.enterAll s.tree lines host).2 = (s.submitAll lines host).2 := by
  induction lines generalizing t s host with
  | nil => exact ⟨h, rfl⟩
  | cons line lines ih =>
    obtain ⟨hnext, hhost⟩ := h.enter line host
    have hrest := ih hnext (s.submit line host).2
    rw [Shell.tree_submit, ← hhost] at hrest
    simp only [Transcript.enterAll, Shell.submitAll, ← hhost]
    exact hrest

end Transcript

namespace Shell

theorem capacity_submitAll {H : Type} [WindowHost H] (s : Shell) (lines : List String) (host : H) :
    (s.submitAll lines host).1.log.capacity = s.log.capacity := by
  induction lines generalizing s host with
  | nil => rfl
  | cons line lines ih => exact (ih _ _).trans (capacity_submit s line host)

/-- **The log is the end of the transcript.** Whatever lines were submitted, to whatever host, the
log holds the last thousand lines of the transcript, or all while there are no more; and the
transcript leads to where the session stands and does to the host what the session did. And for a
log by itself, of any capacity, where zero counts as one: after any operations it holds the last of
the lines that were added since it was cleared, and never more than it has room for. -/
theorem log_eq_end_of_transcript {H : Type} [WindowHost H] (tree : Tree) (lines : List String)
    (host : H) :
    let told := Transcript.start.enterAll tree lines host
    let session := (Shell.start tree).submitAll lines host
    (session.1.log.lines = told.1.lines.rtake 1000 ∧
      session.1.log.lines.length = min 1000 told.1.lines.length ∧
      session.1.current = told.1.current ∧ session.2 = told.2) ∧
    ∀ (capacity : Nat) (ops : List Log.Op),
      let log := (Log.empty capacity).run ops
      log.lines = (Log.addedSinceClear ops).rtake (max capacity 1) ∧
        log.lines.length ≤ max capacity 1 := by
  intro told session
  obtain ⟨⟨hcurrent, hshows⟩, hhost⟩ := (Transcript.tellsOf_start tree).enterAll lines host
  have hcapacity : session.1.log.capacity = 1000 := capacity_submitAll (.start tree) lines host
  refine ⟨⟨?_, ?_, hcurrent, hhost.symm⟩, ?_⟩
  · exact hshows.trans (congrArg told.1.lines.rtake hcapacity)
  · exact hshows.length_lines.trans (congrArg (min · _) hcapacity)
  · intro capacity ops log
    have hroom : log.capacity = max capacity 1 := Log.capacity_run (.empty capacity) ops
    have hlines := Log.shows_run capacity ops
    rw [Log.Shows, hroom] at hlines
    exact ⟨hlines, hroom ▸ log.length_le⟩

end Shell

end PocketDesk
