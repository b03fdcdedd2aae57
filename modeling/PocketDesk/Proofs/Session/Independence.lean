import PocketDesk.Proofs.Terminal.Status
import PocketDesk.Session

/-! # The terminal of a visit, and what is done at the desktop

The terminal and the desktop share the windows and nothing else. Lines may act on the
windows, but what they meet there comes back to the terminal through the switch of the
matrix alone. So a visit's terminal goes through the same with and without the desktop's
part of the visit, but for what the status lines say; and what they say is true. -/

namespace PocketDesk

namespace Session

/-- What happens in a visit: lines in the terminal, and what is done at the desktop. -/
inductive Event where
  | submit (line : String)
  | act (op : WindowOp)
  | openPath (path : String)
  deriving DecidableEq, Repr

def Event.apply : Event → Session → Session
  | .submit line, s => (s.submit line).1
  | .act op, s => (s.act op).1
  | .openPath path, s => (s.openPath path).1

def Event.isSubmit : Event → Bool
  | .submit _ => true
  | .act _ | .openPath _ => false

def run (s : Session) (events : List Event) : Session :=
  events.foldl (fun s event => event.apply s) s

/-- What is done at the desktop never changes the terminal. -/
theorem Event.shell_apply (event : Event) (s : Session) (h : event.isSubmit = false) :
    (event.apply s).shell = s.shell := by
  cases event with
  | submit line => cases h
  | act op => rfl
  | openPath path => rfl

/-- **The desktop's part of a visit can be left out**, and the windows can have been anything. -/
theorem alike_run {s t : Session} (h : s.shell.Alike t.shell) (events : List Event) :
    (s.run events).shell.Alike (t.run (events.filter Event.isSubmit)).shell := by
  -- the windows of the two visits may differ in anything: the relation does not speak of them
  induction events generalizing s t with
  | nil => exact h
  | cons event events ih =>
    cases event with
    | submit line =>
      have hnext : (s.submit line).1.shell.Alike (t.submit line).1.shell := h.submit line _ _
      exact ih hnext
    | act op =>
      have hnext : (s.act op).1.shell.Alike t.shell := h
      exact ih hnext
    | openPath path =>
      have hnext : (s.openPath path).1.shell.Alike t.shell := h
      exact ih hnext

/-- A line that asks for the matrix is followed by its status as it is then. -/
theorem last?_log_submit_matrix {line : String} (h : Shell.asked? line = some .matrix)
    (s : Session) :
    (s.submit line).1.shell.log.last? =
      some (matrixStatus ((s.submit line).1.windows.effectActive matrixEffect)) := by
  have hsubmit := Shell.submit_of_asked h s.shell (ReportingManager.mk s.windows [])
  simp only [Session.submit, hsubmit, Command.execute_matrix]
  exact Log.last?_push _ _

/-- **The terminal does not feel the desktop.** Whatever is done at the desktop between the lines of
a visit, from whatever windows it starts: the terminal stands in the same place under the same
prompt, with the same history, the same completions and the same log as when the lines were
submitted alone, except that a status line of the matrix may say the opposite. Only the command for
the matrix prints such a line, which says that the matrix is on exactly when it is on right then.
And nothing done at the desktop changes the terminal. -/
theorem undisturbed_by_desktop (tree : Tree) (windows : Manager) (events : List Event) :
    let visit := (start tree windows).run events
    let alone := (start tree windows).run (events.filter Event.isSubmit)
    (visit.shell.current = alone.shell.current ∧ visit.shell.prompt = alone.shell.prompt ∧
      visit.shell.history = alone.shell.history ∧
      (∀ buffer, visit.shell.complete buffer = alone.shell.complete buffer) ∧
      List.Forall₂ Line.SameButStatus visit.shell.log.lines alone.shell.log.lines) ∧
    (∀ (command : Command) (l : Line), l.IsStatus →
      let host := ReportingManager.mk visit.windows []
      l ∈ (command.execute tree visit.shell.current host).1.output → command = .matrix) ∧
    (∀ line, Shell.asked? line = some .matrix →
      let after := (visit.submit line).1
      after.shell.log.last? = some (matrixStatus (after.windows.effectActive matrixEffect)) ∧
      (after.shell.log.last? = some (.success matrixEnabled) ↔
        after.windows.effectActive matrixEffect = true)) ∧
    (∀ (event : Event) (s : Session), event.isSubmit = false → (event.apply s).shell = s.shell) := by
  intro visit alone
  have halike : visit.shell.Alike alone.shell := alike_run (.refl _) events
  refine ⟨⟨halike.current, halike.prompt, halike.history, halike.complete, halike.log.lines⟩,
    fun command l hl hmem => Command.eq_matrix_of_isStatus hmem hl, ?_, Event.shell_apply⟩
  intro line hline after
  have hlast := last?_log_submit_matrix hline visit
  have hactive : ∀ active, matrixStatus active = .success matrixEnabled ↔ active = true := by decide
  refine ⟨hlast, ?_⟩
  rw [hlast, Option.some.injEq]
  exact hactive _

end Session

end PocketDesk
