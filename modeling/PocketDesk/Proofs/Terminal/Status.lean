import Mathlib.Data.List.Forall2
import PocketDesk.Proofs.Terminal.Outcome

/-! # What a session shows of its host

A host answers only when an effect is switched, and only the command for the matrix
passes the answer on, as one of two status lines. So of two sessions that are alike
but for such lines, each with a host of its own, both go on alike, however the hosts
differ. -/

namespace PocketDesk

namespace Line

/-- The line tells whether the matrix is on, one way or the other. -/
def IsStatus (l : Line) : Prop := ∃ active, l = matrixStatus active

/-- The lines are the same, unless both tell whether the matrix is on. -/
def SameButStatus (a b : Line) : Prop := a = b ∨ a.IsStatus ∧ b.IsStatus

theorem SameButStatus.refl (l : Line) : l.SameButStatus l := .inl rfl

theorem sameButStatus_lines (lines : List Line) : List.Forall₂ SameButStatus lines lines :=
  List.forall₂_same.mpr fun l _ => SameButStatus.refl l

end Line

namespace Command

variable {H K : Type} [WindowHost H] [WindowHost K]

theorem execute_matrix (tree : Tree) (current : Location) (host : H) :
    Command.matrix.execute tree current host =
      (.line (matrixStatus (WindowHost.toggleEffect matrixEffect host).1),
        (WindowHost.toggleEffect matrixEffect host).2) := rfl

theorem outcome_openNode (node : Node) (path : String) (host : H) (other : K) :
    (openNode node path host).1 = (openNode node path other).1 := by
  cases node with
  | file kind content => cases kind <;> rfl
  | directory members => rfl
  | shortcut window => rfl
  | executable action => rfl

/-- Any other command comes to the same outcome with every host. -/
theorem outcome_execute {command : Command} (h : command ≠ .matrix) (tree : Tree)
    (current : Location) (host : H) (other : K) :
    (command.execute tree current host).1 = (command.execute tree current other).1 := by
  cases command with
  | matrix => exact absurd rfl h
  | openPath path? =>
    cases path? with
    | none => rfl
    | some path =>
      simp only [execute, runOpen]
      cases tree.resolve current path with
      | error e => rfl
      | ok found => exact outcome_openNode found.1 path host other
  | changeDirectory path? => cases path? <;> rfl
  | doc page => rfl
  | list => rfl
  | clear => rfl
  | exit => rfl
  | unknown verb => rfl

/-- **Only the command for the matrix prints a status line.** -/
theorem eq_matrix_of_isStatus {command : Command} {tree : Tree} {current : Location} {host : H}
    {l : Line} (h : l ∈ (command.execute tree current host).1.output) (hl : l.IsStatus) :
    command = .matrix := by
  obtain ⟨text, rfl⟩ : ∃ text, l = .success text := by
    obtain ⟨active, hactive⟩ := hl
    exact ⟨_, hactive⟩
  cases prints_of_mem_output h with
  | status active => rfl

end Command

/-! ## Outcomes, logs and sessions that are alike -/

/-- The outcomes do the same, and print the same but for status lines. -/
structure Outcome.Alike (a b : Outcome) : Prop where
  output : List.Forall₂ Line.SameButStatus a.output b.output
  navigate : a.navigate = b.navigate
  clear : a.clear = b.clear

theorem Outcome.Alike.refl (a : Outcome) : a.Alike a :=
  ⟨Line.sameButStatus_lines a.output, rfl, rfl⟩

theorem Command.execute_alike {H K : Type} [WindowHost H] [WindowHost K] (command : Command)
    (tree : Tree) (current : Location) (host : H) (other : K) :
    (command.execute tree current host).1.Alike (command.execute tree current other).1 := by
  by_cases h : command = .matrix
  · subst h
    have hlines : Line.SameButStatus _ _ := .inr
      ⟨⟨(WindowHost.toggleEffect matrixEffect host).1, rfl⟩,
        ⟨(WindowHost.toggleEffect matrixEffect other).1, rfl⟩⟩
    exact ⟨.cons hlines .nil, rfl, rfl⟩
  · rw [outcome_execute h tree current host other]
    exact .refl _

/-- The logs have the same room and the same lines but for status lines. -/
structure Log.Alike (a b : Log) : Prop where
  capacity : a.capacity = b.capacity
  lines : List.Forall₂ Line.SameButStatus a.lines b.lines

namespace Log

variable {a b : Log} (h : a.Alike b)
include h

theorem Alike.extend {added other : List Line} (hadded : List.Forall₂ Line.SameButStatus added other) :
    (a.extend added).Alike (b.extend other) where
  capacity := by rw [capacity_extend, capacity_extend, h.capacity]
  lines := by
    have happend := List.rel_append h.lines hadded
    rw [lines_extend, lines_extend, h.capacity, List.rtake, List.rtake, happend.length_eq]
    exact List.forall₂_drop _ happend

theorem Alike.push {line other : Line} (hline : line.SameButStatus other) :
    (a.push line).Alike (b.push other) := h.extend (.cons hline .nil)

theorem Alike.clear : a.clear.Alike b.clear := ⟨h.capacity, .nil⟩

end Log

namespace Shell

/-- The sessions are the same but for status lines in their logs. -/
structure Alike (s t : Shell) : Prop where
  tree : s.tree = t.tree
  current : s.current = t.current
  history : s.history = t.history
  log : s.log.Alike t.log

namespace Alike

variable {s t : Shell} (h : s.Alike t)
include h

theorem prompt : s.prompt = t.prompt := congrArg promptAt h.current

theorem complete (buffer : String) : s.complete buffer = t.complete buffer := by
  rw [Shell.complete, Shell.complete, h.tree, h.current]

theorem echo (line : String) : (s.echo line).Alike (t.echo line) where
  tree := h.tree
  current := h.current
  history := congrArg (History.push · line) h.history
  log := by
    have hprompt := h.prompt
    simp only [Shell.echo, hprompt]
    exact h.log.push (.refl _)

theorem follow {outcome other : Outcome} (houtcome : outcome.Alike other) :
    (s.follow outcome).Alike (t.follow other) where
  tree := h.tree
  current := by simp only [Shell.follow, houtcome.navigate, h.current]
  history := h.history
  log := by
    simp only [Shell.follow, houtcome.clear]
    split
    · exact h.log.clear.extend houtcome.output
    · exact h.log.extend houtcome.output

/-- **Sessions stay alike**, each with a host of its own. -/
theorem submit {H K : Type} [WindowHost H] [WindowHost K] (line : String) (host : H) (other : K) :
    (s.submit line host).1.Alike (t.submit line other).1 := by
  cases hline : asked? line with
  | none =>
    rw [submit_of_not_asked hline, submit_of_not_asked hline]
    exact ⟨h.tree, h.current, congrArg History.park h.history, h.log⟩
  | some command =>
    rw [submit_of_asked hline, submit_of_asked hline, h.tree, h.current]
    exact (h.echo line).follow (command.execute_alike t.tree t.current host other)

end Alike

theorem Alike.refl (s : Shell) : s.Alike s :=
  ⟨rfl, rfl, rfl, rfl, Line.sameButStatus_lines s.log.lines⟩

end Shell

end PocketDesk
