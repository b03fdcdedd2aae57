import PocketDesk.Proofs.Terminal.Submission

/-! # The hosts that a session can be given

A command knows its host only by the four requests and by the answers to switches. So
two hosts that every request keeps in step, and that answer alike, lead a session to
the same place. In particular a host can be watched: the requests are noted on their
way to it, and neither the session nor the host tells the difference. -/

namespace PocketDesk

/-! ## Two hosts in step -/

namespace WindowHost

/-- Every request keeps the two hosts related, and related hosts give the same answers. -/
structure InStep {H K : Type} [WindowHost H] [WindowHost K] (R : H → K → Prop) : Prop where
  openWindow : ∀ {h k}, R h k → ∀ w p,
    R (WindowHost.openWindow w p h) (WindowHost.openWindow w p k)
  closeWindow : ∀ {h k}, R h k → ∀ w, R (WindowHost.closeWindow w h) (WindowHost.closeWindow w k)
  toggleWindow : ∀ {h k}, R h k → ∀ w,
    R (WindowHost.toggleWindow w h) (WindowHost.toggleWindow w k)
  toggleEffect : ∀ {h k}, R h k → ∀ e,
    (WindowHost.toggleEffect e h).1 = (WindowHost.toggleEffect e k).1 ∧
      R (WindowHost.toggleEffect e h).2 (WindowHost.toggleEffect e k).2

end WindowHost

section InStep

variable {H K : Type} [WindowHost H] [WindowHost K] {R : H → K → Prop}
  (hR : WindowHost.InStep R) {host : H} {other : K} (h : R host other)
include hR h

namespace Command

theorem runAction_inStep (action : Action) : R (runAction action host) (runAction action other) := by
  cases action with
  | openWindow w => exact hR.openWindow h w none
  | toggleWindow w => exact hR.toggleWindow h w
  | toggleEffect e => exact (hR.toggleEffect h e).2

theorem openNode_inStep (node : Node) (path : String) :
    (openNode node path host).1 = (openNode node path other).1 ∧
      R (openNode node path host).2 (openNode node path other).2 := by
  cases node with
  | directory members => exact ⟨rfl, h⟩
  | shortcut w => exact ⟨rfl, hR.openWindow h w none⟩
  | executable action => exact ⟨rfl, runAction_inStep hR h action⟩
  | file kind content =>
    cases kind with
    | pdf => exact ⟨rfl, hR.openWindow h _ _⟩
    | image => exact ⟨rfl, hR.openWindow h _ _⟩
    | text => exact ⟨rfl, h⟩
    | other name => exact ⟨rfl, h⟩

/-- A command comes to the same outcome with either host, and keeps them in step. -/
theorem execute_inStep (command : Command) (tree : Tree) (current : Location) :
    (command.execute tree current host).1 = (command.execute tree current other).1 ∧
      R (command.execute tree current host).2 (command.execute tree current other).2 := by
  cases command with
  | openPath path? =>
    cases path? with
    | none => exact ⟨rfl, h⟩
    | some path =>
      simp only [execute, runOpen]
      cases tree.resolve current path with
      | error e => exact ⟨rfl, h⟩
      | ok found => exact openNode_inStep hR h found.1 path
  | exit => exact ⟨rfl, hR.closeWindow h _⟩
  | matrix =>
    obtain ⟨hanswer, hnext⟩ := hR.toggleEffect h matrixEffect
    exact ⟨by simp only [execute, hanswer], hnext⟩
  | changeDirectory path? => cases path? <;> exact ⟨rfl, h⟩
  | doc page => exact ⟨rfl, h⟩
  | list => exact ⟨rfl, h⟩
  | clear => exact ⟨rfl, h⟩
  | unknown verb => exact ⟨rfl, h⟩

end Command

namespace Shell

theorem submit_inStep (s : Shell) (line : String) :
    (s.submit line host).1 = (s.submit line other).1 ∧
      R (s.submit line host).2 (s.submit line other).2 := by
  cases hline : asked? line with
  | none =>
    rw [submit_of_not_asked hline, submit_of_not_asked hline]
    exact ⟨rfl, h⟩
  | some command =>
    obtain ⟨houtcome, hnext⟩ := Command.execute_inStep hR h command s.tree s.current
    rw [submit_of_asked hline, submit_of_asked hline, houtcome]
    exact ⟨rfl, hnext⟩

end Shell

end InStep

namespace Shell

def submitAll {H : Type} [WindowHost H] (s : Shell) (lines : List String) (host : H) : Shell × H :=
  match lines with
  | [] => (s, host)
  | line :: lines => (s.submit line host).1.submitAll lines (s.submit line host).2

/-- A whole run of lines keeps two hosts in step. -/
theorem submitAll_inStep {H K : Type} [WindowHost H] [WindowHost K] {R : H → K → Prop}
    (hR : WindowHost.InStep R) {host : H} {other : K} (h : R host other) (s : Shell)
    (lines : List String) :
    (s.submitAll lines host).1 = (s.submitAll lines other).1 ∧
      R (s.submitAll lines host).2 (s.submitAll lines other).2 := by
  induction lines generalizing s host other with
  | nil => exact ⟨rfl, h⟩
  | cons line lines ih =>
    obtain ⟨hshell, hnext⟩ := submit_inStep hR h s line
    simp only [submitAll, ← hshell]
    exact ih hnext (s.submit line host).1

end Shell

/-! ## A host that is watched -/

def Request.replayAll {H : Type} [WindowHost H] (requests : List Request) (host : H) : H :=
  requests.foldl (fun host request => request.replay host) host

theorem Request.replayAll_append {H : Type} [WindowHost H] (first second : List Request)
    (host : H) : replayAll (first ++ second) host = replayAll second (replayAll first host) :=
  List.foldl_append

structure Watched (H : Type) where
  host : H
  /-- What the host was asked, oldest first, with the answers it gave. -/
  requests : List Request

namespace Watched

variable {H : Type} [WindowHost H]

def of (host : H) : Watched H := ⟨host, []⟩

def pass (w : Watched H) (request : Request) : Watched H :=
  ⟨request.replay w.host, w.requests ++ [request]⟩

instance : WindowHost (Watched H) where
  openWindow id payload w := w.pass (.openWindow id payload)
  closeWindow id w := w.pass (.closeWindow id)
  toggleWindow id w := w.pass (.toggleWindow id)
  toggleEffect effect w :=
    let active := (WindowHost.toggleEffect effect w.host).1
    (active, w.pass (.toggleEffect effect active))

/-- A watched host does what the host itself does, and what was noted is all that happened to it. -/
theorem inStep (start : H) : WindowHost.InStep fun (w : Watched H) (host : H) =>
    w.host = host ∧ Request.replayAll w.requests start = host := by
  have hpass : ∀ (w : Watched H) (request : Request),
      Request.replayAll w.requests start = w.host →
        Request.replayAll (w.pass request).requests start = request.replay w.host := by
    intro w request h
    rw [pass, Request.replayAll_append, h]
    rfl
  constructor
  · rintro w host ⟨rfl, h⟩ id payload
    exact ⟨rfl, hpass w _ h⟩
  · rintro w host ⟨rfl, h⟩ id
    exact ⟨rfl, hpass w _ h⟩
  · rintro w host ⟨rfl, h⟩ id
    exact ⟨rfl, hpass w _ h⟩
  · rintro w host ⟨rfl, h⟩ effect
    exact ⟨rfl, rfl, hpass w (.toggleEffect effect _) h⟩

end Watched

/-- A watched command comes to the outcome that it comes to unwatched. -/
theorem Command.execute_watched {H : Type} [WindowHost H] (command : Command) (tree : Tree)
    (current : Location) (host : H) :
    (command.execute tree current (Watched.of host)).1 = (command.execute tree current host).1 ∧
      (command.execute tree current (Watched.of host)).2.host =
        (command.execute tree current host).2 := by
  have hstart : (Watched.of host).host = host ∧
      Request.replayAll (Watched.of host).requests host = host := ⟨rfl, rfl⟩
  obtain ⟨houtcome, hhost, -⟩ := execute_inStep (Watched.inStep host) hstart command tree current
  exact ⟨houtcome, hhost⟩

/-- A run of lines can be watched, and is replayed by the requests that were noted. -/
theorem Shell.submitAll_watched {H : Type} [WindowHost H] (s : Shell) (lines : List String)
    (host : H) :
    (s.submitAll lines (Watched.of host)).1 = (s.submitAll lines host).1 ∧
      (s.submitAll lines (Watched.of host)).2.host = (s.submitAll lines host).2 ∧
      Request.replayAll (s.submitAll lines (Watched.of host)).2.requests host =
        (s.submitAll lines host).2 := by
  have hstart : (Watched.of host).host = host ∧
      Request.replayAll (Watched.of host).requests host = host := ⟨rfl, rfl⟩
  exact submitAll_inStep (Watched.inStep host) hstart s lines

end PocketDesk
