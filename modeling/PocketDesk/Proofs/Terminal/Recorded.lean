import PocketDesk.Desktop.Recorder
import PocketDesk.Desktop.WindowOp
import PocketDesk.Proofs.Terminal.Hosts

/-! # A recorder in place of the desktop

A recorder has no windows, but it keeps the effects as a window manager does, and a
session learns nothing else of its host. So a session cannot tell the two apart, and
what was recorded is all that a manager in its place was asked, with the answers that
it gave. -/

namespace PocketDesk

/-- An operation on a window leaves the effects as they are. -/
theorem WindowOp.effects_apply (op : WindowOp) {id : WindowId} (hop : op.window? = some id)
    (m : Manager) : (op.apply m).effects = m.effects := by
  have hraise : ∀ (n : Manager) (v : WindowId), (n.raise v).effects = n.effects := by
    intro n v
    unfold Manager.raise
    split <;> rfl
  cases op with
  | openWindow v p => exact hraise _ v
  | closeWindow v => rfl
  | toggleWindow v =>
    rw [apply, Manager.toggleWindow]
    split
    · rfl
    · exact hraise _ v
  | raise v => exact hraise m v
  | toggleMaximized v => rfl
  | toggleEffect e => cases hop
  | setSound on => cases hop

namespace Recorder

theorem requests_record {r : Recorder} {w : Watched Manager} (h : r.requests = w.requests)
    (request : Request) : (r.record request).requests = (w.pass request).requests :=
  congrArg (fun requests => requests ++ [request]) h

/-- The recorder noted what the manager was asked, and has the effects of the manager. -/
theorem inStep : WindowHost.InStep fun (r : Recorder) (w : Watched Manager) =>
    r.requests = w.requests ∧ r.effects = w.host.effects where
  openWindow := by
    rintro r w ⟨hrequests, heffects⟩ id payload
    have hkept := WindowOp.effects_apply (.openWindow id payload) rfl w.host
    exact ⟨requests_record hrequests _, heffects.trans hkept.symm⟩
  closeWindow := by
    rintro r w ⟨hrequests, heffects⟩ id
    have hkept := WindowOp.effects_apply (.closeWindow id) rfl w.host
    exact ⟨requests_record hrequests _, heffects.trans hkept.symm⟩
  toggleWindow := by
    rintro r w ⟨hrequests, heffects⟩ id
    have hkept := WindowOp.effects_apply (.toggleWindow id) rfl w.host
    exact ⟨requests_record hrequests _, heffects.trans hkept.symm⟩
  toggleEffect := by
    rintro r w ⟨hrequests, heffects⟩ e
    have hnext : r.effects.toggle e = (w.host.toggleEffect e).effects := by
      rw [heffects]
      rfl
    have hanswer : (r.effects.toggle e).isActive e = (w.host.toggleEffect e).effectActive e := by
      rw [hnext]
      rfl
    refine ⟨hanswer, ?_, hnext⟩
    have hrequest : Request.toggleEffect e ((r.effects.toggle e).isActive e) =
        .toggleEffect e ((w.host.toggleEffect e).effectActive e) := congrArg _ hanswer
    exact (requests_record hrequests _).trans (congrArg (w.requests ++ [·]) hrequest)

end Recorder

namespace Shell

/-- **A recorder and a window manager are interchangeable.** Whatever lines are submitted, the
session is the same with either; the recorded requests are those that the manager received, each
switch with the answer that the manager gave then; and made again of another manager they lead to
the manager that was driven directly. -/
theorem recorder_interchangeable (tree : Tree) (lines : List String) :
    let recorded := (Shell.start tree).submitAll lines Recorder.empty
    let driven := (Shell.start tree).submitAll lines Manager.fresh
    let watched := (Shell.start tree).submitAll lines (Watched.of Manager.fresh)
    recorded.1 = driven.1 ∧
      (watched.1 = driven.1 ∧ watched.2.host = driven.2) ∧
      recorded.2.requests = watched.2.requests ∧
      Request.replayAll recorded.2.requests Manager.fresh = driven.2 := by
  intro recorded driven watched
  have hstart : Recorder.empty.requests = (Watched.of Manager.fresh).requests ∧
      Recorder.empty.effects = (Watched.of Manager.fresh).host.effects := ⟨rfl, rfl⟩
  obtain ⟨hshell, hrequests, -⟩ := submitAll_inStep Recorder.inStep hstart (Shell.start tree) lines
  obtain ⟨hsame, hhost, hreplay⟩ := submitAll_watched (Shell.start tree) lines Manager.fresh
  refine ⟨hshell.trans hsame, ⟨hsame, hhost⟩, hrequests, ?_⟩
  rw [hrequests]
  exact hreplay

end Shell

end PocketDesk
