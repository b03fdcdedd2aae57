import PocketDesk.Proofs.Desktop.Focus
import PocketDesk.Proofs.Desktop.Restore
import PocketDesk.Proofs.Desktop.Run
import PocketDesk.Proofs.Desktop.Storage

/-! # A desktop goes on after it was saved and loaded

A snapshot leaves out the payloads, the effects other than the matrix, and the
counter. The first two never matter to what a later operation does with the rest. The
counter does, and it comes back because the last place it gave out is still the place
of some window. -/

namespace PocketDesk

/-! ## What an operation does to what is saved -/

namespace WindowOp

/-- What the operation makes of a saved window, where `next` is the place for the one it raises. -/
def onSaved (op : WindowOp) (next : UInt32) (s : SavedWindow) : SavedWindow :=
  match op with
  | .openWindow v _ => if s.id = v then { s with isOpen := true, zIndex := next } else s
  | .closeWindow v => if s.id = v then { s with isOpen := false } else s
  | .toggleWindow v =>
    if s.id = v then
      if s.isOpen then { s with isOpen := false } else { s with isOpen := true, zIndex := next }
    else s
  | .raise v => if s.id = v then { s with zIndex := next } else s
  | .toggleMaximized v => if s.id = v then { s with isMaximized := !s.isMaximized } else s
  | .toggleEffect _ => s
  | .setSound _ => s

/-- A payload makes no difference to what is saved. -/
theorem saved_onWindow (op : WindowOp) (next : UInt32) (w : Window) :
    Manager.saved (op.onWindow next w) = op.onSaved next (Manager.saved w) := by
  cases op <;> grind [onWindow, onSaved, Manager.saved]

def onSettings (op : WindowOp) (s : Settings) : Settings :=
  match op with
  | .toggleEffect e => if e = matrixEffect then { s with matrixActive := !s.matrixActive } else s
  | .setSound on => { s with soundEnabled := on }
  | _ => s

theorem settings_apply (op : WindowOp) (m : Manager) :
    (op.apply m).settings = op.onSettings m.settings := by
  have hraise : ∀ (n : Manager) (v : WindowId), (n.raise v).settings = n.settings := by
    intro n v
    unfold Manager.raise
    split <;> rfl
  have hopen : ∀ v p, (m.openWindow v p).settings = m.settings := fun v p => hraise _ v
  cases op with
  | openWindow v p => exact hopen v p
  | closeWindow v => rfl
  | toggleWindow v =>
    rw [apply, Manager.toggleWindow]
    split
    · rfl
    · exact hopen v none
  | raise v => exact hraise m v
  | toggleMaximized v => rfl
  | toggleEffect e =>
    by_cases he : e = matrixEffect
    · subst he
      have hmatrix := m.effects.isActive_toggle_self matrixEffect
      rw [onSettings, if_pos rfl]
      exact congrArg (Settings.mk m.soundEnabled) hmatrix
    · have hmatrix := m.effects.isActive_set_of_ne (!m.effects.isActive e) (Ne.symm he)
      rw [onSettings, if_neg he]
      exact congrArg (Settings.mk m.soundEnabled) hmatrix
  | setSound on => rfl

end WindowOp

namespace Manager

variable {m m' : Manager}

theorem snapshot_apply (hm : m.ids.Nodup) (op : WindowOp) :
    (op.apply m).snapshot =
      ⟨m.snapshot.windows.map (op.onSaved (m.counter + 1)), op.onSettings m.snapshot.settings⟩ := by
  have hwindows : (op.apply m).windows.map saved =
      (m.windows.map saved).map (op.onSaved (m.counter + 1)) := by
    rw [WindowOp.windows_apply hm, List.map_map, List.map_map]
    exact List.map_congr_left fun w _ => op.saved_onWindow _ w
  simp only [snapshot, hwindows, WindowOp.settings_apply]

/-! ## Managers with one snapshot and one counter -/

/-- Both managers would save the same, and both would give out the same place next. -/
structure Alike (m m' : Manager) : Prop where
  registered : m.Registered
  registered' : m'.Registered
  snapshot : m'.snapshot = m.snapshot
  counter : m'.counter = m.counter

theorem Alike.saved (h : m.Alike m') : m'.windows.map saved = m.windows.map saved :=
  congrArg Snapshot.windows h.snapshot

theorem Alike.isOpen (h : m.Alike m') (id : WindowId) : m'.isOpen id = m.isOpen id := by
  have hread : ∀ n : Manager, n.isOpen id =
      ((n.windows.map Manager.saved).find? fun s => s.id = id).any SavedWindow.isOpen := by
    intro n
    rw [List.find?_map, Option.any_map]
    rfl
  rw [hread m, hread m', h.saved]

theorem Alike.knows (h : m.Alike m') (id : WindowId) : m'.knows id = m.knows id := by
  rw [Bool.eq_iff_iff, knows_iff, knows_iff, h.registered.ids_eq, h.registered'.ids_eq]

/-- Whether an operation raises a window can be told from what is saved. -/
theorem Alike.raises (h : m.Alike m') (op : WindowOp) : op.raises m' = op.raises m := by
  rw [WindowOp.raises_eq h.registered.nodup, WindowOp.raises_eq h.registered'.nodup]
  cases op <;> simp only [h.knows, h.isOpen]

/-- **One operation** on two managers that are alike. -/
theorem Alike.apply (h : m.Alike m') (op : WindowOp) : (op.apply m).Alike (op.apply m') where
  registered := h.registered.apply op
  registered' := h.registered'.apply op
  snapshot := by
    rw [snapshot_apply h.registered.nodup, snapshot_apply h.registered'.nodup, h.snapshot, h.counter]
  counter := by
    rw [WindowOp.counter_apply h.registered.nodup, WindowOp.counter_apply h.registered'.nodup,
      h.raises, h.counter]

theorem Alike.run (h : m.Alike m') (ops : List WindowOp) : (m.run ops).Alike (m'.run ops) := by
  induction ops generalizing m m' with
  | nil => exact h
  | cons op ops ih => exact ih (h.apply op)

theorem foldl_inFront_saved {ws ws' : List Window} (hws : ws'.map Manager.saved = ws.map Manager.saved)
    {best best' : Option Window} (hbest : best'.map Manager.saved = best.map Manager.saved) :
    (ws'.foldl Window.inFront best').map Manager.saved =
      (ws.foldl Window.inFront best).map Manager.saved := by
  induction ws generalizing ws' best best' with
  | nil =>
    obtain rfl := List.map_eq_nil_iff.mp hws
    exact hbest
  | cons w ws ih =>
    obtain ⟨w', ws', rfl, hw, hws⟩ := List.map_eq_cons_iff.mp hws
    refine ih hws ?_
    have hz : w'.zIndex = w.zIndex := congrArg SavedWindow.zIndex hw
    cases best with
    | none =>
      obtain rfl := Option.map_eq_none_iff.mp hbest
      exact congrArg some hw
    | some b =>
      obtain ⟨b', rfl, hb⟩ := Option.map_eq_some_iff.mp hbest
      have hbz : b'.zIndex = b.zIndex := congrArg SavedWindow.zIndex hb
      simp only [Window.inFront, hz, hbz]
      split
      · exact congrArg some hw
      · exact congrArg some hb

/-- The focus is on the same window. -/
theorem Alike.focused? (h : m.Alike m') :
    m'.focused?.map Manager.saved = m.focused?.map Manager.saved := by
  have hopen : ∀ n : Manager, n.openWindows.map Manager.saved =
      (n.windows.map Manager.saved).filter SavedWindow.isOpen := by
    intro n
    rw [List.filter_map]
    rfl
  have hwindows : m'.openWindows.map Manager.saved = m.openWindows.map Manager.saved := by
    rw [hopen m, hopen m', h.saved]
  have hnone : (none : Option Window).map Manager.saved = none.map Manager.saved := rfl
  exact foldl_inFront_saved hwindows hnone

/-! ## The counter comes back -/

/-- The counter is the place of some window, unless nothing was raised yet. -/
structure Attained (m : Manager) : Prop extends m.Counted where
  attained : m.counter = initialZIndex ∨ ∃ w ∈ m.windows, w.zIndex = m.counter

theorem attained_fresh : fresh.Attained where
  toCounted := counted_fresh
  attained := .inl rfl

/-- An operation that moves the counter leaves a window there, and no other operation takes a
window away from its place. -/
theorem Attained.apply (h : m.Attained) {op : WindowOp} (hfit : op.Fits m) :
    (op.apply m).Attained where
  toCounted := h.toCounted.apply hfit
  attained := by
    have hnodup := h.registered.nodup
    have hplace : ∀ w ∈ m.windows, ∃ w' ∈ (op.apply m).windows,
        w'.zIndex = if op.raisesWindow w then m.counter + 1 else w.zIndex := by
      intro w hw
      have hw' : op.onWindow (m.counter + 1) w ∈ (op.apply m).windows :=
        (WindowOp.mem_windows_apply hnodup).mpr ⟨w, hw, rfl⟩
      exact ⟨_, hw', op.onWindow_zIndex _ w⟩
    rw [WindowOp.counter_apply hnodup]
    cases hraises : op.raises m with
    | true =>
      obtain ⟨w, hw, hraise⟩ := List.any_eq_true.mp hraises
      obtain ⟨w', hw', hz⟩ := hplace w hw
      rw [if_pos hraise] at hz
      exact .inr ⟨w', hw', hz⟩
    | false =>
      rcases h.attained with hinitial | ⟨w, hw, hcounter⟩
      · exact .inl hinitial
      · obtain ⟨w', hw', hz⟩ := hplace w hw
        rw [if_neg (List.any_eq_false.mp hraises w hw), hcounter] at hz
        exact .inr ⟨w', hw', hz⟩

theorem Attained.run (h : m.Attained) {ops : List WindowOp} (hfit : m.Within ops) :
    (m.run ops).Attained :=
  run_induction (fun _ _ hm hop => hm.apply hop) h hfit

/-- Among places up to `top` that is the highest, if it is there. -/
theorem foldl_max_eq {c top : UInt32} {entries : List SavedWindow} (hc : c ≤ top)
    (hle : ∀ e ∈ entries, e.zIndex ≤ top) (htop : c = top ∨ ∃ e ∈ entries, e.zIndex = top) :
    entries.foldl (fun c e => max c e.zIndex) c = top := by
  obtain ⟨hattained, hbound⟩ := isGreatest_foldl_max c entries
  refine UInt32.le_antisymm ?_ (hbound (htop.imp_left Eq.symm))
  rcases hattained with hfirst | ⟨e, he, hez⟩
  · rwa [hfirst]
  · rw [← hez]
    exact hle e he

/-! ## Restoring into a fresh desktop -/

theorem windows_restore_snapshot (hm : m.Registered) :
    (fresh.restore m.snapshot).windows.map saved = m.windows.map saved := by
  have hids : fresh.ids = m.ids := by rw [hm.ids_eq, registered_fresh.ids_eq]
  -- every registered window has its one entry, so what the fresh window had never shows
  let entry : WindowId → Option SavedWindow := fun id =>
    (m.windows.map saved).reverse.find? fun e => e.id = id
  have hentry : ∀ v ∈ m.windows, entry v.id = some (saved v) := by
    intro v hv
    have hnodup : ((m.windows.map saved).reverse.map SavedWindow.id).Nodup := by
      rw [List.map_reverse, List.map_map]
      exact List.nodup_reverse.mpr hm.nodup
    exact find?_eq_some_of_nodup hnodup (List.mem_reverse.mpr (List.mem_map_of_mem hv))
  calc (fresh.restore m.snapshot).windows.map saved
      = fresh.windows.map fun w => (entry w.id).getD (saved w) := map_saved_restore fresh m.snapshot
    _ = fresh.windows.map fun w => (entry w.id).getD ⟨w.id, false, false, 0⟩ := by
        refine List.map_congr_left fun w hw => ?_
        have hmem : w.id ∈ m.ids := hids ▸ List.mem_map_of_mem hw
        obtain ⟨v, hv, hvid⟩ := List.mem_map.mp hmem
        rw [← hvid, hentry v hv]
        rfl
    _ = fresh.ids.map fun id => (entry id).getD ⟨id, false, false, 0⟩ := by
        rw [ids, List.map_map]
        rfl
    _ = m.windows.map fun v => (entry v.id).getD ⟨v.id, false, false, 0⟩ := by
        rw [hids, ids, List.map_map]
        rfl
    _ = m.windows.map saved := List.map_congr_left fun v hv => by rw [hentry v hv, Option.getD_some]

theorem counter_restore_snapshot (h : m.Attained) :
    (fresh.restore m.snapshot).counter = m.counter := by
  have hids : fresh.ids = m.ids := by rw [h.registered.ids_eq, registered_fresh.ids_eq]
  have hall : (m.windows.map saved).filter (fun e => fresh.knows e.id) = m.windows.map saved := by
    refine List.filter_eq_self.mpr fun e he => ?_
    obtain ⟨v, hv, rfl⟩ := List.mem_map.mp he
    rw [knows_iff, hids]
    exact List.mem_map_of_mem hv
  rw [counter_restore]
  show ((m.windows.map saved).filter fun e => fresh.knows e.id).foldl _ initialZIndex = m.counter
  rw [hall]
  refine foldl_max_eq h.initial ?_ ?_
  · intro e he
    obtain ⟨v, hv, rfl⟩ := List.mem_map.mp he
    exact h.counted v hv
  · rcases h.attained with hinitial | ⟨w, hw, hz⟩
    · exact .inl hinitial.symm
    · exact .inr ⟨saved w, List.mem_map_of_mem hw, hz⟩

/-- A fresh desktop that takes over a snapshot is like the one that was saved. -/
theorem alike_restore_snapshot (h : m.Attained) : m.Alike (fresh.restore m.snapshot) where
  registered := h.registered
  registered' := registered_fresh.restore m.snapshot
  snapshot := by
    have hwindows := windows_restore_snapshot h.registered
    have hsettings := settings_restore fresh m.snapshot
    exact congrArg₂ Snapshot.mk hwindows hsettings
  counter := counter_restore_snapshot h

/-- **A reloaded desktop goes on like the one that was saved.** After any run that does not exhaust
the counter, what is saved is loaded again, and the fresh desktop that takes it over stands as the
one before: the same snapshot, the same counter and the same focus, at once and after any further
operations on both. -/
theorem resumes_after_reload {ops : List WindowOp} (hfit : fresh.Within ops)
    (stored : Option String) :
    ∃ storage snapshot, (Storage.mk stored none).save (fresh.run ops).snapshot = .ok storage ∧
      storage.load = .ok (some snapshot) ∧
      ∀ further : List WindowOp,
        ((fresh.restore snapshot).run further).snapshot = ((fresh.run ops).run further).snapshot ∧
        ((fresh.restore snapshot).run further).counter = ((fresh.run ops).run further).counter ∧
        ((fresh.restore snapshot).run further).focused?.map saved =
          ((fresh.run ops).run further).focused?.map saved := by
  refine ⟨_, _, Storage.save_of_sound stored _, Storage.load_of_toJson _, fun further => ?_⟩
  have halike := (alike_restore_snapshot (attained_fresh.run hfit)).run further
  exact ⟨halike.snapshot, halike.counter, halike.focused?⟩

/-- A document that is left open in front of a terminal that was closed again. -/
def leftOpen : List WindowOp :=
  [ .openWindow terminalWindow none, .openWindow pdfWindow (some ⟨"paper.pdf", "docs/paper.pdf"⟩)
  , .toggleMaximized pdfWindow, .toggleEffect matrixEffect, .closeWindow terminalWindow
  , .setSound false ]

theorem resumes_left_open :
    fresh.Within leftOpen ∧
    ∃ storage snapshot, (Storage.mk none none).save (fresh.run leftOpen).snapshot = .ok storage ∧
      storage.load = .ok (some snapshot) ∧
      (fresh.restore snapshot).counter = 102 ∧
      ((fresh.restore snapshot).run [.toggleWindow terminalWindow]).counter = 103 ∧
      ((fresh.restore snapshot).run
        [.toggleWindow terminalWindow, .closeWindow terminalWindow]).focused?.map saved =
          some ⟨pdfWindow, true, true, 102⟩ := by
  have hfit : fresh.Within leftOpen := by decide
  obtain ⟨storage, snapshot, hsave, hload, hsame⟩ := resumes_after_reload hfit none
  obtain ⟨-, hcounter, -⟩ := hsame []
  obtain ⟨-, hnext, -⟩ := hsame [.toggleWindow terminalWindow]
  obtain ⟨-, -, hfocus⟩ := hsame [.toggleWindow terminalWindow, .closeWindow terminalWindow]
  refine ⟨hfit, storage, snapshot, hsave, hload, ?_, ?_, ?_⟩
  · exact hcounter.trans (by decide)
  · exact hnext.trans (by decide)
  · exact hfocus.trans (by decide)

end Manager

end PocketDesk
