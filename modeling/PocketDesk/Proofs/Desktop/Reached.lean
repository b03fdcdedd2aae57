import PocketDesk.Proofs.Desktop.Focus
import PocketDesk.Proofs.Desktop.Restore
import PocketDesk.Proofs.Desktop.Run

/-! # Desktops that were operated and restored in any order

A snapshot may say anything: one place for several windows, places far above the
counter, several entries for one window, of which an earlier one moves the counter
and the last one lowers the window again. What outlives every snapshot is that no
window stands above the counter. A raise needs no more than that: the place it gives
out is above the counter, and so above every other window, whatever ties there are. -/

namespace PocketDesk

namespace Manager

/-- The managers to which operations and snapshots lead, in any order. An operation comes only when
there is a place left for the window that it raises. -/
inductive Reaches (m : Manager) : Manager → Prop
  | refl : Reaches m m
  | apply {n : Manager} (op : WindowOp) (hn : Reaches m n) (hfit : op.Fits n) :
      Reaches m (op.apply n)
  | restore {n : Manager} (s : Snapshot) (hn : Reaches m n) : Reaches m (n.restore s)

variable {m n : Manager}

/-! ## What a snapshot keeps -/

theorem counter_le_restoreWindow (m : Manager) (s : SavedWindow) :
    m.counter ≤ (m.restoreWindow s).counter := by
  rw [counter_restoreWindow]
  split
  · exact (le_max _ _).1
  · exact UInt32.le_refl _

/-- One entry: the window it names gets a place that the counter has counted by then. -/
theorem Counted.restoreWindow (h : m.Counted) (s : SavedWindow) : (m.restoreWindow s).Counted where
  registered := by
    rw [Registered, windows_restoreWindow, List.map_map, ← h.registered]
    exact List.map_congr_left fun w _ => by simp
  counted := by
    intro w' hw'
    rw [windows_restoreWindow] at hw'
    obtain ⟨w, hw, rfl⟩ := List.mem_map.mp hw'
    by_cases hid : w.id = s.id
    · have hknows : m.knows s.id = true := knows_iff.mpr (hid ▸ List.mem_map_of_mem hw)
      rw [Window.takeOver, if_pos hid, counter_restoreWindow, if_pos hknows]
      exact (le_max _ _).2
    · rw [Window.takeOver, if_neg hid]
      exact UInt32.le_trans (h.counted w hw) (counter_le_restoreWindow m s)
  initial := UInt32.le_trans h.initial (counter_le_restoreWindow m s)

/-- All entries, one after another. -/
theorem Counted.foldl_restoreWindow (h : m.Counted) (entries : List SavedWindow) :
    (entries.foldl Manager.restoreWindow m).Counted ∧
      m.counter ≤ (entries.foldl Manager.restoreWindow m).counter := by
  induction entries generalizing m with
  | nil => exact ⟨h, UInt32.le_refl _⟩
  | cons s entries ih =>
    obtain ⟨hcounted, hle⟩ := ih (h.restoreWindow s)
    exact ⟨hcounted, UInt32.le_trans (counter_le_restoreWindow m s) hle⟩

theorem Counted.restore (h : m.Counted) (s : Snapshot) : (m.restore s).Counted := by
  obtain ⟨hregistered, hcounted, hinitial⟩ := (h.foldl_restoreWindow s.windows).1
  exact ⟨hregistered, hcounted, hinitial⟩

theorem Counted.counter_le_restore (h : m.Counted) (s : Snapshot) :
    m.counter ≤ (m.restore s).counter :=
  (h.foldl_restoreWindow s.windows).2

/-! ## Any history -/

theorem Reaches.counted (h : m.Reaches n) (hm : m.Counted) : n.Counted := by
  induction h with
  | refl => exact hm
  | apply op _ hfit ih => exact ih.apply hfit
  | restore s _ ih => exact ih.restore s

theorem Reaches.counter_le (h : m.Reaches n) (hm : m.Counted) : m.counter ≤ n.counter := by
  induction h with
  | refl => exact UInt32.le_refl _
  | apply op hn hfit ih =>
    exact UInt32.le_trans ih (counter_le_apply (hn.counted hm).registered.nodup hfit)
  | restore s hn ih => exact UInt32.le_trans ih ((hn.counted hm).counter_le_restore s)

/-! ## Windows that an operation is not about -/

/-- An operation leaves every window as it is that it does not name. -/
theorem get?_apply_of_ne (hm : m.ids.Nodup) {op : WindowOp} {id : WindowId}
    (hop : op.window? ≠ some id) : (op.apply m).get? id = m.get? id := by
  rw [WindowOp.get?_apply hm]
  cases hget : m.get? id with
  | none => rfl
  | some w =>
    have hid : w.id = id := by simpa using List.find?_some hget
    rw [Option.map_some, WindowOp.onWindow_of_ne (by rwa [hid])]

theorem isSome_focused?_iff : m.focused?.isSome = true ↔ ∃ w ∈ m.windows, w.isOpen = true := by
  rw [Option.isSome_iff_ne_none, ne_eq, focused?_eq_none_iff]
  constructor
  · intro hsome
    obtain ⟨w, hw⟩ := List.exists_mem_of_ne_nil _ hsome
    exact ⟨w, mem_openWindows.mp hw⟩
  · rintro ⟨w, hw⟩
    exact List.ne_nil_of_mem (mem_openWindows.mpr hw)

end Manager

/-! ## The window that is asked for in front -/

/-- The operation asks for the window in front: it opens it, toggles it open, or raises it while it
is open. -/
def WindowOp.Fronts (op : WindowOp) (m : Manager) (id : WindowId) : Prop :=
  match op with
  | .openWindow v _ => v = id
  | .toggleWindow v => v = id ∧ m.isOpen id = false
  | .raise v => v = id ∧ m.isOpen id = true
  | _ => False

namespace Manager

variable {m : Manager} {op : WindowOp} {id : WindowId}

/-- The window that is asked for is raised, and it is open afterwards. -/
theorem raises_of_fronts (hm : m.ids.Nodup) {w : Window} (hw : w ∈ m.windows)
    (hop : op.Fronts m w.id) :
    op.window? = some w.id ∧ op.raisesWindow w = true ∧ op.opens w.id w.isOpen = true := by
  have hopen := isOpen_eq hm hw
  unfold WindowOp.Fronts at hop
  cases op <;> grind [WindowOp.window?, WindowOp.raisesWindow, WindowOp.opens]

/-- **A window that is asked for in front is there**, strictly above every other one. -/
theorem Counted.focused?_apply (h : m.Counted) (hfit : op.Fits m) (hknows : m.knows id = true)
    (hop : op.Fronts m id) :
    ∃ w, (op.apply m).get? id = some w ∧ (op.apply m).focused? = some w ∧
      ∀ v ∈ (op.apply m).windows, v.id ≠ id → v.zIndex < w.zIndex := by
  have hnodup := h.registered.nodup
  have hnodup' := (h.registered.apply op).nodup
  obtain ⟨w, hw, rfl⟩ := List.mem_map.mp (knows_iff.mp hknows)
  obtain ⟨hwindow, hraise, hopen⟩ := raises_of_fronts hnodup hw hop
  have hroom : m.counter < m.counter + 1 :=
    counter_lt_next (hfit (List.any_eq_true.mpr ⟨w, hw, hraise⟩))
  let w' := op.onWindow (m.counter + 1) w
  have hw' : w' ∈ (op.apply m).windows := (WindowOp.mem_windows_apply hnodup).mpr ⟨w, hw, rfl⟩
  have hget : (op.apply m).get? w.id = some w' := by
    rw [WindowOp.get?_apply hnodup, get?_eq_some hnodup hw]
    rfl
  have habove : ∀ v ∈ (op.apply m).windows, v.id ≠ w.id → v.zIndex < w'.zIndex := by
    intro v' hv' hne
    obtain ⟨v, hv, rfl⟩ := (WindowOp.mem_windows_apply hnodup).mp hv'
    rw [WindowOp.onWindow_id] at hne
    -- no other window is touched, so it is still where the counter had counted it
    rw [WindowOp.onWindow_of_ne (by simpa [hwindow] using Ne.symm hne), WindowOp.onWindow_zIndex,
      if_pos hraise]
    exact UInt32.lt_of_le_of_lt (h.counted v hv) hroom
  refine ⟨w', hget, focused?_eq_some (mem_openWindows.mpr ⟨hw', ?_⟩) ?_, habove⟩
  · rw [WindowOp.onWindow_isOpen, hopen]
  · intro v hv hne
    have hv := (mem_openWindows.mp hv).1
    refine habove v hv fun hsame => hne ?_
    have hfound := get?_eq_some hnodup' hv
    rw [hsame, hget] at hfound
    exact (Option.some.inj hfound).symm

/-- **What every history keeps.** Wherever operations and snapshots led from a fresh desktop: the
windows are the nine registered ones, none of them is above the counter, and the counter only grows.
Some window has the focus exactly when one is open. An operation on an unknown window changes
nothing, one on a known window no other window, and a window that is asked for in front has the
focus then, with a place that is strictly above every other one. -/
theorem standing_of_reaches {m : Manager} (hm : fresh.Reaches m) :
    m.windows.map (fun w => (w.id, w.title)) = registry ∧ m.windows.length = 9 ∧
    (∀ w ∈ m.windows, w.zIndex ≤ m.counter) ∧
    initialZIndex ≤ m.counter ∧
    (∀ n, m.Reaches n → m.counter ≤ n.counter) ∧
    (m.focused?.isSome = true ↔ ∃ w ∈ m.windows, w.isOpen = true) ∧
    (∀ (op : WindowOp) (id : WindowId), op.window? = some id → m.knows id = false →
      op.apply m = m) ∧
    (∀ (op : WindowOp) (id : WindowId), op.window? = some id →
      ∀ v, v ≠ id → (op.apply m).get? v = m.get? v) ∧
    (∀ (op : WindowOp) (id : WindowId), op.Fits m → m.knows id = true → op.Fronts m id →
      ∃ w, (op.apply m).get? id = some w ∧ (op.apply m).focused? = some w ∧
        ∀ v ∈ (op.apply m).windows, v.id ≠ id → v.zIndex < w.zIndex) := by
  have hcounted := hm.counted counted_fresh
  have hregistered : m.windows.map (fun w => (w.id, w.title)) = registry := hcounted.registered
  refine ⟨hregistered, ?_, hcounted.counted, hcounted.initial, ?_, isSome_focused?_iff, ?_, ?_, ?_⟩
  · simpa [registry] using congrArg List.length hregistered
  · exact fun n hn => hn.counter_le hcounted
  · exact fun op id hop hunknown => WindowOp.apply_of_not_knows hop hunknown
  · intro op id hop v hne
    refine get?_apply_of_ne hcounted.registered.nodup fun hv => hne ?_
    exact Option.some.inj (hv.symm.trans hop)
  · exact fun op id hfit hknows hop => hcounted.focused?_apply hfit hknows hop

/-- Two windows at one place, a window that is not known, and a window with two entries, of which
the first is far above the second. -/
def hostile : Snapshot :=
  ⟨[ ⟨terminalWindow, true, false, 900⟩, ⟨⟨"solitaire"⟩, true, false, 5000⟩
   , ⟨filesWindow, true, false, 500⟩, ⟨readmeWindow, true, true, 500⟩
   , ⟨terminalWindow, true, false, 3⟩ ], ⟨false, true⟩⟩

theorem standing_after_hostile :
    let m := (WindowOp.closeWindow readmeWindow).apply (fresh.restore hostile)
    fresh.Reaches m ∧ m.counter = 900 ∧ (WindowOp.toggleWindow readmeWindow).Fronts m readmeWindow ∧
      ∃ w, ((WindowOp.toggleWindow readmeWindow).apply m).focused? = some w ∧
        w.id = readmeWindow ∧ w.zIndex = 901 := by
  intro m
  have hm : fresh.Reaches m :=
    .apply (.closeWindow readmeWindow) (.restore hostile .refl) (by decide)
  have hfronts : (WindowOp.toggleWindow readmeWindow).Fronts m readmeWindow := ⟨rfl, by decide⟩
  obtain ⟨-, -, -, -, -, -, -, -, hfront⟩ := standing_of_reaches hm
  obtain ⟨w, hget, hfocus, -⟩ :=
    hfront (.toggleWindow readmeWindow) readmeWindow (by decide) (by decide) hfronts
  have hplace : ((WindowOp.toggleWindow readmeWindow).apply m).place readmeWindow = 901 := by decide
  refine ⟨hm, by decide, hfronts, w, hfocus, ?_, ?_⟩
  · simpa using List.find?_some hget
  · simpa [place, hget] using hplace

end Manager

end PocketDesk
