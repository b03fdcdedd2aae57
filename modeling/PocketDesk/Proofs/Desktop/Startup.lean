import PocketDesk.Desktop.Startup
import PocketDesk.Proofs.Desktop.Reached

/-! # The desktop at the start of a visit

Nothing is taken over from a text that does not load, and all of it from one that does.
As a text may name one window several times, and windows that there are not, what
counts for a window is the last entry of its name, and what counts for the counter is
every entry of a known name, also one that a later entry takes back. -/

namespace PocketDesk

/-- A registered window as the entries of a snapshot leave it: in the state of the last entry of its
name, and fresh without one. What it showed is not in the entry. -/
def Window.restored (entries : List SavedWindow) (entry : WindowId × String) : Window :=
  match entries.reverse.find? fun e => e.id = entry.1 with
  | some last => ⟨entry.1, entry.2, last.isOpen, last.isMaximized, last.zIndex, none⟩
  | none => .fresh entry

namespace Manager

/-- A manager that holds what a snapshot says, and nothing from anywhere else. -/
structure Holds (m : Manager) (s : Snapshot) : Prop where
  windows : m.windows = registry.map (Window.restored s.windows)
  /-- The counter stands at the highest place among the one before any raise and those of the
  entries whose windows are registered. -/
  counter : IsGreatest {z | z = initialZIndex ∨
    ∃ e ∈ s.windows, e.id ∈ registry.map Prod.fst ∧ e.zIndex = z} m.counter
  sound : m.soundEnabled = s.settings.soundEnabled
  effects : ∀ effect, m.effectActive effect = (effect = matrixEffect && s.settings.matrixActive)
  /-- The entries of other windows make no difference. -/
  known : m = fresh.restore ⟨s.windows.filter fun e => e.id ∈ registry.map Prod.fst, s.settings⟩

theorem knows_fresh (id : WindowId) : fresh.knows id = decide (id ∈ registry.map Prod.fst) := by
  rw [Bool.eq_iff_iff, knows_iff, registered_fresh.ids_eq, decide_eq_true_eq]

theorem windows_restore_fresh (s : Snapshot) :
    (fresh.restore s).windows = registry.map (Window.restored s.windows) := by
  rw [windows_restore, fresh, List.map_map]
  refine List.map_congr_left fun entry _ => ?_
  rw [Function.comp_apply, Window.foldl_takeOver, Window.restored]
  show (s.windows.reverse.find? fun e => e.id = entry.1).elim _ _ = _
  cases s.windows.reverse.find? fun e => e.id = entry.1 <;> rfl

/-- A fresh desktop that takes over a snapshot holds it. -/
theorem holds_restore (s : Snapshot) : (fresh.restore s).Holds s where
  windows := windows_restore_fresh s
  counter := by
    have hgreatest := isGreatest_foldl_max initialZIndex (s.windows.filter fun e => fresh.knows e.id)
    have hcounter : fresh.counter = initialZIndex := rfl
    rw [counter_restore, hcounter]
    simpa only [knows_fresh, List.mem_filter, decide_eq_true_eq, and_assoc] using hgreatest
  sound := rfl
  effects := by
    intro effect
    rw [effectActive_restore]
    by_cases heffect : effect = matrixEffect
    · simp [heffect]
    · rw [if_neg heffect, decide_eq_false heffect]
      rfl
  known := by
    rw [← restore_filter_knows]
    simp only [knows_fresh]

/-- There is a place left when every entry is below the highest one. -/
theorem Holds.room {m : Manager} {s : Snapshot} (h : m.Holds s)
    (hbelow : ∀ e ∈ s.windows, e.zIndex.toNat + 1 < UInt32.size) :
    m.counter.toNat + 1 < UInt32.size := by
  rcases h.counter.1 with hinitial | ⟨e, he, -, hcounter⟩
  · rw [hinitial]
    decide
  · rw [← hcounter]
    exact hbelow e he

/-! ## From the storage -/

/-- **All**: what loads is taken over. -/
theorem start_of_load {storage : Storage} {s : Snapshot} (h : storage.load = .ok (some s)) :
    (start storage).1 = fresh.restore s := by
  simp [start, Storage.loadOrReport, h]

/-- **Or nothing**: without a snapshot the desktop is fresh, whatever kept it from loading. -/
theorem start_of_not_load {storage : Storage} (h : ∀ s, storage.load ≠ .ok (some s)) :
    (start storage).1 = fresh := by
  unfold start Storage.loadOrReport
  cases hload : storage.load with
  | error e => rfl
  | ok loaded =>
    cases loaded with
    | none => rfl
    | some s => exact absurd hload (h s)

theorem counted_start (storage : Storage) : (start storage).1.Counted := by
  by_cases h : ∃ s, storage.load = .ok (some s)
  · obtain ⟨s, hs⟩ := h
    rw [start_of_load hs]
    exact counted_fresh.restore s
  · rw [start_of_not_load fun s hs => h ⟨s, hs⟩]
    exact counted_fresh

/-! ## After the boot screen -/

/-- What the end of the boot screen makes of the windows. -/
structure Greets (m booted : Manager) : Prop where
  someOpen : ∃ w ∈ booted.windows, w.isOpen = true
  /-- The read-me window is opened exactly when nothing is open. -/
  greeting : (m.isOpen readmeWindow = false ∧ booted.isOpen readmeWindow = true) ↔
    ∀ w ∈ m.windows, w.isOpen = false
  /-- Otherwise everything is as it was. -/
  kept : (∃ w ∈ m.windows, w.isOpen = true) → booted = m
  others : ∀ id, id ≠ readmeWindow → booted.get? id = m.get? id
  /-- The window that greets has the focus, at the next place. -/
  inFront : (∀ w ∈ m.windows, w.isOpen = false) → m.counter.toNat + 1 < UInt32.size →
    ∃ w, booted.focused? = some w ∧ w.id = readmeWindow ∧ w.zIndex = m.counter + 1

theorem afterBoot_of_open {m : Manager} (h : ∃ w ∈ m.windows, w.isOpen = true) :
    m.afterBoot = m := by
  obtain ⟨w, hw⟩ := h
  have hopen : m.openWindows ≠ [] := List.ne_nil_of_mem (mem_openWindows.mpr hw)
  rw [afterBoot, if_neg (by simpa using hopen)]

theorem afterBoot_of_closed {m : Manager} (h : ∀ w ∈ m.windows, w.isOpen = false) :
    m.afterBoot = (WindowOp.openWindow readmeWindow none).apply m := by
  have hclosed : m.openWindows = [] := by
    rw [openWindows, List.filter_eq_nil_iff]
    intro w hw
    simp [h w hw]
  rw [afterBoot, if_pos (by simp [hclosed])]
  rfl

theorem greets_of_open {m : Manager} (h : ∃ w ∈ m.windows, w.isOpen = true) :
    m.Greets m := by
  have hsome : ¬ ∀ w ∈ m.windows, w.isOpen = false := by
    obtain ⟨w, hw, hopen⟩ := h
    intro hclosed
    rw [hclosed w hw] at hopen
    cases hopen
  refine ⟨h, ⟨?_, fun hclosed => absurd hclosed hsome⟩, fun _ => rfl, fun _ _ => rfl,
    fun hclosed => absurd hclosed hsome⟩
  rintro ⟨hbefore, hafter⟩
  rw [hbefore] at hafter
  cases hafter

theorem greets_of_closed {m : Manager} (hm : m.Counted) (h : ∀ w ∈ m.windows, w.isOpen = false) :
    m.Greets ((WindowOp.openWindow readmeWindow none).apply m) := by
  have hnodup := hm.registered.nodup
  let op : WindowOp := .openWindow readmeWindow none
  have hknows : m.knows readmeWindow = true := by
    rw [knows_iff, hm.registered.ids_eq]
    decide
  obtain ⟨w, hw, hid⟩ := List.mem_map.mp (knows_iff.mp hknows)
  have hget : m.get? readmeWindow = some w := hid ▸ get?_eq_some hnodup hw
  let w' := op.onWindow (m.counter + 1) w
  have hw' : w' ∈ (op.apply m).windows := (WindowOp.mem_windows_apply hnodup).mpr ⟨w, hw, rfl⟩
  have hget' : (op.apply m).get? readmeWindow = some w' := by
    rw [WindowOp.get?_apply hnodup, hget]
    rfl
  have hopen' : w'.isOpen = true := by
    rw [WindowOp.onWindow_isOpen, WindowOp.opens, hid]
    simp
  have hbefore : m.isOpen readmeWindow = false := by simp [isOpen, hget, h w hw]
  have hafter : (op.apply m).isOpen readmeWindow = true := by simp [isOpen, hget', hopen']
  refine ⟨⟨w', hw', hopen'⟩, iff_of_true ⟨hbefore, hafter⟩ h, ?_, ?_, ?_⟩
  · rintro ⟨v, hv, hopen⟩
    rw [h v hv] at hopen
    cases hopen
  · intro id hne
    exact get?_apply_of_ne hnodup fun hop => hne (Option.some.inj hop).symm
  · intro _ hroom
    have hfit : op.Fits m := fun _ => hroom
    obtain ⟨v, hfound, hfocus, -⟩ := hm.focused?_apply hfit hknows rfl
    obtain rfl : w' = v := Option.some.inj (hget'.symm.trans hfound)
    refine ⟨w', hfocus, (op.onWindow_id _ w).trans hid, ?_⟩
    rw [WindowOp.onWindow_zIndex, if_pos]
    simp [op, WindowOp.raisesWindow, hid]

theorem greets_afterBoot {m : Manager} (hm : m.Counted) : m.Greets m.afterBoot := by
  by_cases h : ∃ w ∈ m.windows, w.isOpen = true
  · rw [afterBoot_of_open h]
    exact greets_of_open h
  · have hclosed : ∀ w ∈ m.windows, w.isOpen = false := by simpa using h
    rw [afterBoot_of_closed hclosed]
    exact greets_of_closed hm hclosed

end Manager

end PocketDesk
