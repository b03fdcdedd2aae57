import Mathlib.Order.Bounds.Defs
import PocketDesk.Proofs.Desktop.Registered

/-! # What restoring a snapshot does

The entries of a snapshot are taken over one after another, so for every window the
last entry of its name counts, and entries of other names are as good as absent. The
counter ends at the highest place among itself and the entries that were taken over. -/

namespace PocketDesk

/-! ## One window -/

/-- What one entry of a snapshot makes of a window. -/
def Window.takeOver (w : Window) (s : SavedWindow) : Window :=
  if w.id = s.id then
    { w with isOpen := s.isOpen, isMaximized := s.isMaximized, zIndex := s.zIndex }
  else w

@[simp] theorem Window.takeOver_id (w : Window) (s : SavedWindow) : (w.takeOver s).id = w.id := by
  unfold takeOver
  split <;> rfl

@[simp] theorem Window.takeOver_title (w : Window) (s : SavedWindow) :
    (w.takeOver s).title = w.title := by
  unfold takeOver
  split <;> rfl

/-- The last entry of the window's name is the one that counts. -/
theorem Window.foldl_takeOver (entries : List SavedWindow) (w : Window) :
    entries.foldl takeOver w =
      (entries.reverse.find? fun s => s.id = w.id).elim w fun s =>
        { w with isOpen := s.isOpen, isMaximized := s.isMaximized, zIndex := s.zIndex } := by
  induction entries generalizing w with
  | nil => rfl
  | cons s entries ih =>
    rw [List.foldl_cons, ih, takeOver_id, List.reverse_cons, List.find?_append]
    by_cases hid : w.id = s.id
    · rw [takeOver, if_pos hid]
      cases entries.reverse.find? fun s => s.id = w.id <;> simp [hid]
    · rw [takeOver, if_neg hid]
      cases entries.reverse.find? fun s => s.id = w.id <;> simp [Ne.symm hid]

theorem Window.foldl_takeOver_name (entries : List SavedWindow) (w : Window) :
    (entries.foldl takeOver w).id = w.id ∧ (entries.foldl takeOver w).title = w.title := by
  rw [foldl_takeOver]
  cases entries.reverse.find? fun s => s.id = w.id <;> exact ⟨rfl, rfl⟩

theorem Window.saved_foldl_takeOver (entries : List SavedWindow) (w : Window) :
    Manager.saved (entries.foldl takeOver w) =
      (entries.reverse.find? fun s => s.id = w.id).getD (Manager.saved w) := by
  rw [foldl_takeOver]
  cases hlast : entries.reverse.find? fun s => s.id = w.id with
  | none => rfl
  | some last =>
    have hid : last.id = w.id := by simpa using List.find?_some hlast
    simp [Manager.saved, ← hid]

/-! ## The highest place -/

namespace Manager

theorem le_max (a b : UInt32) : a ≤ max a b ∧ b ≤ max a b := by
  have hmax : max a b = if a ≤ b then b else a := rfl
  rw [hmax]
  split
  · next hle => exact ⟨hle, UInt32.le_refl _⟩
  · next hlt => exact ⟨UInt32.le_refl _, UInt32.le_of_lt (UInt32.not_le.mp hlt)⟩

theorem max_eq_or (a b : UInt32) : max a b = a ∨ max a b = b := by
  have hmax : max a b = if a ≤ b then b else a := rfl
  rw [hmax]
  split
  · exact .inr rfl
  · exact .inl rfl

/-- Going from entry to entry, one ends at the highest place on the way. -/
theorem isGreatest_foldl_max (c : UInt32) (entries : List SavedWindow) :
    IsGreatest {z | z = c ∨ ∃ e ∈ entries, e.zIndex = z}
      (entries.foldl (fun c e => max c e.zIndex) c) := by
  induction entries generalizing c with
  | nil =>
    refine ⟨.inl rfl, ?_⟩
    rintro z (rfl | ⟨e, he, -⟩)
    · exact UInt32.le_refl _
    · cases he
  | cons e entries ih =>
    obtain ⟨hattained, hbound⟩ := ih (max c e.zIndex)
    obtain ⟨hc, he⟩ := le_max c e.zIndex
    have hmax := hbound (.inl rfl)
    rw [List.foldl_cons]
    constructor
    · rcases hattained with htop | ⟨f, hf, hfz⟩
      · rw [htop]
        rcases max_eq_or c e.zIndex with hsame | hsame
        · exact .inl hsame
        · exact .inr ⟨e, List.mem_cons_self, hsame.symm⟩
      · exact .inr ⟨f, List.mem_cons_of_mem _ hf, hfz⟩
    · rintro z (rfl | ⟨f, hf, rfl⟩)
      · exact UInt32.le_trans hc hmax
      · rcases List.mem_cons.mp hf with rfl | hf
        · exact UInt32.le_trans he hmax
        · exact hbound (.inr ⟨f, hf, rfl⟩)

/-! ## All windows -/

theorem windows_restoreWindow (m : Manager) (s : SavedWindow) :
    (m.restoreWindow s).windows = m.windows.map (·.takeOver s) := by
  unfold restoreWindow
  split
  · rfl
  · next hk =>
    have hsame := update_of_not_knows (by simpa using hk) fun w =>
      { w with isOpen := s.isOpen, isMaximized := s.isMaximized, zIndex := s.zIndex }
    exact (congrArg Manager.windows hsame).symm

theorem knows_restoreWindow (m : Manager) (s : SavedWindow) (id : WindowId) :
    (m.restoreWindow s).knows id = m.knows id := by
  rw [Bool.eq_iff_iff, knows_iff, knows_iff, ids, windows_restoreWindow, List.map_map]
  simp [ids, Function.comp_def]

theorem counter_restoreWindow (m : Manager) (s : SavedWindow) :
    (m.restoreWindow s).counter = if m.knows s.id then max m.counter s.zIndex else m.counter := by
  unfold restoreWindow
  split <;> rfl

/-- The entries of windows that are not known might as well not be there. -/
theorem restore_filter_knows (m : Manager) (s : Snapshot) :
    m.restore ⟨s.windows.filter fun e => m.knows e.id, s.settings⟩ = m.restore s := by
  have hfold : (s.windows.filter fun e => m.knows e.id).foldl restoreWindow m =
      s.windows.foldl restoreWindow m := by
    induction s.windows generalizing m with
    | nil => rfl
    | cons entry entries ih =>
      rw [List.foldl_cons, ← ih]
      simp only [knows_restoreWindow]
      cases hk : m.knows entry.id with
      | true => simp [hk]
      | false => simp [hk, restoreWindow]
  unfold restore
  rw [hfold]

theorem windows_restore (m : Manager) (s : Snapshot) :
    (m.restore s).windows = m.windows.map fun w => s.windows.foldl Window.takeOver w := by
  show (s.windows.foldl restoreWindow m).windows = _
  induction s.windows generalizing m with
  | nil => exact (List.map_id _).symm
  | cons entry entries ih =>
    rw [List.foldl_cons, ih, windows_restoreWindow, List.map_map]
    rfl

/-- Only the entries of known windows move the counter. -/
theorem counter_restore (m : Manager) (s : Snapshot) :
    (m.restore s).counter =
      (s.windows.filter fun e => m.knows e.id).foldl (fun c e => max c e.zIndex) m.counter := by
  show (s.windows.foldl restoreWindow m).counter = _
  induction s.windows generalizing m with
  | nil => rfl
  | cons entry entries ih =>
    rw [List.foldl_cons, ih, counter_restoreWindow]
    simp only [knows_restoreWindow]
    by_cases hk : m.knows entry.id = true
    · simp [hk]
    · simp [hk]

/-- A snapshot switches one effect, and leaves the others as they are. -/
theorem effectActive_restore (m : Manager) (s : Snapshot) (effect : String) :
    (m.restore s).effectActive effect =
      if effect = matrixEffect then s.settings.matrixActive else m.effectActive effect := by
  have heffects : (s.windows.foldl restoreWindow m).effects = m.effects := by
    induction s.windows generalizing m with
    | nil => rfl
    | cons entry entries ih =>
      rw [List.foldl_cons, ih, restoreWindow]
      split <;> rfl
  have hset : (m.restore s).effects = m.effects.set matrixEffect s.settings.matrixActive :=
    congrArg (Effects.set · matrixEffect s.settings.matrixActive) heffects
  rw [effectActive, hset]
  split
  · next heffect => rw [heffect, Effects.isActive_set_self]
  · next heffect => exact m.effects.isActive_set_of_ne _ heffect

theorem settings_restore (m : Manager) (s : Snapshot) : (m.restore s).settings = s.settings := by
  rw [settings, effectActive_restore, if_pos rfl]
  rfl

theorem Registered.restore {m : Manager} (hm : m.Registered) (s : Snapshot) :
    (m.restore s).Registered := by
  rw [Registered, windows_restore, List.map_map, ← hm]
  refine List.map_congr_left fun w _ => ?_
  obtain ⟨hid, htitle⟩ := Window.foldl_takeOver_name s.windows w
  rw [Function.comp_apply, hid, htitle]

/-- The restored windows as they would be saved again: each as the last entry of its name. -/
theorem map_saved_restore (m : Manager) (s : Snapshot) :
    (m.restore s).windows.map saved =
      m.windows.map fun w => (s.windows.reverse.find? fun e => e.id = w.id).getD (saved w) := by
  rw [windows_restore, List.map_map]
  exact List.map_congr_left fun w _ => Window.saved_foldl_takeOver s.windows w

end Manager

end PocketDesk
