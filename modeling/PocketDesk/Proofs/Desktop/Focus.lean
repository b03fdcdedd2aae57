import PocketDesk.Proofs.Desktop.Registered

/-! # The window in front

Of the open windows one stands furthest in front. There is one as soon as any
window is open, and a window that is above all other open ones is the one. -/

namespace PocketDesk

/-- The window further in front; of equals the second. -/
def Window.inFront (best : Option Window) (w : Window) : Option Window :=
  match best with
  | none => some w
  | some b => if b.zIndex ≤ w.zIndex then some w else some b

theorem Window.foldl_inFront (ws : List Window) (b : Window) :
    ∃ w ∈ b :: ws, ws.foldl inFront (some b) = some w ∧ ∀ v ∈ b :: ws, v.zIndex ≤ w.zIndex := by
  induction ws generalizing b with
  | nil => exact ⟨b, by simp⟩
  | cons c ws ih =>
    by_cases hle : b.zIndex ≤ c.zIndex
    · obtain ⟨w, hw, hfold, hmax⟩ := ih c
      refine ⟨w, List.mem_cons_of_mem _ hw, by simpa [inFront, hle] using hfold, ?_⟩
      have hc := hmax c List.mem_cons_self
      exact List.forall_mem_cons.mpr ⟨UInt32.le_trans hle hc, hmax⟩
    · obtain ⟨w, hw, hfold, hmax⟩ := ih b
      obtain ⟨hb, hrest⟩ := List.forall_mem_cons.mp hmax
      refine ⟨w, ?_, by simpa [inFront, hle] using hfold, ?_⟩
      · rcases List.mem_cons.mp hw with rfl | hw
        · exact List.mem_cons_self
        · exact List.mem_cons_of_mem _ (List.mem_cons_of_mem _ hw)
      · have hc : c.zIndex ≤ w.zIndex := UInt32.le_trans (UInt32.le_of_lt (UInt32.not_le.mp hle)) hb
        exact List.forall_mem_cons.mpr ⟨hb, List.forall_mem_cons.mpr ⟨hc, hrest⟩⟩

namespace Manager

variable {m : Manager}

theorem mem_openWindows {w : Window} : w ∈ m.openWindows ↔ w ∈ m.windows ∧ w.isOpen = true :=
  List.mem_filter

/-- The focused window is open, and no open window is above it. -/
theorem focused?_spec {w : Window} (h : m.focused? = some w) :
    w ∈ m.openWindows ∧ ∀ v ∈ m.openWindows, v.zIndex ≤ w.zIndex := by
  change m.openWindows.foldl Window.inFront none = some w at h
  cases hws : m.openWindows with
  | nil =>
    rw [hws] at h
    cases h
  | cons b ws =>
    obtain ⟨u, hu, hfold, hmax⟩ := Window.foldl_inFront ws b
    rw [hws] at h
    obtain rfl : u = w := Option.some.inj (hfold.symm.trans h)
    exact ⟨hu, hmax⟩

theorem focused?_eq_none_iff : m.focused? = none ↔ m.openWindows = [] := by
  change m.openWindows.foldl Window.inFront none = none ↔ _
  cases hws : m.openWindows with
  | nil => simp
  | cons b ws =>
    obtain ⟨u, -, hfold, -⟩ := Window.foldl_inFront ws b
    change ws.foldl Window.inFront (some b) = none ↔ _
    simp [hfold]

theorem focused?_eq_some {w : Window} (hw : w ∈ m.openWindows)
    (h : ∀ v ∈ m.openWindows, v ≠ w → v.zIndex < w.zIndex) : m.focused? = some w := by
  cases hf : m.focused? with
  | none =>
    rw [focused?_eq_none_iff.mp hf] at hw
    cases hw
  | some u =>
    obtain ⟨hu, hmax⟩ := focused?_spec hf
    by_cases heq : u = w
    · rw [heq]
    · exact absurd (UInt32.lt_of_lt_of_le (h u hu heq) (hmax w hw)) (UInt32.lt_irrefl _)

end Manager

end PocketDesk
