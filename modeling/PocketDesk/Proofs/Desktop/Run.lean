import PocketDesk.Proofs.Desktop.Registered

/-! # Runs of operations

A run applies operations one after another. It stays within its bounds when no
operation is asked to raise a window while the counter has no next place left. -/

namespace PocketDesk

/-- There is a place left for the window that the operation raises, if it raises one. -/
def WindowOp.Fits (op : WindowOp) (m : Manager) : Prop :=
  op.raises m = true → m.counter.toNat + 1 < UInt32.size

instance (op : WindowOp) (m : Manager) : Decidable (op.Fits m) :=
  inferInstanceAs (Decidable (_ → _))

namespace Manager

def run (m : Manager) (ops : List WindowOp) : Manager := ops.foldl (fun m op => op.apply m) m

/-- Every operation of the run fits when its turn comes. -/
def Within (m : Manager) : List WindowOp → Prop
  | [] => True
  | op :: ops => op.Fits m ∧ (op.apply m).Within ops

instance Within.decidable : (m : Manager) → (ops : List WindowOp) → Decidable (m.Within ops)
  | _, [] => .isTrue trivial
  | m, op :: ops =>
    have := Within.decidable (op.apply m) ops
    inferInstanceAs (Decidable (_ ∧ _))

/-- What holds at the start and survives every operation that fits holds after every run. -/
theorem run_induction {P : Manager → Prop}
    (hstep : ∀ m op, P m → WindowOp.Fits op m → P (op.apply m)) {m : Manager} (hm : P m)
    {ops : List WindowOp} (hfit : m.Within ops) : P (m.run ops) := by
  induction ops generalizing m with
  | nil => exact hm
  | cons op ops ih => exact ih (hstep m op hm hfit.1) hfit.2

/-! ## The counter -/

/-- The windows are the registered ones, and the counter has counted all their places. -/
structure Counted (m : Manager) : Prop where
  registered : m.Registered
  counted : ∀ w ∈ m.windows, w.zIndex ≤ m.counter
  initial : initialZIndex ≤ m.counter

theorem counted_fresh : fresh.Counted where
  registered := registered_fresh
  counted := by decide
  initial := by decide

variable {m : Manager} {op : WindowOp}

/-- The next place is above the counter. -/
theorem counter_lt_next (hroom : m.counter.toNat + 1 < UInt32.size) : m.counter < m.counter + 1 := by
  have hnext : (m.counter + 1).toNat = m.counter.toNat + 1 := by
    rw [UInt32.toNat_add]
    exact Nat.mod_eq_of_lt hroom
  rw [UInt32.lt_iff_toNat_lt, hnext]
  exact Nat.lt_succ_self _

theorem counter_le_apply (hm : m.ids.Nodup) (hfit : op.Fits m) :
    m.counter ≤ (op.apply m).counter := by
  rw [WindowOp.counter_apply hm]
  split
  · next hraise => exact UInt32.le_of_lt (counter_lt_next (hfit hraise))
  · exact UInt32.le_refl _

theorem Counted.apply (h : m.Counted) (hfit : op.Fits m) : (op.apply m).Counted where
  registered := h.registered.apply op
  initial := UInt32.le_trans h.initial (counter_le_apply h.registered.nodup hfit)
  counted := by
    intro w' hw'
    obtain ⟨w, hw, rfl⟩ := (WindowOp.mem_windows_apply h.registered.nodup).mp hw'
    rw [WindowOp.onWindow_zIndex]
    split
    · next hraise =>
      have hraises : op.raises m = true := List.any_eq_true.mpr ⟨w, hw, hraise⟩
      rw [WindowOp.counter_apply h.registered.nodup, if_pos hraises]
      exact UInt32.le_refl _
    · exact UInt32.le_trans (h.counted w hw) (counter_le_apply h.registered.nodup hfit)

/-- After an operation a window has the next place, if it was raised, or the one it had. -/
theorem place_apply (hm : m.Registered) (op : WindowOp) {w : Window} (hw : w ∈ m.windows) :
    (op.apply m).place w.id = if op.raisesWindow w then m.counter + 1 else m.place w.id := by
  rw [place_eq hm.nodup hw, place, WindowOp.get?_apply hm.nodup, get?_eq_some hm.nodup hw]
  exact op.onWindow_zIndex _ w

end Manager

end PocketDesk
