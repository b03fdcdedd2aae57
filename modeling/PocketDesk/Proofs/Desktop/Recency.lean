import Mathlib.Data.List.Nodup
import PocketDesk.Proofs.Desktop.Focus
import PocketDesk.Proofs.Desktop.Run

/-! # The stack as a list of raises

The places in the stack are numbers that are given out one after another. What
they stand for can be told without numbers: the windows by the time of their last
raise, and which of them are open. The open windows, sorted by their places, are
the open ones of that list; so the focus is on the window that was raised last
among those still open, and closing it hands the focus to the one before. -/

namespace PocketDesk

/-- What a run did to the windows, told without places. -/
structure Recency where
  /-- Every window that was ever raised, each once, the one raised last first. -/
  raised : List WindowId
  isOpen : WindowId → Bool

namespace Recency

def fresh : Recency := ⟨[], fun _ => false⟩

/-- A raise puts the window first, wherever it was. -/
def raise (r : Recency) (id : WindowId) : Recency := { r with raised := id :: r.raised.erase id }

def setOpen (r : Recency) (id : WindowId) (on : Bool) : Recency :=
  { r with isOpen := fun v => if v = id then on else r.isOpen v }

def known : List WindowId := registry.map Prod.fst

def step (r : Recency) : WindowOp → Recency
  | .openWindow v _ => if v ∈ known then (r.setOpen v true).raise v else r
  | .closeWindow v => r.setOpen v false
  | .toggleWindow v =>
    if r.isOpen v then r.setOpen v false else if v ∈ known then (r.setOpen v true).raise v else r
  | .raise v => if v ∈ known then r.raise v else r
  | .toggleMaximized _ | .toggleEffect _ | .setSound _ => r

def run (r : Recency) (ops : List WindowOp) : Recency := ops.foldl step r

/-- The open windows, the one raised last first. -/
def order (r : Recency) : List WindowId := r.raised.filter r.isOpen

theorem mem_raised_raise {r : Recency} {id v : WindowId} :
    v ∈ (r.raise id).raised ↔ v = id ∨ v ∈ r.raised := by
  by_cases hv : v = id
  · simp [raise, hv]
  · simp [raise, hv, List.mem_erase_of_ne hv]

theorem opened_step {r : Recency} (h : ∀ id, r.isOpen id = true → id ∈ r.raised) (op : WindowOp) :
    ∀ id, (r.step op).isOpen id = true → id ∈ (r.step op).raised := by
  intro id hid
  cases op <;> grind [step, setOpen, raise, mem_raised_raise]

end Recency

/-! ## How the places tell the same -/

/-- The manager stands as the run is told: the places go down along the list of raises, and all of
them are above those of windows that were never raised. -/
structure Manager.Follows (m : Manager) (r : Recency) : Prop extends m.Counted where
  isOpen : ∀ w ∈ m.windows, r.isOpen w.id = w.isOpen
  opened : ∀ id, r.isOpen id = true → id ∈ r.raised
  known : ∀ id ∈ r.raised, id ∈ m.ids
  sorted : r.raised.Pairwise fun a b => m.place b < m.place a
  above : ∀ id ∈ r.raised, initialZIndex < m.place id

namespace Manager

variable {m : Manager} {r : Recency}

theorem follows_fresh : fresh.Follows .fresh where
  toCounted := counted_fresh
  isOpen := by decide
  opened := by simp [Recency.fresh]
  known := by simp [Recency.fresh]
  sorted := by simp [Recency.fresh]
  above := by simp [Recency.fresh]

theorem Follows.nodup (h : m.Follows r) : r.raised.Nodup := by
  refine h.sorted.imp fun {a b} hlt heq => ?_
  rw [heq] at hlt
  exact UInt32.lt_irrefl _ hlt

theorem Follows.mem_known_iff (h : m.Follows r) {id : WindowId} :
    id ∈ Recency.known ↔ id ∈ m.ids := by
  rw [h.registered.ids_eq]
  rfl

/-- Whether a window is open afterwards is told alike. -/
theorem Follows.isOpen_step (h : m.Follows r) (op : WindowOp) {w : Window} (hw : w ∈ m.windows) :
    (r.step op).isOpen w.id = op.opens w.id w.isOpen := by
  have hopen := h.isOpen w hw
  have hknown : w.id ∈ Recency.known := h.mem_known_iff.mpr (List.mem_map_of_mem hw)
  cases op <;> grind [Recency.step, Recency.setOpen, Recency.raise, WindowOp.opens]

/-- What is raised is told alike: one window of the manager goes first, or nothing moves. -/
theorem Follows.raised_step (h : m.Follows r) (op : WindowOp) :
    (∃ w ∈ m.windows, op.raisesWindow w = true ∧
      (r.step op).raised = w.id :: r.raised.erase w.id) ∨
    (op.raises m = false ∧ (r.step op).raised = r.raised) := by
  have hwindow : ∀ v ∈ Recency.known, ∃ w ∈ m.windows, w.id = v := fun v hv =>
    List.mem_map.mp (h.mem_known_iff.mp hv)
  have hunknown : ∀ v ∉ Recency.known, m.knows v = false := fun v hv => by
    rw [← Bool.not_eq_true, knows_iff, ← h.mem_known_iff]
    exact hv
  rw [WindowOp.raises_eq h.registered.nodup]
  cases op with
  | openWindow v p =>
    by_cases hv : v ∈ Recency.known
    · obtain ⟨w, hw, rfl⟩ := hwindow v hv
      left
      exact ⟨w, hw, by simp [WindowOp.raisesWindow], by simp [Recency.step, hv]; rfl⟩
    · right
      exact ⟨hunknown v hv, by simp [Recency.step, hv]⟩
  | toggleWindow v =>
    by_cases hv : v ∈ Recency.known
    · obtain ⟨w, hw, rfl⟩ := hwindow v hv
      have hopen := h.isOpen w hw
      cases hw' : w.isOpen with
      | true =>
        right
        rw [hw'] at hopen
        refine ⟨?_, by simp [Recency.step, hopen]; rfl⟩
        simp [isOpen_eq h.registered.nodup hw, hw']
      | false =>
        left
        rw [hw'] at hopen
        exact ⟨w, hw, by simp [WindowOp.raisesWindow, hw'], by
          simp [Recency.step, hopen, hv]; rfl⟩
    · right
      refine ⟨by simp [hunknown v hv], ?_⟩
      simp only [Recency.step, hv, if_false]
      split <;> rfl
  | raise v =>
    by_cases hv : v ∈ Recency.known
    · obtain ⟨w, hw, rfl⟩ := hwindow v hv
      left
      exact ⟨w, hw, by simp [WindowOp.raisesWindow], by simp [Recency.step, hv]; rfl⟩
    · right
      exact ⟨hunknown v hv, by simp [Recency.step, hv]⟩
  | closeWindow v => exact .inr ⟨rfl, rfl⟩
  | toggleMaximized v => exact .inr ⟨rfl, rfl⟩
  | toggleEffect e => exact .inr ⟨rfl, rfl⟩
  | setSound on => exact .inr ⟨rfl, rfl⟩

theorem id_eq_of_raisesWindow {op : WindowOp} {v w : Window} (hv : op.raisesWindow v = true)
    (hw : op.raisesWindow w = true) : v.id = w.id := by
  unfold WindowOp.raisesWindow at hv hw
  cases op <;> grind

/-- A window that is not raised keeps its place. -/
theorem Follows.place_eq_of_ne (h : m.Follows r) {op : WindowOp} {v : Window}
    (hv : op.raisesWindow v = true) {id : WindowId} (hid : id ∈ r.raised) (hne : id ≠ v.id) :
    (op.apply m).place id = m.place id := by
  obtain ⟨w, hw, rfl⟩ := List.mem_map.mp (h.known id hid)
  rw [place_apply h.registered op hw, if_neg]
  intro hraise
  exact hne (id_eq_of_raisesWindow hraise hv)

theorem Follows.isOpen_apply (h : m.Follows r) (op : WindowOp) :
    ∀ w ∈ (op.apply m).windows, (r.step op).isOpen w.id = w.isOpen := by
  intro w' hw'
  obtain ⟨w, hw, rfl⟩ := (WindowOp.mem_windows_apply h.registered.nodup).mp hw'
  rw [WindowOp.onWindow_id, WindowOp.onWindow_isOpen, h.isOpen_step op hw]

theorem Follows.ids_apply (h : m.Follows r) (op : WindowOp) : (op.apply m).ids = m.ids := by
  rw [(h.registered.apply op).ids_eq, h.registered.ids_eq]

/-- A window that is raised takes the place above all others, and that is told by putting it
first. -/
theorem Follows.apply_of_raises (h : m.Follows r) {op : WindowOp} (hfit : op.Fits m) {v : Window}
    (hv : v ∈ m.windows) (hraise : op.raisesWindow v = true)
    (hraised : (r.step op).raised = v.id :: r.raised.erase v.id) :
    (op.apply m).Follows (r.step op) := by
  have hroom : m.counter < m.counter + 1 :=
    counter_lt_next (hfit (List.any_eq_true.mpr ⟨v, hv, hraise⟩))
  have hfirst : (op.apply m).place v.id = m.counter + 1 := by
    rw [place_apply h.registered op hv, if_pos hraise]
  have hkeep : ∀ id ∈ r.raised.erase v.id, (op.apply m).place id = m.place id := by
    intro id hid
    obtain ⟨hne, hid⟩ := (h.nodup.mem_erase_iff).mp hid
    exact h.place_eq_of_ne hraise hid hne
  refine ⟨h.toCounted.apply hfit, h.isOpen_apply op, Recency.opened_step h.opened op, ?_, ?_, ?_⟩
  · rw [hraised, h.ids_apply op]
    refine List.forall_mem_cons.mpr ⟨List.mem_map_of_mem hv, fun id hid => ?_⟩
    exact h.known id (List.mem_of_mem_erase hid)
  · rw [hraised]
    refine List.pairwise_cons.mpr ⟨fun id hid => ?_, ?_⟩
    · rw [hkeep id hid, hfirst]
      obtain ⟨w, hw, rfl⟩ := List.mem_map.mp (h.known id (List.mem_of_mem_erase hid))
      rw [place_eq h.registered.nodup hw]
      exact UInt32.lt_of_le_of_lt (h.counted w hw) hroom
    · refine (h.sorted.sublist List.erase_sublist).imp_of_mem fun {a b} ha hb hlt => ?_
      rwa [hkeep a ha, hkeep b hb]
  · rw [hraised]
    refine List.forall_mem_cons.mpr ⟨?_, fun id hid => ?_⟩
    · rw [hfirst]
      exact UInt32.lt_of_le_of_lt h.initial hroom
    · rw [hkeep id hid]
      exact h.above id (List.mem_of_mem_erase hid)

/-- An operation that raises nothing moves no window of the list. -/
theorem Follows.apply_of_not_raises (h : m.Follows r) {op : WindowOp} (hfit : op.Fits m)
    (hnone : op.raises m = false) (hraised : (r.step op).raised = r.raised) :
    (op.apply m).Follows (r.step op) := by
  have hkeep : ∀ id ∈ r.raised, (op.apply m).place id = m.place id := by
    intro id hid
    obtain ⟨w, hw, rfl⟩ := List.mem_map.mp (h.known id hid)
    have hnot : ¬op.raisesWindow w = true := List.any_eq_false.mp hnone w hw
    rw [place_apply h.registered op hw, if_neg hnot]
  refine ⟨h.toCounted.apply hfit, h.isOpen_apply op, Recency.opened_step h.opened op, ?_, ?_, ?_⟩
  · rw [hraised, h.ids_apply op]
    exact h.known
  · rw [hraised]
    refine h.sorted.imp_of_mem fun {a b} ha hb hlt => ?_
    rwa [hkeep a ha, hkeep b hb]
  · rw [hraised]
    intro id hid
    rw [hkeep id hid]
    exact h.above id hid

/-- **One operation.** -/
theorem Follows.apply (h : m.Follows r) {op : WindowOp} (hfit : op.Fits m) :
    (op.apply m).Follows (r.step op) := by
  rcases h.raised_step op with ⟨v, hv, hraise, hraised⟩ | ⟨hnone, hraised⟩
  · exact h.apply_of_raises hfit hv hraise hraised
  · exact h.apply_of_not_raises hfit hnone hraised

theorem Follows.run (h : m.Follows r) {ops : List WindowOp} (hfit : m.Within ops) :
    (m.run ops).Follows (r.run ops) := by
  induction ops generalizing m r with
  | nil => exact h
  | cons op ops ih => exact ih (h.apply hfit.1) hfit.2

/-! ## The open windows in order -/

theorem Follows.openWindows_perm (h : m.Follows r) :
    (m.openWindows.map Window.id).Perm r.order := by
  have hnodup : (m.openWindows.map Window.id).Nodup :=
    h.registered.nodup.sublist (List.filter_sublist.map _)
  refine (List.perm_ext_iff_of_nodup hnodup (h.nodup.filter _)).mpr fun id => ?_
  rw [List.mem_filter]
  constructor
  · intro hid
    obtain ⟨w, hw, rfl⟩ := List.mem_map.mp hid
    obtain ⟨hw, hopen⟩ := mem_openWindows.mp hw
    have hr := (h.isOpen w hw).trans hopen
    exact ⟨h.opened _ hr, hr⟩
  · rintro ⟨hid, hr⟩
    obtain ⟨w, hw, rfl⟩ := List.mem_map.mp (h.known id hid)
    exact List.mem_map_of_mem (mem_openWindows.mpr ⟨hw, (h.isOpen w hw).symm.trans hr⟩)

theorem Follows.sorted_order (h : m.Follows r) :
    r.order.Pairwise fun a b => m.place b < m.place a :=
  h.sorted.sublist List.filter_sublist

theorem Follows.mem_order (h : m.Follows r) {w : Window} (hw : w ∈ m.openWindows) :
    w.id ∈ r.order ∧ m.place w.id = w.zIndex :=
  ⟨h.openWindows_perm.mem_iff.mp (List.mem_map_of_mem hw),
    place_eq h.registered.nodup (mem_openWindows.mp hw).1⟩

theorem Follows.eq_of_place_eq (h : m.Follows r) {a b : WindowId} (ha : a ∈ r.order)
    (hb : b ∈ r.order) (hplace : m.place a = m.place b) : a = b := by
  have hdistinct : (r.order.map m.place).Nodup :=
    List.pairwise_map.mpr (h.sorted_order.imp fun hlt => (UInt32.ne_of_lt hlt).symm)
  exact List.inj_on_of_nodup_map hdistinct ha hb hplace

/-- Sorting the open windows by their places gives them in the order of their raises. -/
theorem Follows.mergeSort_openWindows (h : m.Follows r) :
    (m.openWindows.mergeSort fun a b => b.zIndex ≤ a.zIndex).map Window.id = r.order := by
  have hperm := List.mergeSort_perm m.openWindows fun a b => b.zIndex ≤ a.zIndex
  have hids := (hperm.map Window.id).trans h.openWindows_perm
  have hsorted : (m.openWindows.mergeSort fun a b => b.zIndex ≤ a.zIndex).Pairwise
      fun a b => decide (b.zIndex ≤ a.zIndex) = true :=
    List.pairwise_mergeSort (by simpa using fun a b c hab hbc => UInt32.le_trans hbc hab)
      (by simpa using fun a b => UInt32.le_total _ _) m.openWindows
  have hplaces : ((m.openWindows.mergeSort fun a b => b.zIndex ≤ a.zIndex).map Window.id).Pairwise
      fun a b => m.place b ≤ m.place a := by
    refine List.pairwise_map.mpr (hsorted.imp_of_mem fun {a b} ha hb hle => ?_)
    rw [(h.mem_order (hperm.mem_iff.mp ha)).2, (h.mem_order (hperm.mem_iff.mp hb)).2]
    exact of_decide_eq_true hle
  have horder : r.order.Pairwise fun a b => m.place b ≤ m.place a :=
    h.sorted_order.imp UInt32.le_of_lt
  refine List.Perm.eq_of_pairwise ?_ hplaces horder hids
  intro a b ha hb hba hab
  exact h.eq_of_place_eq (hids.mem_iff.mp ha) hb (UInt32.le_antisymm hab hba)

/-- The focus is on the open window that was raised last. -/
theorem Follows.focused? (h : m.Follows r) : m.focused?.map Window.id = r.order.head? := by
  cases horder : r.order with
  | nil =>
    have hnone : m.openWindows = [] := by
      have hperm := h.openWindows_perm
      rw [horder] at hperm
      exact List.map_eq_nil_iff.mp hperm.eq_nil
    rw [focused?_eq_none_iff.mpr hnone]
    rfl
  | cons id rest =>
    have hsorted := h.sorted_order
    rw [horder] at hsorted
    obtain ⟨w, hw, hid⟩ := List.mem_map.mp
      (h.openWindows_perm.mem_iff.mpr (by rw [horder]; exact List.mem_cons_self))
    have hfocus : m.focused? = some w := by
      refine focused?_eq_some hw fun v hv hne => ?_
      obtain ⟨hvorder, hvplace⟩ := h.mem_order hv
      rw [horder] at hvorder
      rw [← hvplace, ← (h.mem_order hw).2, hid]
      refine (List.pairwise_cons.mp hsorted).1 v.id ?_
      refine (List.mem_cons.mp hvorder).resolve_left fun hsame => hne ?_
      have hv' := get?_eq_some h.registered.nodup (mem_openWindows.mp hv).1
      have hw' := get?_eq_some h.registered.nodup (mem_openWindows.mp hw).1
      rw [hsame, ← hid, hw'] at hv'
      exact (Option.some.inj hv').symm
    rw [hfocus, Option.map_some, hid]
    rfl

theorem Follows.order_close (h : m.Follows r) {id : WindowId} (hid : r.order.head? = some id) :
    (r.setOpen id false).order = r.order.tail := by
  have hset : (r.setOpen id false).order = r.order.filter (· ≠ id) := by
    simp only [Recency.order, Recency.setOpen, List.filter_filter]
    refine List.filter_congr fun v _ => ?_
    by_cases hv : v = id <;> simp [hv]
  have hnodup : r.order.Nodup := h.nodup.filter _
  cases horder : r.order with
  | nil =>
    rw [horder] at hid
    cases hid
  | cons v rest =>
    rw [horder] at hid hnodup
    obtain rfl : v = id := Option.some.inj hid
    have hv := (List.nodup_cons.mp hnodup).1
    rw [hset, horder, List.filter_cons_of_neg (by simp)]
    refine List.filter_eq_self.mpr fun u hu => ?_
    have hne : u ≠ v := fun heq => hv (heq ▸ hu)
    simpa using hne

/-- **The stack is a list of raises.** After any run from a fresh desktop that does not exhaust the
counter, every open window is above the places that were never given out, no two open windows share
a place, and from the highest place to the lowest the open windows stand as they were raised, the
last raised one first. That one has the focus, and when it is closed the next one has it. -/
theorem stack_eq_recency {ops : List WindowOp} (hfit : fresh.Within ops) :
    (∀ w ∈ (fresh.run ops).openWindows, initialZIndex < w.zIndex) ∧
    (fresh.run ops).openWindows.Pairwise (fun a b => a.zIndex ≠ b.zIndex) ∧
    ((fresh.run ops).openWindows.mergeSort fun a b => b.zIndex ≤ a.zIndex).map Window.id =
      (Recency.fresh.run ops).order ∧
    (fresh.run ops).focused?.map Window.id = (Recency.fresh.run ops).order.head? ∧
    ∀ w, (fresh.run ops).focused? = some w →
      ((fresh.run ops).closeWindow w.id).focused?.map Window.id =
        (Recency.fresh.run ops).order.tail.head? := by
  have h := follows_fresh.run hfit
  refine ⟨?_, ?_, h.mergeSort_openWindows, h.focused?, ?_⟩
  · intro w hw
    obtain ⟨hid, hplace⟩ := h.mem_order hw
    rw [← hplace]
    exact h.above w.id (List.mem_filter.mp hid).1
  · have hids : (fresh.run ops).openWindows.Pairwise fun a b => a.id ≠ b.id :=
      List.pairwise_map.mp (h.openWindows_perm.nodup_iff.mpr (h.nodup.filter _))
    refine hids.imp_of_mem fun {a b} ha hb hne hz => hne ?_
    obtain ⟨haid, haplace⟩ := h.mem_order ha
    obtain ⟨hbid, hbplace⟩ := h.mem_order hb
    exact h.eq_of_place_eq haid hbid (by rw [haplace, hbplace, hz])
  · intro w hw
    have hhead : (Recency.fresh.run ops).order.head? = some w.id := by
      rw [← h.focused?, hw]
      rfl
    have hfits : (WindowOp.closeWindow w.id).Fits (fresh.run ops) := by
      intro hraise
      rw [WindowOp.raises_eq h.registered.nodup] at hraise
      cases hraise
    have hclose := h.apply hfits
    rw [← h.order_close hhead]
    exact hclose.focused?

/-- Raises of an unknown and of a closed window, a toggle, and a window that is opened again. -/
def reopening : List WindowOp :=
  [ .openWindow terminalWindow none, .openWindow filesWindow none, .raise ⟨"solitaire"⟩
  , .raise readmeWindow, .toggleWindow settingsWindow, .closeWindow filesWindow
  , .raise terminalWindow, .openWindow filesWindow none ]

theorem stack_eq_recency_reopening :
    fresh.Within reopening ∧
    ((fresh.run reopening).openWindows.mergeSort fun a b => b.zIndex ≤ a.zIndex).map Window.id =
      [filesWindow, terminalWindow, settingsWindow] ∧
    (fresh.run reopening).focused?.map Window.id = some filesWindow ∧
    ((fresh.run reopening).closeWindow filesWindow).focused?.map Window.id =
      some terminalWindow := by
  have hfit : fresh.Within reopening := by decide
  obtain ⟨-, -, hsort, hfocus, hclose⟩ := stack_eq_recency hfit
  have horder : (Recency.fresh.run reopening).order =
      [filesWindow, terminalWindow, settingsWindow] := by decide
  rw [horder] at hsort hfocus hclose
  obtain ⟨w, hw, hid⟩ := Option.map_eq_some_iff.mp hfocus
  exact ⟨hfit, hsort, hfocus, hid ▸ hclose w hw⟩

end Manager

end PocketDesk
