import PocketDesk.Desktop.WindowOp

/-! # What an operation does to every window

The windows of a manager are the registered ones, in their order and with their
titles, whatever happens to them. As their names are distinct, an operation can
be told window by window: it changes only the window it names, and the one place
that it may give out is the next one after the counter. -/

namespace PocketDesk

/-! ## One window -/

namespace WindowOp

/-- Does the operation raise this window? A toggle raises the window that it opens. -/
def raisesWindow (op : WindowOp) (w : Window) : Bool :=
  match op with
  | .openWindow v _ | .raise v => w.id = v
  | .toggleWindow v => w.id = v && !w.isOpen
  | _ => false

/-- What the operation makes of a window, where `next` is the place for the window it raises. -/
def onWindow (op : WindowOp) (next : UInt32) (w : Window) : Window :=
  match op with
  | .openWindow v p =>
    if w.id = v then { w with isOpen := true, payload := p.or w.payload, zIndex := next } else w
  | .closeWindow v => if w.id = v then { w with isOpen := false } else w
  | .toggleWindow v =>
    if w.id = v then
      if w.isOpen then { w with isOpen := false } else { w with isOpen := true, zIndex := next }
    else w
  | .raise v => if w.id = v then { w with zIndex := next } else w
  | .toggleMaximized v => if w.id = v then { w with isMaximized := !w.isMaximized } else w
  | .toggleEffect _ => w
  | .setSound _ => w

@[simp] theorem onWindow_id (op : WindowOp) (next : UInt32) (w : Window) :
    (op.onWindow next w).id = w.id := by
  unfold onWindow
  grind

@[simp] theorem onWindow_title (op : WindowOp) (next : UInt32) (w : Window) :
    (op.onWindow next w).title = w.title := by
  unfold onWindow
  grind

theorem onWindow_zIndex (op : WindowOp) (next : UInt32) (w : Window) :
    (op.onWindow next w).zIndex = if op.raisesWindow w then next else w.zIndex := by
  unfold onWindow raisesWindow
  grind

/-- Whether a window is open afterwards. -/
def opens (op : WindowOp) (id : WindowId) (before : Bool) : Bool :=
  match op with
  | .openWindow v _ => id = v || before
  | .closeWindow v => id ≠ v && before
  | .toggleWindow v => if id = v then !before else before
  | _ => before

theorem onWindow_isOpen (op : WindowOp) (next : UInt32) (w : Window) :
    (op.onWindow next w).isOpen = op.opens w.id w.isOpen := by
  unfold onWindow opens
  grind

/-- Does the operation raise some window of the manager? -/
def raises (op : WindowOp) (m : Manager) : Bool := m.windows.any op.raisesWindow

end WindowOp

/-! ## All windows -/

namespace Manager

def ids (m : Manager) : List WindowId := m.windows.map Window.id

/-- The windows are those of the registry, in its order. -/
def Registered (m : Manager) : Prop := m.windows.map (fun w => (w.id, w.title)) = registry

theorem registered_fresh : fresh.Registered := by
  unfold Registered
  decide

theorem Registered.ids_eq {m : Manager} (hm : m.Registered) : m.ids = registry.map Prod.fst := by
  rw [← hm, List.map_map]
  rfl

theorem Registered.nodup {m : Manager} (hm : m.Registered) : m.ids.Nodup := by
  rw [hm.ids_eq]
  decide

theorem knows_iff {m : Manager} {id : WindowId} : m.knows id = true ↔ id ∈ m.ids := by
  simp [knows, get?, ids, List.find?_isSome]

/-- Where all names differ, whatever bears a name is what is found under it. -/
theorem find?_eq_some_of_nodup {α β : Type} [DecidableEq β] {name : α → β} {xs : List α}
    (hxs : (xs.map name).Nodup) {x : α} (hx : x ∈ xs) :
    xs.find? (fun y => name y = name x) = some x := by
  obtain ⟨before, after, rfl⟩ := List.append_of_mem hx
  rw [List.find?_eq_some_iff_append]
  refine ⟨by simp, before, after, rfl, ?_⟩
  intro y hy
  rw [List.map_append, List.map_cons] at hxs
  have hne := (List.nodup_append.mp hxs).2.2 (name y) (List.mem_map_of_mem hy) (name x) (by simp)
  simpa using hne

/-- A window is found under its name. -/
theorem get?_eq_some {m : Manager} (hm : m.ids.Nodup) {w : Window} (hw : w ∈ m.windows) :
    m.get? w.id = some w :=
  find?_eq_some_of_nodup hm hw

/-- The place of the window with this name. -/
def place (m : Manager) (id : WindowId) : UInt32 := ((m.get? id).map Window.zIndex).getD 0

theorem place_eq {m : Manager} (hm : m.ids.Nodup) {w : Window} (hw : w ∈ m.windows) :
    m.place w.id = w.zIndex := by
  simp [place, get?_eq_some hm hw]

theorem isOpen_eq {m : Manager} (hm : m.ids.Nodup) {w : Window} (hw : w ∈ m.windows) :
    m.isOpen w.id = w.isOpen := by
  simp [isOpen, get?_eq_some hm hw]

theorem ids_update (m : Manager) (id : WindowId) {f : Window → Window}
    (hf : ∀ w, (f w).id = w.id) : (m.update id f).ids = m.ids := by
  simp only [ids, update, List.map_map]
  refine List.map_congr_left fun w _ => ?_
  by_cases hid : w.id = id <;> simp [hid, hf]

theorem update_of_not_knows {m : Manager} {id : WindowId} (h : m.knows id = false)
    (f : Window → Window) : m.update id f = m := by
  have hnot : id ∉ m.ids := fun hid => by
    rw [knows_iff.mpr hid] at h
    cases h
  have hwindows : (m.windows.map fun w => if w.id = id then f w else w) = m.windows := by
    refine (List.map_congr_left fun w hw => ?_).trans (List.map_id _)
    have hne : w.id ≠ id := fun hid => hnot (hid ▸ List.mem_map_of_mem hw)
    simp [hne]
  simp only [update, hwindows]

/-- Changing a window and raising it at once: the window gets the next place as well. A window that
is not known leaves the manager as it was. -/
theorem raise_update (m : Manager) (id : WindowId) {f : Window → Window}
    (hf : ∀ w, (f w).id = w.id) :
    (m.update id f).raise id =
      if m.knows id then
        { m.update id (fun w => { f w with zIndex := m.counter + 1 }) with counter := m.counter + 1 }
      else m := by
  have hknows : (m.update id f).knows id = m.knows id := by
    rw [Bool.eq_iff_iff, knows_iff, knows_iff, ids_update m id hf]
  unfold raise
  rw [hknows]
  split
  · simp only [update, List.map_map]
    congr 1
    refine List.map_congr_left fun w _ => ?_
    by_cases hid : w.id = id <;> simp [hid, hf]
  · next h => exact update_of_not_knows (by simpa using h) f

end Manager

/-! ## One operation -/

namespace WindowOp

variable {m : Manager}

/-- An operation on a window that is not known changes nothing. -/
theorem apply_of_not_knows {op : WindowOp} {id : WindowId} (hop : op.window? = some id)
    (h : m.knows id = false) : op.apply m = m := by
  have hraise : m.raise id = m := by simp [Manager.raise, h]
  have hopen : ∀ p, m.openWindow id p = m := by
    intro p
    rw [Manager.openWindow, Manager.update_of_not_knows h, hraise]
  have hclose : m.closeWindow id = m := Manager.update_of_not_knows h _
  cases op with
  | openWindow v p =>
    obtain rfl := Option.some.inj hop
    exact hopen p
  | closeWindow v =>
    obtain rfl := Option.some.inj hop
    exact hclose
  | toggleWindow v =>
    obtain rfl := Option.some.inj hop
    rw [apply, Manager.toggleWindow, hclose, hopen, ite_self]
  | raise v =>
    obtain rfl := Option.some.inj hop
    exact hraise
  | toggleMaximized v =>
    obtain rfl := Option.some.inj hop
    exact Manager.update_of_not_knows h _
  | toggleEffect e => cases hop
  | setSound on => cases hop

theorem onWindow_of_ne {op : WindowOp} {w : Window} (h : op.window? ≠ some w.id) (next : UInt32) :
    op.onWindow next w = w := by
  unfold onWindow
  cases op <;> grind [window?]

/-- Such an operation touches no window either when it is told window by window. -/
theorem map_onWindow_of_not_knows {op : WindowOp} {id : WindowId} (hop : op.window? = some id)
    (h : m.knows id = false) (next : UInt32) : m.windows.map (op.onWindow next) = m.windows := by
  refine (List.map_congr_left fun w hw => ?_).trans (List.map_id _)
  refine onWindow_of_ne (fun hw' => ?_) next
  obtain rfl : id = w.id := Option.some.inj (hop.symm.trans hw')
  have hknown := Manager.knows_iff.mpr (List.mem_map_of_mem hw)
  rw [h] at hknown
  cases hknown

/-- **An operation, window by window.** -/
theorem windows_apply (hm : m.ids.Nodup) (op : WindowOp) :
    (op.apply m).windows = m.windows.map (op.onWindow (m.counter + 1)) := by
  cases op with
  | openWindow v p =>
    cases hk : m.knows v with
    | false => rw [apply_of_not_knows rfl hk, map_onWindow_of_not_knows rfl hk]
    | true =>
      rw [apply, Manager.openWindow, Manager.raise_update m v (by simp), if_pos hk]
      rfl
  | closeWindow v => rfl
  | toggleWindow v =>
    cases hk : m.knows v with
    | false => rw [apply_of_not_knows rfl hk, map_onWindow_of_not_knows rfl hk]
    | true =>
      -- the first window of this name, which decides the way, is the only one
      have hsame : ∀ w ∈ m.windows, w.id = v → w.isOpen = m.isOpen v := by
        rintro w hw rfl
        exact (Manager.isOpen_eq hm hw).symm
      rw [apply, Manager.toggleWindow]
      split
      · next hopen =>
        refine List.map_congr_left fun w hw => ?_
        by_cases hid : w.id = v
        · simp [onWindow, hid, hsame w hw hid, hopen]
        · simp [onWindow, hid]
      · next hclosed =>
        rw [Manager.openWindow, Manager.raise_update m v (by simp), if_pos hk]
        refine List.map_congr_left fun w hw => ?_
        by_cases hid : w.id = v
        · simp [onWindow, hid, hsame w hw hid, hclosed]
        · simp [onWindow, hid]
  | raise v =>
    cases hk : m.knows v with
    | false => rw [apply_of_not_knows rfl hk, map_onWindow_of_not_knows rfl hk]
    | true =>
      rw [apply, Manager.raise, if_pos hk]
      rfl
  | toggleMaximized v => rfl
  | toggleEffect e => exact (List.map_id _).symm
  | setSound on => exact (List.map_id _).symm

theorem mem_windows_apply (hm : m.ids.Nodup) {op : WindowOp} {w' : Window} :
    w' ∈ (op.apply m).windows ↔ ∃ w ∈ m.windows, op.onWindow (m.counter + 1) w = w' := by
  rw [windows_apply hm, List.mem_map]

theorem get?_apply (hm : m.ids.Nodup) (op : WindowOp) (id : WindowId) :
    (op.apply m).get? id = (m.get? id).map (op.onWindow (m.counter + 1)) := by
  rw [Manager.get?, windows_apply hm, List.find?_map]
  simp only [Function.comp_def, onWindow_id, Manager.get?]

/-- A window is raised exactly when its name is known and, by a toggle, it was closed. -/
theorem raises_eq (hm : m.ids.Nodup) (op : WindowOp) :
    op.raises m =
      match op with
      | .openWindow v _ | .raise v => m.knows v
      | .toggleWindow v => m.knows v && !m.isOpen v
      | _ => false := by
  have hany : ∀ v, m.windows.any (fun w => w.id = v) = m.knows v := by
    intro v
    rw [Bool.eq_iff_iff, Manager.knows_iff]
    simp [Manager.ids]
  cases op with
  | openWindow v p => exact hany v
  | raise v => exact hany v
  | toggleWindow v =>
    rw [Bool.eq_iff_iff, Bool.and_eq_true, Manager.knows_iff]
    simp only [raises, List.any_eq_true, raisesWindow, Bool.and_eq_true, decide_eq_true_eq]
    constructor
    · rintro ⟨w, hw, rfl, hclosed⟩
      exact ⟨List.mem_map_of_mem hw, by rwa [Manager.isOpen_eq hm hw]⟩
    · rintro ⟨hid, hclosed⟩
      obtain ⟨w, hw, rfl⟩ := List.mem_map.mp hid
      exact ⟨w, hw, rfl, by rwa [Manager.isOpen_eq hm hw] at hclosed⟩
  | closeWindow v => simp [raises, raisesWindow]
  | toggleMaximized v => simp [raises, raisesWindow]
  | toggleEffect e => simp [raises, raisesWindow]
  | setSound on => simp [raises, raisesWindow]

/-- The counter grows by one for a window that is raised. -/
theorem counter_apply (hm : m.ids.Nodup) (op : WindowOp) :
    (op.apply m).counter = if op.raises m then m.counter + 1 else m.counter := by
  rw [raises_eq hm]
  cases op with
  | openWindow v p =>
    rw [apply, Manager.openWindow, Manager.raise_update m v (by simp)]
    split <;> simp_all
  | closeWindow v => rfl
  | toggleWindow v =>
    rw [apply, Manager.toggleWindow]
    split
    · next hopen => simp [hopen, Manager.closeWindow, Manager.update]
    · next hclosed =>
      rw [Manager.openWindow, Manager.raise_update m v (by simp)]
      split <;> simp_all
  | raise v =>
    rw [apply, Manager.raise]
    split <;> simp_all
  | toggleMaximized v => rfl
  | toggleEffect e => rfl
  | setSound on => rfl

end WindowOp

theorem Manager.Registered.apply {m : Manager} (hm : m.Registered) (op : WindowOp) :
    (op.apply m).Registered := by
  rw [Manager.Registered, WindowOp.windows_apply hm.nodup, List.map_map, ← hm]
  simp [Function.comp_def]

end PocketDesk
