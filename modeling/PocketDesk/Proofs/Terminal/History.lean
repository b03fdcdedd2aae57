import PocketDesk.Terminal.History

/-! # Walking through the history

Whatever is done to a history, its entries are the lines that were pushed. The cursor is
walked one step at a time between the oldest entry and the place behind the newest, and
stays at either end when it is asked to go further; what comes back is the entry that it
now stands at. -/

namespace PocketDesk.History

/-- What can be done to a history. -/
inductive Op where
  | push (line : String)
  | park
  | previous
  | next
  deriving DecidableEq, Repr

namespace Op

def apply : Op → History → History
  | .push line, h => h.push line
  | .park, h => h.park
  | .previous, h => h.previous.2
  | .next, h => h.next.2

/-- The line that is pushed. -/
def line? : Op → Option String
  | .push line => some line
  | .park | .previous | .next => none

end Op

/-- A history that was empty and had this done to it. -/
def run (ops : List Op) : History := ops.foldl (fun h op => op.apply h) .empty

/-- The entry at the cursor; there is none behind the newest. -/
def atCursor? (h : History) : Option String := h.entries[h.cursor]?

variable {h : History}

theorem exists_atCursor?_of_lt (hlt : h.cursor < h.size) : ∃ entry, h.atCursor? = some entry :=
  ⟨_, List.getElem?_eq_getElem hlt⟩

theorem atCursor?_eq_none_iff : h.atCursor? = none ↔ h.cursor = h.size := by
  have hle := h.cursor_le
  rw [atCursor?, List.getElem?_eq_none_iff, size]
  omega

/-! ## One step back -/

theorem entries_previous (h : History) : h.previous.2.entries = h.entries := by
  unfold previous
  split <;> rfl

theorem cursor_previous (h : History) : h.previous.2.cursor = h.cursor - 1 := by
  unfold previous
  split
  · next hzero => simp [hzero]
  · rfl

theorem previous_of_eq_zero (hzero : h.cursor = 0) : h.previous = (none, h) := if_pos hzero

/-- A step back from anywhere but the oldest entry comes to an entry. -/
theorem exists_entry_previous (hpos : 0 < h.cursor) :
    ∃ entry, h.previous.2.atCursor? = some entry ∧ h.previous.1 = some entry := by
  have hle := h.cursor_le
  have hlt : h.previous.2.cursor < h.previous.2.size := by
    rw [cursor_previous, size, entries_previous]
    omega
  obtain ⟨entry, hentry⟩ := exists_atCursor?_of_lt hlt
  have hback : h.previous.1 = h.previous.2.atCursor? := by
    rw [previous, if_neg (Nat.ne_of_gt hpos)]
    rfl
  exact ⟨entry, hentry, hback.trans hentry⟩

/-! ## One step forward -/

theorem entries_next (h : History) : h.next.2.entries = h.entries := by
  unfold next
  split <;> rfl

theorem size_next (h : History) : h.next.2.size = h.size := congrArg List.length h.entries_next

theorem cursor_next (h : History) : h.next.2.cursor = min (h.cursor + 1) h.size := by
  have hle := h.cursor_le
  unfold next size
  split
  · next hlt => exact (Nat.min_eq_left (Nat.le_of_lt hlt)).symm
  · next hge =>
    show h.entries.length = _
    omega

/-- What comes back is the entry that the step comes to, if it comes to one. -/
theorem fst_next (h : History) : h.next.1 = h.next.2.atCursor? := by
  unfold next
  split
  · rfl
  · exact (atCursor?_eq_none_iff.mpr rfl).symm

theorem fst_next_of_eq_size (hend : h.next.2.cursor = h.size) : h.next.1 = none := by
  rw [fst_next, atCursor?_eq_none_iff, size_next]
  exact hend

theorem exists_entry_next (hlt : h.next.2.cursor < h.size) :
    ∃ entry, h.next.2.atCursor? = some entry ∧ h.next.1 = some entry := by
  rw [← h.size_next] at hlt
  obtain ⟨entry, hentry⟩ := exists_atCursor?_of_lt hlt
  exact ⟨entry, hentry, h.fst_next.trans hentry⟩

/-! ## Many steps -/

theorem Op.entries_apply (op : Op) (h : History) :
    (op.apply h).entries = h.entries ++ op.line?.toList := by
  cases op with
  | push line => rfl
  | park => exact (List.append_nil _).symm
  | previous => exact (entries_previous h).trans (List.append_nil _).symm
  | next => exact (entries_next h).trans (List.append_nil _).symm

/-- The entries are the lines that were pushed. -/
theorem entries_run (ops : List Op) : (run ops).entries = ops.filterMap Op.line? := by
  have hall : ∀ h : History, (ops.foldl (fun h op => op.apply h) h).entries =
      h.entries ++ ops.filterMap Op.line? := by
    induction ops with
    | nil => exact fun h => (List.append_nil _).symm
    | cons op ops ih =>
      intro h
      rw [List.foldl_cons, ih, Op.entries_apply, List.append_assoc, List.filterMap_cons]
      cases op.line? <;> rfl
  exact hall .empty

end PocketDesk.History
